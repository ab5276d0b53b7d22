import RpcSharp.Proofs.Command.Save

/-! What a run that generates does: it loads its settings and its document, or fails and leaves the
files as they are; then it saves the units of the report, and the diagnostics decide how it ends. -/

namespace RpcSharp.Command

open RpcSharp.Binding RpcSharp.Config RpcSharp.Files RpcSharp.Schema RpcSharp.Text

/-! What a run loads -/

/-- The settings of a file, which are accepted as they stand, or those that are preset. -/
inductive BaseSettings (here : Place) (t : Tree) : Option String → Settings → Prop
  | preset : BaseSettings here t none {}
  | file {path text : String} {bytes : List UInt8} {s : Settings} :
      t.read here path = .ok bytes → textOf? bytes = some text → Settings.ofText text = .ok s →
        BaseSettings here t (some path) s

/-- Settings with those of the arguments over them: the namespace and the log level that are given, and
units side by side as soon as one of the two asks for it. -/
structure Overridden (o : Generate) (base s : Settings) : Prop where
  baseNamespace : o.namespace = some s.baseNamespace ∨
    o.namespace = none ∧ s.baseNamespace = base.baseNamespace
  parallel : s.parallel = true ↔ base.parallel = true ∨ o.parallel = true
  logLevel : o.logLevel = some s.logLevel ∨ o.logLevel = none ∧ s.logLevel = base.logLevel
  indent : s.indent = base.indent
  extraUsings : s.extraUsings = base.extraUsings

/-- The settings that a run goes by. -/
structure SettingsFor (o : Generate) (here : Place) (t : Tree) (s : Settings) : Prop where
  overridden : ∃ base, BaseSettings here t o.config base ∧ Overridden o base s
  valid : s.validate = .ok s

def DocumentFor (o : Generate) (here : Place) (t : Tree) (d : Document) : Prop :=
  ∃ bytes, t.read here o.schema = .ok bytes ∧ Document.ofBytes bytes = .ok d

/-- The files give a run its settings and its document. -/
structure Loads (o : Generate) (here : Place) (t : Tree) (s : Settings) (d : Document) : Prop where
  settings : SettingsFor o here t s
  document : DocumentFor o here t d

section Loading

variable {o : Generate} {here : Place} {t : Tree} {base s s' : Settings} {d d' : Document}

theorem given_or_kept_iff {given : Option String} {value kept : String} :
    given = some value ∨ given = none ∧ value = kept ↔ value = given.getD kept := by
  cases given <;> simp [eq_comm]

theorem overridden_iff : Overridden o base s ↔ s = o.override base := by
  constructor
  · rintro ⟨space, parallel, level, indent, usings⟩
    rw [given_or_kept_iff] at space level
    rw [← Bool.or_eq_true, ← Bool.eq_iff_iff] at parallel
    cases s
    simp only at space parallel level indent usings
    simp only [Generate.override, space, parallel, level, indent, usings]
  · rintro rfl
    exact ⟨given_or_kept_iff.mpr rfl, by simp [Generate.override], given_or_kept_iff.mpr rfl, rfl, rfl⟩

theorem validate_eq_ok (accepted : s.validate = .ok s') :
    s = s' ∧ ∃ level, s.level = .ok level := by
  unfold Settings.validate at accepted
  split at accepted
  · contradiction
  split at accepted
  · contradiction
  split at accepted
  · contradiction
  cases parsed : s.level with
  | error fault =>
    rw [parsed] at accepted
    cases accepted
  | ok level =>
    rw [parsed] at accepted
    cases accepted
    exact ⟨rfl, level, rfl⟩

theorem settingsFor_iff :
    SettingsFor o here t s ↔
      ∃ base, BaseSettings here t o.config base ∧ (o.override base).validate = .ok s := by
  constructor
  · rintro ⟨⟨base, found, overridden⟩, valid⟩
    cases overridden_iff.mp overridden
    exact ⟨base, found, valid⟩
  · rintro ⟨base, found, valid⟩
    obtain ⟨rfl, _⟩ := validate_eq_ok valid
    exact ⟨⟨base, found, overridden_iff.mpr rfl⟩, valid⟩

theorem baseSettings_file_iff {path : String} :
    BaseSettings here t (some path) s ↔ settingsOfBytes path (t.read here path) = .ok s := by
  constructor
  · rintro ⟨⟩
    rename_i text bytes read decoded accepted
    simp only [read, settingsOfBytes, decoded, mapError_eq_ok_iff]
    exact accepted
  · intro loaded
    cases read : t.read here path with
    | error fault =>
      rw [read] at loaded
      contradiction
    | ok bytes =>
      simp only [read, settingsOfBytes] at loaded
      cases decoded : textOf? bytes with
      | none =>
        rw [decoded] at loaded
        contradiction
      | some text =>
        simp only [decoded, mapError_eq_ok_iff] at loaded
        exact .file read decoded loaded

theorem documentFor_iff : DocumentFor o here t d ↔ documentOfBytes o.schema (t.read here o.schema) = .ok d := by
  unfold DocumentFor
  cases t.read here o.schema with
  | error fault => simp [documentOfBytes]
  | ok bytes => simp [documentOfBytes, mapError_eq_ok_iff]

theorem baseSettings_unique {config : Option String} (one : BaseSettings here t config s)
    (two : BaseSettings here t config s') : s = s' := by
  cases config with
  | none =>
    cases one
    cases two
    rfl
  | some path =>
    rw [baseSettings_file_iff] at one two
    exact Except.ok.inj (one.symm.trans two)

theorem Loads.unique (one : Loads o here t s d) (two : Loads o here t s' d') : s = s' ∧ d = d' := by
  obtain ⟨base, found, accepted⟩ := settingsFor_iff.mp one.settings
  obtain ⟨base', found', accepted'⟩ := settingsFor_iff.mp two.settings
  cases baseSettings_unique found found'
  have document := (documentFor_iff.mp one.document).symm.trans (documentFor_iff.mp two.document)
  exact ⟨Except.ok.inj (accepted.symm.trans accepted'), Except.ok.inj document⟩

theorem Loads.valid (loads : Loads o here t s d) : d.validate = .ok d := by
  obtain ⟨bytes, _, loaded⟩ := loads.document
  exact Document.validate_of_ofGlyphs loaded

end Loading

/-! The steps of a run -/

section Steps

variable {o : Generate} {here : Place} {t t' : Tree} {s : Settings} {d : Document}

theorem does_loadSettings (path : String) :
    Does here (liftM (loadSettings path : StateM World _) : Run (StateM World) _) t
      (.ok (settingsOfBytes path (t.read here path))) t :=
  does_lift fun w files => ⟨w, by obtain ⟨rfl, rfl⟩ := files; rfl, files⟩

theorem does_loadDocument (path : String) :
    Does here (liftM (loadDocument path : StateM World _) : Run (StateM World) _) t
      (.ok (documentOfBytes path (t.read here path))) t :=
  does_lift fun w files => ⟨w, by obtain ⟨rfl, rfl⟩ := files; rfl, files⟩

theorem settings_does (found : SettingsFor o here t s) : Does here o.settings t (.ok s) t := by
  obtain ⟨base, loaded, accepted⟩ := settingsFor_iff.mp found
  unfold Generate.settings
  cases config : o.config with
  | none =>
    rw [config] at loaded
    cases loaded
    refine (does_pure _).bind ?_
    simp only [accepted]
    exact does_pure s
  | some path =>
    rw [config, baseSettings_file_iff] at loaded
    refine (does_loadSettings path).bind ?_
    simp only [loaded]
    refine (does_pure _).bind ?_
    simp only [accepted]
    exact does_pure s

theorem settings_fails (none : ¬ ∃ s, SettingsFor o here t s) : Fails here o.settings t t := by
  have refused : ∀ base, BaseSettings here t o.config base →
      ∃ fault, (o.override base).validate = .error fault := by
    intro base loaded
    cases accepted : (o.override base).validate with
    | error fault => exact ⟨fault, rfl⟩
    | ok s => exact absurd ⟨s, settingsFor_iff.mpr ⟨base, loaded, accepted⟩⟩ none
  unfold Generate.settings
  cases config : o.config with
  | none =>
    obtain ⟨fault, invalid⟩ := refused {} (config ▸ .preset)
    refine (does_pure _).bind_fails ?_
    simp only [invalid]
    exact fails_throw _
  | some path =>
    refine (does_loadSettings path).bind_fails ?_
    cases loaded : settingsOfBytes path (t.read here path) with
    | error e => exact (fails_throw _).bind _
    | ok base =>
      obtain ⟨fault, invalid⟩ := refused base (config ▸ baseSettings_file_iff.mpr loaded)
      refine (does_pure base).bind_fails ?_
      simp only [invalid]
      exact fails_throw _

theorem schema_does (level : LogLevel) (found : DocumentFor o here t d) :
    Does here (schema level o.schema) t (.ok d) t := by
  have loaded := documentFor_iff.mp found
  unfold schema
  refine (tells_log _ _ _).does.bind ((does_loadDocument o.schema).bind ?_)
  simp only [loaded]
  exact (tells_log _ _ _).does.bind (does_pure d)

theorem schema_fails (level : LogLevel) (none : ¬ ∃ d, DocumentFor o here t d) :
    Fails here (schema level o.schema) t t := by
  unfold schema
  refine (tells_log _ _ _).does.bind_fails ((does_loadDocument o.schema).bind_fails ?_)
  cases loaded : documentOfBytes o.schema (t.read here o.schema) with
  | error e => exact fails_throw _
  | ok d => exact absurd ⟨d, documentFor_iff.mpr loaded⟩ none

theorem tells_logReport (level : LogLevel) (s : Settings) (d : Document) (r : Report) :
    Tells (logReport level s d r) :=
  (tells_forM fun _ => tells_log _ _ _).bind
    ((tells_forM fun _ => tells_log _ _ _).bind (tells_log _ _ _))

theorem does_forM_tells {α : Type} {f : α → StateM World Unit} (each : ∀ a, Tells (f a))
    (as : List α) :
    Does here (as.forM fun a => (liftM (f a) : Run (StateM World) Unit)) t (.ok ()) t := by
  induction as with
  | nil => exact does_pure ()
  | cons a as ih => exact (each a).does.bind ih

/- Once the units are written, only the diagnostics decide how the run ends. -/
theorem generate_does (loads : Loads o here t s d)
    (saved : saveAll here o.output t (compile d s).units = .ok t') :
    if (compile d s).isSuccess then Does here (generate o) t (.ok ()) t' else Fails here (generate o) t t' := by
  obtain ⟨_, level, parsed⟩ := validate_eq_ok loads.settings.valid
  split
  · rename_i success
    unfold generate
    refine (settings_does loads.settings).bind ?_
    simp only [parsed]
    refine (does_pure level).bind ((schema_does level loads.document).bind ?_)
    refine (tells_logReport level s d _).does.bind ((forM_writeUnit_does level saved).bind ?_)
    refine (tells_print _).does.bind ((does_forM_tells (fun _ => tells_complain _) _).bind ?_)
    simp only [success]
    exact does_pure ()
  · rename_i failed
    unfold generate
    refine (settings_does loads.settings).bind_fails ?_
    simp only [parsed]
    refine (does_pure level).bind_fails ((schema_does level loads.document).bind_fails ?_)
    refine (tells_logReport level s d _).does.bind_fails
      ((forM_writeUnit_does level saved).bind_fails ?_)
    refine (tells_print _).does.bind_fails
      ((does_forM_tells (fun _ => tells_complain _) _).bind_fails ?_)
    simp only [failed]
    exact fails_throw _

theorem generate_fails (none : ¬ ∃ s d, Loads o here t s d) : Fails here (generate o) t t := by
  unfold generate
  by_cases settings : ∃ s, SettingsFor o here t s
  · obtain ⟨s, found⟩ := settings
    obtain ⟨_, level, parsed⟩ := validate_eq_ok found.valid
    refine (settings_does found).bind_fails ?_
    simp only [parsed]
    refine (does_pure level).bind_fails (Fails.bind ?_ _)
    exact schema_fails level fun ⟨d, document⟩ => none ⟨s, d, found, document⟩
  · exact (settings_fails settings).bind _

end Steps

end RpcSharp.Command
