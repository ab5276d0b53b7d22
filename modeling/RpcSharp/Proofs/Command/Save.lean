import RpcSharp.Command.Run
import RpcSharp.Proofs.Binding.UnitPath
import RpcSharp.Proofs.Text.Utf8

/-! What is left in the files when the units of a document have been written: each unit's file holds
its source, and every other file is as it was. -/

namespace RpcSharp.Command

open RpcSharp.Binding RpcSharp.Config RpcSharp.Files RpcSharp.Schema RpcSharp.Text

/-! What a run does to the files -/

section Does

variable {α β : Type} {here : Place} {t t' t'' : Tree}

/-- The world has these files, seen from this working directory. -/
structure World.Has (w : World) (here : Place) (t : Tree) : Prop where
  directory : w.directory = here
  tree : w.tree = t

theorem World.has_self (w : World) : w.Has w.directory w.tree := ⟨rfl, rfl⟩

/-- Whatever has been said, a run on these files ends so and leaves those, in the same working
directory. -/
def Does (here : Place) (x : Run (StateM World) α) (t : Tree) (r : Except Failure α) (t' : Tree) :
    Prop :=
  ∀ w : World, w.Has here t → ∃ w', ExceptT.run x w = (r, w') ∧ w'.Has here t'

theorem does_pure (a : α) : Does here (pure a) t (.ok a) t :=
  fun w files => ⟨w, rfl, files⟩

theorem run_bind (x : Run (StateM World) α) (f : α → Run (StateM World) β) (w : World) :
    ExceptT.run (x >>= f) w =
      match ExceptT.run x w with
      | (.ok a, w') => ExceptT.run (f a) w'
      | (.error failure, w') => (.error failure, w') := by
  rw [ExceptT.run_bind]
  change StateT.bind (ExceptT.run x) _ w = _
  unfold StateT.bind
  change (match ExceptT.run x w with | (r, w') => _) = _
  rcases ExceptT.run x w with ⟨r, w'⟩
  cases r with
  | ok a => rfl
  | error failure => rfl

theorem Does.bind {x : Run (StateM World) α} {f : α → Run (StateM World) β} {a : α}
    {r : Except Failure β} (first : Does here x t (.ok a) t') (second : Does here (f a) t' r t'') :
    Does here (x >>= f) t r t'' := by
  intro w files
  obtain ⟨w', ran, files'⟩ := first w files
  obtain ⟨w'', ran', files''⟩ := second w' files'
  refine ⟨w'', ?_, files''⟩
  rw [run_bind, ran]
  exact ran'

/-- A run on these files fails and leaves those. -/
def Fails (here : Place) (x : Run (StateM World) α) (t t' : Tree) : Prop :=
  ∃ failure, Does here x t (.error failure) t'

theorem fails_throw (failure : Failure) : Fails here (throw failure : Run (StateM World) α) t t :=
  ⟨failure, fun w files => ⟨w, rfl, files⟩⟩

theorem Fails.bind {x : Run (StateM World) α} (first : Fails here x t t')
    (f : α → Run (StateM World) β) : Fails here (x >>= f) t t' := by
  obtain ⟨failure, does⟩ := first
  refine ⟨failure, fun w files => ?_⟩
  obtain ⟨w', ran, files'⟩ := does w files
  refine ⟨w', ?_, files'⟩
  rw [run_bind, ran]

theorem Does.bind_fails {x : Run (StateM World) α} {f : α → Run (StateM World) β} {a : α}
    (first : Does here x t (.ok a) t') (second : Fails here (f a) t' t'') :
    Fails here (x >>= f) t t'' := by
  obtain ⟨failure, does⟩ := second
  exact ⟨failure, first.bind does⟩

theorem Does.unique {x : Run (StateM World) α} {r r' : Except Failure α} {w w' : World}
    (does : Does w.directory x w.tree r t) (ran : ExceptT.run x w = (r', w')) :
    r' = r ∧ w'.Has w.directory t := by
  obtain ⟨w'', ran', files⟩ := does w w.has_self
  cases ran.symm.trans ran'
  exact ⟨rfl, files⟩

/-- Only the streams are written to. -/
def Tells (x : StateM World Unit) : Prop := ∀ w : World, (x w).2.Has w.directory w.tree

theorem tells_print (text : String) : Tells (Host.print text) := fun _ => ⟨rfl, rfl⟩

theorem tells_complain (text : String) : Tells (Host.complain text) := fun _ => ⟨rfl, rfl⟩

theorem tells_log (level gravity : LogLevel) (text : String) : Tells (log level gravity text) := by
  intro w
  unfold log
  split
  · exact tells_complain _ w
  · exact w.has_self

theorem Tells.bind {x y : StateM World Unit} (first : Tells x) (second : Tells y) :
    Tells (x >>= fun _ => y) := by
  intro w
  have started := first w
  have ended := second (x w).2
  exact ⟨ended.directory.trans started.directory, ended.tree.trans started.tree⟩

theorem tells_forM {as : List α} {f : α → StateM World Unit} (each : ∀ a, Tells (f a)) :
    Tells (as.forM f) := by
  induction as with
  | nil => exact fun w => w.has_self
  | cons a as ih => exact (each a).bind ih

theorem Tells.does {x : StateM World Unit} (tells : Tells x) :
    Does here (liftM x : Run (StateM World) Unit) t (.ok ()) t := by
  rintro w ⟨rfl, rfl⟩
  exact ⟨(x w).2, rfl, tells w⟩

/- An action that says how it went, and so never ends the run by itself. -/
theorem does_lift {x : StateM World α} {a : α}
    (ends : ∀ w : World, w.Has here t → ∃ w', x w = (a, w') ∧ w'.Has here t') :
    Does here (liftM x : Run (StateM World) α) t (.ok a) t' := by
  intro w files
  obtain ⟨w', ran, files'⟩ := ends w files
  exact ⟨w', congrArg (fun o : α × World => (Except.ok o.1, o.2)) ran, files'⟩

theorem change_eq {f : Tree → Place → Except Files.Fault Tree} (changed : f t here = .ok t')
    (w : World) (files : w.Has here t) :
    ∃ w', World.change f w = (.ok (), w') ∧ w'.Has here t' := by
  obtain ⟨rfl, rfl⟩ := files
  exact ⟨{ w with tree := t' }, by simp only [World.change, changed], rfl, rfl⟩

theorem change_eq_error {f : Tree → Place → Except Files.Fault Tree} {fault : Files.Fault}
    (refused : f t here = .error fault) (w : World) (files : w.Has here t) :
    ∃ w', World.change f w = (.error fault, w') ∧ w'.Has here t := by
  obtain ⟨rfl, rfl⟩ := files
  exact ⟨w, by simp only [World.change, refused], w.has_self⟩

variable {path text : String} {fault : Files.Fault}

theorem does_makeDirectories (made : t.makeDirectoriesAt here path = .ok t') :
    Does here (liftM (Host.makeDirectories path : StateM World _) : Run (StateM World) _) t
      (.ok (.ok ())) t' :=
  does_lift (change_eq made)

theorem does_makeDirectories_error (refused : t.makeDirectoriesAt here path = .error fault) :
    Does here (liftM (Host.makeDirectories path : StateM World _) : Run (StateM World) _) t
      (.ok (.error fault)) t :=
  does_lift (change_eq_error refused)

theorem does_write (written : t.write here path text.toUTF8.toList = .ok t') :
    Does here (liftM (Host.write path text : StateM World _) : Run (StateM World) _) t
      (.ok (.ok ())) t' :=
  does_lift (change_eq written)

theorem does_write_error (refused : t.write here path text.toUTF8.toList = .error fault) :
    Does here (liftM (Host.write path text : StateM World _) : Run (StateM World) _) t
      (.ok (.error fault)) t :=
  does_lift (change_eq_error refused)

end Does

/-! Units in their files -/

/-- The files after a unit has been written, with the directory for it. -/
def save (here : Place) (output : String) (t : Tree) (u : OutputUnit) : Except Files.Fault Tree := do
  let t ← t.makeDirectoriesAt here (UnitId.joinPath output u.id.category.name)
  t.write here (UnitId.joinPath output u.id.path) u.source.toUTF8.toList

def saveAll (here : Place) (output : String) (t : Tree) (us : List OutputUnit) :
    Except Files.Fault Tree :=
  us.foldlM (save here output) t

section Save

variable {here : Place} {output : String} {t t' : Tree} {u : OutputUnit}

theorem save_eq_ok (saved : save here output t u = .ok t') :
    ∃ grown, Tree.Grows t grown ∧
      grown.write here (UnitId.joinPath output u.id.path) (encode u.source) = .ok t' := by
  rw [save, bind_eq_ok_iff] at saved
  obtain ⟨grown, made, written⟩ := saved
  refine ⟨grown, Tree.makeDirectoriesAt_grows made, ?_⟩
  rw [← toUTF8_toList]
  exact written

theorem save_file?_self (saved : save here output t u = .ok t') :
    t'.file? (unitPlace here output u.id) = some (encode u.source) := by
  obtain ⟨grown, _, written⟩ := save_eq_ok saved
  exact Tree.write_file?_self written

theorem save_file?_of_ne (saved : save here output t u = .ok t') {place : Place}
    (other : unitPlace here output u.id ≠ place) : t'.file? place = t.file? place := by
  obtain ⟨grown, grows, written⟩ := save_eq_ok saved
  rw [Tree.write_file?_of_ne written other.symm, grows.file?_eq]

theorem save_keeps (saved : save here output t u = .ok t') : Tree.Keeps t t' := by
  obtain ⟨grown, grows, written⟩ := save_eq_ok saved
  exact grows.keeps.trans (Tree.write_keeps written)

/-- The path of a unit's file leads to it. -/
structure Delivered (here : Place) (output : String) (u : UnitId) (t : Tree) : Prop where
  ne_empty : UnitId.joinPath output u.path ≠ ""
  isFile : (Path.ofText (UnitId.joinPath output u.path)).isDirectory = false
  reaches : Tree.Reaches t here (.ofText (UnitId.joinPath output u.path))

theorem save_delivered (saved : save here output t u = .ok t') : Delivered here output u.id t' := by
  obtain ⟨grown, _, written⟩ := save_eq_ok saved
  obtain ⟨named, reaches, isFile, _, _⟩ := Tree.write_eq_ok written
  exact ⟨named, isFile, reaches.keep (Tree.write_keeps written)⟩

theorem Delivered.keep {u : UnitId} (delivered : Delivered here output u t) (keeps : Tree.Keeps t t') :
    Delivered here output u t' :=
  ⟨delivered.ne_empty, delivered.isFile, delivered.reaches.keep keeps⟩

theorem Delivered.read_eq {u : UnitId} (delivered : Delivered here output u t) {content : List UInt8}
    (held : t.file? (unitPlace here output u) = some content) :
    t.read here (UnitId.joinPath output u.path) = .ok content :=
  Tree.read_eq_ok delivered.ne_empty delivered.reaches delivered.isFile held

end Save

section SaveAll

variable {here : Place} {output : String} {t t' : Tree} {us : List OutputUnit}

theorem saveAll_cons {u : OutputUnit} (saved : saveAll here output t (u :: us) = .ok t') :
    ∃ next, save here output t u = .ok next ∧ saveAll here output next us = .ok t' := by
  rw [saveAll, List.foldlM_cons, bind_eq_ok_iff] at saved
  exact saved

theorem saveAll_keeps (saved : saveAll here output t us = .ok t') : Tree.Keeps t t' := by
  induction us generalizing t with
  | nil =>
    cases saved
    exact .refl _
  | cons u us ih =>
    obtain ⟨next, first, rest⟩ := saveAll_cons saved
    exact (save_keeps first).trans (ih rest)

theorem saveAll_file?_of_forall_ne (saved : saveAll here output t us = .ok t') {place : Place}
    (other : ∀ u ∈ us, unitPlace here output u.id ≠ place) : t'.file? place = t.file? place := by
  induction us generalizing t with
  | nil =>
    cases saved
    rfl
  | cons u us ih =>
    obtain ⟨next, first, rest⟩ := saveAll_cons saved
    rw [ih rest fun v known => other v (List.mem_cons_of_mem u known)]
    exact save_file?_of_ne first (other u List.mem_cons_self)

/- A unit is not overwritten by those after it, since each has a place of its own. -/
theorem saveAll_file?_of_mem (saved : saveAll here output t us = .ok t')
    (distinct : (us.map (unitPlace here output ·.id)).Nodup) {u : OutputUnit} (known : u ∈ us) :
    Delivered here output u.id t' ∧ t'.file? (unitPlace here output u.id) = some (encode u.source) := by
  induction us generalizing t with
  | nil => contradiction
  | cons v us ih =>
    obtain ⟨next, first, rest⟩ := saveAll_cons saved
    rw [List.map_cons, List.nodup_cons] at distinct
    rcases List.mem_cons.mp known with rfl | later
    · have apart : ∀ v ∈ us, unitPlace here output v.id ≠ unitPlace here output u.id :=
        fun v listed same => distinct.1 (same ▸ List.mem_map_of_mem listed)
      refine ⟨(save_delivered first).keep (saveAll_keeps rest), ?_⟩
      rw [saveAll_file?_of_forall_ne rest apart]
      exact save_file?_self first
    · exact ih rest distinct.2 later

end SaveAll

/-! Writing is saving -/

section Write

variable (level : LogLevel) {here : Place} {output : String} {t t' : Tree}

theorem writeUnit_does {u : OutputUnit} (saved : save here output t u = .ok t') :
    Does here (writeUnit level output u) t (.ok ()) t' := by
  rw [save, bind_eq_ok_iff] at saved
  obtain ⟨grown, made, written⟩ := saved
  unfold writeUnit
  refine (does_makeDirectories made).bind ?_
  refine (does_write written).bind ?_
  exact (tells_log level .debug _).does

theorem writeUnit_fails {u : OutputUnit} {fault : Files.Fault}
    (refused : save here output t u = .error fault) : ∃ t', Fails here (writeUnit level output u) t t' := by
  unfold save at refused
  unfold writeUnit
  cases made : t.makeDirectoriesAt here (UnitId.joinPath output u.id.category.name) with
  | error fault => exact ⟨t, (does_makeDirectories_error made).bind_fails ((fails_throw _).bind _)⟩
  | ok grown =>
    rw [made] at refused
    refine ⟨grown, (does_makeDirectories made).bind_fails ?_⟩
    exact (does_write_error refused).bind_fails ((fails_throw _).bind _)

theorem forM_writeUnit_does {us : List OutputUnit} (saved : saveAll here output t us = .ok t') :
    Does here (us.forM (writeUnit level output)) t (.ok ()) t' := by
  induction us generalizing t with
  | nil =>
    cases saved
    exact does_pure ()
  | cons u us ih =>
    obtain ⟨next, first, rest⟩ := saveAll_cons saved
    exact (writeUnit_does level first).bind (ih rest)

theorem forM_writeUnit_fails {us : List OutputUnit} {fault : Files.Fault}
    (refused : saveAll here output t us = .error fault) :
    ∃ t', Fails here (us.forM (writeUnit level output)) t t' := by
  induction us generalizing t with
  | nil => contradiction
  | cons u us ih =>
    unfold saveAll at refused
    rw [List.foldlM_cons] at refused
    cases first : save here output t u with
    | error fault =>
      obtain ⟨t', fails⟩ := writeUnit_fails level first
      exact ⟨t', fails.bind _⟩
    | ok next =>
      rw [first] at refused
      obtain ⟨t', fails⟩ := ih refused
      exact ⟨t', (writeUnit_does level first).bind_fails fails⟩

end Write

theorem saveAll_of_forM_writeUnit {us : List OutputUnit} {level : LogLevel} {output : String}
    {w w' : World}
    (ran : ExceptT.run (us.forM (writeUnit level output) : Run (StateM World) Unit) w = (.ok (), w')) :
    saveAll w.directory output w.tree us = .ok w'.tree ∧ w'.directory = w.directory := by
  cases saved : saveAll w.directory output w.tree us with
  | error fault =>
    obtain ⟨t, failure, fails⟩ := forM_writeUnit_fails level saved
    obtain ⟨impossible, _⟩ := fails.unique ran
    contradiction
  | ok t =>
    obtain ⟨_, files⟩ := (forM_writeUnit_does level saved).unique ran
    exact ⟨by rw [files.tree], files.directory⟩

/-- The file of each unit of a document that is loaded is in the directory of the unit's category,
whatever the output directory, and in no other place; no two units share one. So after all have been
written, each file holds the source of its unit. -/
theorem units_confined (d : Document)
    (loaded : (∃ text, Document.ofText text = .ok d) ∨ ∃ bytes, Document.ofBytes bytes = .ok d)
    (s : Settings) :
    (∀ u ∈ (compile d s).units,
      Path.ofText u.id.path = ⟨false, [u.id.category.name, u.id.name ++ ".cs"], false⟩ ∧
      IsComponent u.id.category.name ∧ IsComponent (u.id.name ++ ".cs") ∧
      ∀ output, Path.ofText (UnitId.joinPath output u.id.path) =
        ⟨(Path.ofText output).isAbsolute,
          (Path.ofText output).parts ++ [u.id.category.name, u.id.name ++ ".cs"], false⟩) ∧
    ((compile d s).units.map fun u => Path.ofText u.id.path).Nodup ∧
    ∀ level output w w',
      ExceptT.run ((compile d s).units.forM (writeUnit level output) : Run (StateM World) Unit) w =
          (.ok (), w') →
        ∀ u ∈ (compile d s).units,
          w'.read (UnitId.joinPath output u.id.path) = .ok (encode u.source) := by
  have valid : d.validate = .ok d := by
    rcases loaded with ⟨text, read⟩ | ⟨bytes, read⟩
    · exact Document.validate_of_ofGlyphs read
    · exact Document.validate_of_ofGlyphs read
  refine ⟨fun u known => ?_, ?_, fun level output w w' ran u known => ?_⟩
  · have safe := isFileName_of_mem_units valid s known
    exact ⟨ofText_path safe, isComponent_category _, isComponent_fileName safe,
      ofText_joinPath_path safe⟩
  · have places := unitPlaces_nodup valid s [] ""
    have joined : ∀ u : OutputUnit, unitPlace [] "" u.id = (Path.ofText u.id.path).place [] := by
      intro u
      simp [unitPlace, UnitId.joinPath]
    apply List.Nodup.of_map (Path.place [])
    simpa [joined, Function.comp_def] using places
  · obtain ⟨saved, stayed⟩ := saveAll_of_forM_writeUnit ran
    obtain ⟨delivered, held⟩ := saveAll_file?_of_mem saved (unitPlaces_nodup valid s _ output) known
    rw [World.read, stayed]
    exact delivered.read_eq held

/- Names that are all but the directory above, in two categories. -/
def dotsDocument : Document where
  structTypes := [{ name := "..." }, { name := "..cs" }]
  enumTypes := [{ name := "..." }]

theorem dotsDocument_confined :
    (∃ text, Document.ofText text = .ok dotsDocument) ∧
    ((compile dotsDocument {}).units.map fun u => Path.ofText u.id.path).Nodup ∧
    ∃ w' : World, ∀ u ∈ (compile dotsDocument {}).units,
      w'.read (UnitId.joinPath "out/" u.id.path) = .ok (encode u.source) := by
  have loaded : Document.ofText ("\x7b\"requests\":[],\"notifications\":[],\"structTypes\":" ++
      "[\x7b\"name\":\"...\"\x7d,[\"..cs\"]],\"enumTypes\":[\x7b\"name\":\"...\"\x7d]\x7d") =
        .ok dotsDocument := by decide +kernel
  obtain ⟨_, distinct, written⟩ := units_confined dotsDocument (.inl ⟨_, loaded⟩) {}
  have saved : (saveAll [] "out/" {} (compile dotsDocument {}).units).isOk = true := by
    decide +kernel
  cases outcome : saveAll [] "out/" {} (compile dotsDocument {}).units with
  | error fault =>
    rw [outcome] at saved
    cases saved
  | ok t =>
    obtain ⟨w', ran, _⟩ := forM_writeUnit_does .off outcome {} ⟨rfl, rfl⟩
    exact ⟨⟨_, loaded⟩, distinct, w', written .off "out/" {} w' ran⟩

end RpcSharp.Command
