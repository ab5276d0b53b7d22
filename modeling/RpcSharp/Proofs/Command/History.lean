import RpcSharp.Proofs.Command.Generate

/-! Runs after one another on the same files, each started in a directory of its own. A file is what the
last run that wrote it made of it, however each run spells its path; what no run wrote stays, and a run
that cannot load what it needs leaves everything as it was. -/

namespace RpcSharp.Command

open RpcSharp.Binding RpcSharp.Config RpcSharp.Files RpcSharp.Schema RpcSharp.Text

/-! Calls -/

/-- Arguments that the program takes as a call to generate, and the directory that it is started in. -/
structure Call where
  directory : Place
  arguments : List String
  options : Generate
  meant : Invocation.ofArguments arguments = .generate options

/-- A call, and the world before it. -/
structure Visit where
  before : World
  call : Call

namespace Visit

def options (v : Visit) : Generate := v.call.options

def here (v : Visit) : Place := v.call.directory

/-- The world that the call finds. -/
def found (v : Visit) : World := { v.before with directory := v.here }

def outcome (v : Visit) : Nat × World := run (m := StateM World) v.call.arguments v.found

def exitCode (v : Visit) : Nat := v.outcome.1

/-- The world that the call leaves. -/
def left (v : Visit) : World := v.outcome.2

def path (v : Visit) (u : UnitId) : String := UnitId.joinPath v.options.output u.path

def place (v : Visit) (u : UnitId) : Place := unitPlace v.here v.options.output u

/-- The call finds its settings and its document. -/
def Loads (v : Visit) (s : Settings) (d : Document) : Prop :=
  Command.Loads v.options v.here v.found.tree s d

/-- The unit is in the report of the call. -/
def Emits (v : Visit) (u : OutputUnit) : Prop := ∃ s d, v.Loads s d ∧ u ∈ (compile d s).units

/-- The call can make all directories and write all units of its report. -/
def Unhindered (v : Visit) : Prop :=
  ∀ s d, v.Loads s d → ∃ level w',
    ExceptT.run ((compile d s).units.forM (writeUnit level v.options.output) :
      Run (StateM World) Unit) v.found = (.ok (), w')

end Visit

/-! One call -/

theorem conclude_eq (x : Run (StateM World) Unit) (w : World) :
    Run.conclude x w =
      match ExceptT.run x w with
      | (.ok (), w') => (0, w')
      | (.error failure, w') => (1, { w' with messages := w'.messages ++ failure.text }) := by
  unfold Run.conclude
  change StateT.bind (ExceptT.run x) _ w = _
  unfold StateT.bind
  change (match ExceptT.run x w with | (r, w') => _) = _
  rcases ExceptT.run x w with ⟨r, w'⟩
  cases r with
  | ok a => rfl
  | error failure => rfl

section Conclude

variable {x : Run (StateM World) Unit} {here : Place} {t t' : Tree} {w : World} (files : w.Has here t)

include files

theorem Does.conclude_eq (does : Does here x t (.ok ()) t') :
    (Run.conclude x w).1 = 0 ∧ (Run.conclude x w).2.tree = t' := by
  obtain ⟨w', ran, left⟩ := does w files
  rw [Command.conclude_eq, ran]
  exact ⟨rfl, left.tree⟩

theorem Fails.conclude_eq (fails : Fails here x t t') :
    (Run.conclude x w).1 = 1 ∧ (Run.conclude x w).2.tree = t' := by
  obtain ⟨failure, does⟩ := fails
  obtain ⟨w', ran, left⟩ := does w files
  rw [Command.conclude_eq, ran]
  exact ⟨rfl, left.tree⟩

end Conclude

namespace Visit

variable {v : Visit} {s : Settings} {d : Document}

theorem found_has (v : Visit) : v.found.Has v.here v.found.tree := ⟨rfl, rfl⟩

theorem outcome_eq (v : Visit) :
    v.outcome = Run.conclude (generate v.options : Run (StateM World) Unit) v.found := by
  unfold outcome run
  rw [v.call.meant]
  rfl

/- What a call can do: the units of its report are saved and its diagnostics decide the exit code,
or nothing is loaded and nothing changes. -/
theorem of_loads (loads : v.Loads s d) (unhindered : v.Unhindered) :
    saveAll v.here v.options.output v.found.tree (compile d s).units = .ok v.left.tree ∧
      (v.exitCode = 0 ↔ (compile d s).diagnostics = []) := by
  obtain ⟨level, w', wrote⟩ := unhindered s d loads
  obtain ⟨saved, _⟩ := saveAll_of_forM_writeUnit wrote
  have ends := generate_does loads saved
  unfold left exitCode
  rw [outcome_eq]
  split at ends
  · rename_i success
    obtain ⟨code, files⟩ := ends.conclude_eq v.found_has
    rw [code, files]
    exact ⟨saved, by simpa [Report.isSuccess] using success⟩
  · rename_i failed
    obtain ⟨code, files⟩ := ends.conclude_eq v.found_has
    rw [code, files]
    exact ⟨saved, by simpa [Report.isSuccess] using failed⟩

theorem of_not_loads (none : ¬ ∃ s d, v.Loads s d) :
    v.left.tree = v.found.tree ∧ v.exitCode = 1 := by
  obtain ⟨code, files⟩ := (generate_fails none).conclude_eq v.found_has
  unfold left exitCode
  rw [outcome_eq]
  exact ⟨files, code⟩

theorem unhindered_of_saveAll (loads : v.Loads s d)
    (saves : (saveAll v.here v.options.output v.found.tree (compile d s).units).isOk = true) :
    v.Unhindered := by
  intro s' d' loads'
  obtain ⟨rfl, rfl⟩ := loads.unique loads'
  cases saved : saveAll v.here v.options.output v.found.tree (compile d s).units with
  | error fault =>
    rw [saved] at saves
    cases saves
  | ok t =>
    obtain ⟨w', ran, _⟩ := forM_writeUnit_does .off saved v.found v.found_has
    exact ⟨.off, w', ran⟩

theorem keeps (unhindered : v.Unhindered) : Tree.Keeps v.found.tree v.left.tree := by
  by_cases loading : ∃ s d, v.Loads s d
  · obtain ⟨s, d, loads⟩ := loading
    exact saveAll_keeps (of_loads loads unhindered).1
  · rw [(of_not_loads loading).1]
    exact .refl _

theorem file?_of_emits (unhindered : v.Unhindered) {u : OutputUnit} (emits : v.Emits u) :
    Delivered v.here v.options.output u.id v.left.tree ∧
      v.left.tree.file? (v.place u.id) = some (encode u.source) := by
  obtain ⟨s, d, loads, known⟩ := emits
  exact saveAll_file?_of_mem (of_loads loads unhindered).1
    (unitPlaces_nodup loads.valid s v.here v.options.output) known

theorem file?_of_forall_ne (unhindered : v.Unhindered) {place : Place}
    (other : ∀ u, v.Emits u → v.place u.id ≠ place) :
    v.left.tree.file? place = v.found.tree.file? place := by
  by_cases loading : ∃ s d, v.Loads s d
  · obtain ⟨s, d, loads⟩ := loading
    exact saveAll_file?_of_forall_ne (of_loads loads unhindered).1
      fun u known => other u ⟨s, d, loads, known⟩
  · rw [(of_not_loads loading).1]

/- The place of a unit that does not compile is not that of one that does. -/
theorem place_ne_of_diagnostic (loads : v.Loads s d) {x : Diagnostic}
    (refused : x ∈ (compile d s).diagnostics) {u : OutputUnit} (emits : v.Emits u) :
    v.place u.id ≠ v.place x.unit := by
  obtain ⟨s', d', loads', known⟩ := emits
  obtain ⟨rfl, rfl⟩ := loads.unique loads'
  intro same
  apply id_ne_of_mem loads.valid s known refused
  exact unitPlace_injective (isFileName_of_mem_units loads.valid s known)
    (isFileName_of_mem_diagnostics loads.valid s refused) same

end Visit

/-! Calls after one another -/

/-- Each call finds the world that the one before it left. -/
def visits : World → List Call → List Visit
  | _, [] => []
  | w, c :: cs => ⟨w, c⟩ :: visits (Visit.left ⟨w, c⟩) cs

/-- The world after all calls. -/
def worldAfter : World → List Call → World
  | w, [] => w
  | w, c :: cs => worldAfter (Visit.left ⟨w, c⟩) cs

section Calls

variable {w : World} {calls : List Call}

theorem worldAfter_keeps (unhindered : ∀ v ∈ visits w calls, v.Unhindered) :
    Tree.Keeps w.tree (worldAfter w calls).tree := by
  induction calls generalizing w with
  | nil => exact .refl _
  | cons c cs ih =>
    rw [visits, List.forall_mem_cons] at unhindered
    exact (Visit.keeps unhindered.1).trans (ih unhindered.2)

theorem worldAfter_file?_of_forall_ne (unhindered : ∀ v ∈ visits w calls, v.Unhindered)
    {place : Place} (other : ∀ v ∈ visits w calls, ∀ u, v.Emits u → v.place u.id ≠ place) :
    (worldAfter w calls).tree.file? place = w.tree.file? place := by
  induction calls generalizing w with
  | nil => rfl
  | cons c cs ih =>
    rw [visits, List.forall_mem_cons] at unhindered other
    rw [worldAfter, ih unhindered.2 other.2]
    exact Visit.file?_of_forall_ne unhindered.1 other.1

/- Induction over the calls, down to the one that is looked at. -/
theorem worldAfter_of_emits (unhindered : ∀ v ∈ visits w calls, v.Unhindered)
    {before later : List Visit} {v : Visit} (order : visits w calls = before ++ v :: later)
    {u : OutputUnit} (emits : v.Emits u)
    (last : ∀ v' ∈ later, ∀ u', v'.Emits u' → v'.place u'.id ≠ v.place u.id) :
    Delivered v.here v.options.output u.id (worldAfter w calls).tree ∧
      (worldAfter w calls).tree.file? (v.place u.id) = some (encode u.source) := by
  induction calls generalizing w before with
  | nil => simp [visits] at order
  | cons c cs ih =>
    rw [visits, List.forall_mem_cons] at unhindered
    rw [visits] at order
    cases before with
    | nil =>
      obtain ⟨rfl, rfl⟩ := List.cons.inj order
      obtain ⟨delivered, held⟩ := Visit.file?_of_emits unhindered.1 emits
      refine ⟨delivered.keep (worldAfter_keeps unhindered.2), ?_⟩
      rw [worldAfter, worldAfter_file?_of_forall_ne unhindered.2 last, held]
    | cons first before =>
      exact ih unhindered.2 (List.cons.inj order).2

end Calls

/-- After calls that can write all that they emit, a file that some call emitted holds the source
that the last such call gave it, and every other file is as it was at first. In particular a call
leaves alone the file of a unit that does not compile, and all files and directories if its settings
or its document cannot be loaded; its exit code is 0 exactly if it loads both and every unit
compiles. -/
theorem last_writer_wins (w : World) (calls : List Call)
    (unhindered : ∀ v ∈ visits w calls, v.Unhindered) :
    (∀ before v later, visits w calls = before ++ v :: later → ∀ u, v.Emits u →
      (∀ v' ∈ later, ∀ u', v'.Emits u' → v'.place u'.id ≠ v.place u.id) →
        (worldAfter w calls).tree.file? (v.place u.id) = some (encode u.source) ∧
        (worldAfter w calls).tree.read v.here (v.path u.id) = .ok (encode u.source)) ∧
    (∀ place, (∀ v ∈ visits w calls, ∀ u, v.Emits u → v.place u.id ≠ place) →
      (worldAfter w calls).tree.file? place = w.tree.file? place) ∧
    ∀ v ∈ visits w calls,
      (∀ s d, v.Loads s d → ∀ x ∈ (compile d s).diagnostics,
        v.left.tree.file? (v.place x.unit) = v.found.tree.file? (v.place x.unit)) ∧
      ((¬ ∃ s d, v.Loads s d) → v.left.tree = v.found.tree) ∧
      (v.exitCode = 0 ↔ ∃ s d, v.Loads s d ∧ (compile d s).diagnostics = []) := by
  refine ⟨fun before v later order u emits last => ?_,
    fun place other => worldAfter_file?_of_forall_ne unhindered other,
    fun v visit => ⟨fun s d loads x refused => ?_, fun none => (Visit.of_not_loads none).1, ?_⟩⟩
  · obtain ⟨delivered, held⟩ := worldAfter_of_emits unhindered order emits last
    exact ⟨held, delivered.read_eq held⟩
  · apply Visit.file?_of_forall_ne (unhindered v visit)
    exact fun u emits => Visit.place_ne_of_diagnostic loads refused emits
  · constructor
    · intro success
      by_contra none
      by_cases loading : ∃ s d, v.Loads s d
      · obtain ⟨s, d, loads⟩ := loading
        exact none ⟨s, d, loads, (Visit.of_loads loads (unhindered v visit)).2.mp success⟩
      · rw [(Visit.of_not_loads loading).2] at success
        contradiction
    · rintro ⟨s, d, loads, compiles⟩
      exact (Visit.of_loads loads (unhindered v visit)).2.mpr compiles

/- Two structs, of which one does not compile in the other document. -/
def gameDocument : Document where
  structTypes := [{ name := "Game" }, { name := "Mod" }]

def modDocument : Document where
  structTypes := [{ name := "Game", fields := [{ name := "all", type := "List<Game>" }] },
    { name := "Mod" }]

def settingsText : String := "base_namespace=\"W\"\nindent=\" \""

theorem settingsText_read :
    Settings.ofText settingsText = .ok { baseNamespace := "W", indent := " " } := by
  have tokens : Toml.tokens settingsText.toList =
      [.word "base_namespace".toList, .equals, .text "W" true, .newline, .word "indent".toList,
        .equals, .text " " true] := by decide +kernel
  have table : Toml.read? settingsText =
      some [("base_namespace", .text "W"), ("indent", .text " ")] := by
    simp [Toml.read?, tokens, Toml.readLines, Toml.readLine, Toml.readKey, Toml.keyPart?,
      Toml.isBareKey, Toml.valueIn, Toml.resume, Toml.endLine, Toml.Table.modify, Toml.Table.insert,
      Toml.Table.get?, Toml.Table.add]
  unfold Settings.ofText
  rw [table]
  decide +kernel

def rivalWorld : World where
  tree := ⟨[
    (["w"], .directory),
    (["w", "game.json"], .file (encode ("\x7b\"requests\":[],\"notifications\":[]," ++
      "\"structTypes\":[[\"Game\"],[\"Mod\"]],\"enumTypes\":[]\x7d"))),
    (["w", "mod.json"], .file (encode ("\x7b\"requests\":[],\"notifications\":[]," ++
      "\"structTypes\":[[\"Game\",\"\",[[\"all\",\"\",\"List<Game>\"]]],[\"Mod\"]]," ++
      "\"enumTypes\":[]\x7d"))),
    (["w", "set.toml"], .file (encode settingsText))]⟩

def lostCall : Call where
  directory := ["w"]
  arguments := ["generate", "-s", "lost.json", "-o", "out"]
  options := { schema := "lost.json", output := "out" }
  meant := by decide +kernel

def gameCall : Call where
  directory := ["w"]
  arguments := ["generate", "-s", "game.json", "-o", "out"]
  options := { schema := "game.json", output := "out" }
  meant := by decide +kernel

/- Started in the directory that the call before made, and with settings of its own. -/
def modCall : Call where
  directory := ["w", "out"]
  arguments := ["generate", "--schema=/w/mod.json", "-o../../w/out", "-c", "../set.toml", "-n", "M",
    "--parallel", "--log-level", "off"]
  options := { schema := "/w/mod.json", output := "../../w/out", config := some "../set.toml",
               «namespace» := some "M", parallel := true, logLevel := some "off" }
  meant := by decide +kernel

def modSettings : Settings where
  baseNamespace := "M"
  indent := " "
  parallel := true
  logLevel := "off"

def lostVisit : Visit := ⟨rivalWorld, lostCall⟩

def gameVisit : Visit := ⟨lostVisit.left, gameCall⟩

def modVisit : Visit := ⟨gameVisit.left, modCall⟩

theorem lostVisit_not_loads : ¬ ∃ s d, lostVisit.Loads s d := by
  rintro ⟨s, d, _, document⟩
  have missing : documentOfBytes "lost.json" (rivalWorld.tree.read ["w"] "lost.json") =
      .error (.unreadable "lost.json" .notFound) := by decide +kernel
  cases missing.symm.trans (documentFor_iff.mp document)

theorem gameVisit_loads : gameVisit.Loads {} gameDocument :=
  ⟨⟨⟨{}, .preset, overridden_iff.mpr rfl⟩, by decide +kernel⟩, documentFor_iff.mpr (by decide +kernel)⟩

theorem modVisit_loads : modVisit.Loads modSettings modDocument := by
  have read : modVisit.found.tree.read ["w", "out"] "../set.toml" = .ok (encode settingsText) := by
    decide +kernel
  have decoded : textOf? (encode settingsText) = some settingsText := by decide +kernel
  have overridden : Overridden modVisit.options { baseNamespace := "W", indent := " " } modSettings :=
    ⟨.inl rfl, by decide, .inl rfl, rfl, rfl⟩
  exact ⟨⟨⟨_, .file read decoded settingsText_read, overridden⟩, by decide +kernel⟩,
    documentFor_iff.mpr (by decide +kernel)⟩

theorem rivals_unhindered : ∀ v ∈ [lostVisit, gameVisit, modVisit], v.Unhindered := by
  simp only [List.forall_mem_cons]
  refine ⟨fun s d loads => absurd ⟨s, d, loads⟩ lostVisit_not_loads, ?_, ?_, by simp⟩
  · exact Visit.unhindered_of_saveAll gameVisit_loads (by decide +kernel)
  · exact Visit.unhindered_of_saveAll modVisit_loads (by decide +kernel)

/- The last call names the directory of the one before it in another way. It leaves alone the file of the
unit that does not compile in it, and gives the other one the source that its own settings make. -/
theorem rivals_last_writer :
    visits rivalWorld [lostCall, gameCall, modCall] = [lostVisit, gameVisit, modVisit] ∧
    (∀ v ∈ [lostVisit, gameVisit, modVisit], v.Unhindered) ∧
    lostVisit.left.tree = rivalWorld.tree ∧
    (∃ u ∈ (compile gameDocument {}).units, u.id = ⟨.structs, "Game"⟩ ∧
      modVisit.left.tree.file? ["w", "out", "Structs", "Game.cs"] = some (encode u.source)) ∧
    (∃ u ∈ (compile modDocument modSettings).units, u.id = ⟨.structs, "Mod"⟩ ∧
      modVisit.left.tree.file? ["w", "out", "Structs", "Mod.cs"] = some (encode u.source)) ∧
    gameVisit.place ⟨.structs, "Mod"⟩ = ["w", "out", "Structs", "Mod.cs"] ∧
    gameVisit.exitCode = 0 ∧ modVisit.exitCode ≠ 0 := by
  have order :
      visits rivalWorld [lostCall, gameCall, modCall] = [lostVisit, gameVisit, modVisit] := rfl
  have final : worldAfter rivalWorld [lostCall, gameCall, modCall] = modVisit.left := rfl
  have laws := last_writer_wins rivalWorld [lostCall, gameCall, modCall]
  rw [order, final] at laws
  obtain ⟨written, _, each⟩ := laws rivals_unhindered
  simp only [List.forall_mem_cons] at each
  obtain ⟨⟨_, unchanged, _⟩, ⟨_, _, gameExit⟩, ⟨_, _, modExit⟩, _⟩ := each
  refine ⟨order, rivals_unhindered, unchanged lostVisit_not_loads, ?_, ?_, by decide +kernel,
    gameExit.mpr ⟨_, _, gameVisit_loads, by decide +kernel⟩, ?_⟩
  · have known : ∃ u ∈ (compile gameDocument {}).units, u.id = ⟨.structs, "Game"⟩ := by
      decide +kernel
    obtain ⟨u, known, named⟩ := known
    have place : gameVisit.place u.id = ["w", "out", "Structs", "Game.cs"] := by
      rw [named]
      decide +kernel
    have elsewhere : ∀ u ∈ (compile modDocument modSettings).units,
        modVisit.place u.id ≠ ["w", "out", "Structs", "Game.cs"] := by decide +kernel
    have last : ∀ v' ∈ [modVisit], ∀ u', v'.Emits u' → v'.place u'.id ≠ gameVisit.place u.id := by
      rintro v' single u' ⟨s, d, loads, known'⟩
      obtain rfl := List.mem_singleton.mp single
      obtain ⟨rfl, rfl⟩ := modVisit_loads.unique loads
      rw [place]
      exact elsewhere u' known'
    rw [← place]
    refine ⟨u, known, named, ?_⟩
    exact (written [lostVisit] gameVisit [modVisit] rfl u ⟨_, _, gameVisit_loads, known⟩ last).1
  · have known : ∃ u ∈ (compile modDocument modSettings).units, u.id = ⟨.structs, "Mod"⟩ := by
      decide +kernel
    obtain ⟨u, known, named⟩ := known
    have place : modVisit.place u.id = ["w", "out", "Structs", "Mod.cs"] := by
      rw [named]
      decide +kernel
    rw [← place]
    refine ⟨u, known, named, ?_⟩
    exact (written [lostVisit, gameVisit] modVisit [] rfl u ⟨_, _, modVisit_loads, known⟩
      (by simp)).1
  · intro success
    obtain ⟨s, d, loads, clean⟩ := modExit.mp success
    obtain ⟨rfl, rfl⟩ := modVisit_loads.unique loads
    have refused : (compile modDocument modSettings).diagnostics ≠ [] := by decide +kernel
    exact refused clean

end RpcSharp.Command
