import RpcSharp.Proofs.Basic
import RpcSharp.Proofs.Binding.Account
import RpcSharp.Proofs.Binding.TreeShape
import RpcSharp.Proofs.Files.Tree

/-! Where the file of a unit is: below the output directory, in the directory of the unit's category
and nowhere else, so that no two units share a file. -/

namespace RpcSharp.Binding

open RpcSharp.Config RpcSharp.Files RpcSharp.Schema RpcSharp.Text UnitId

/-! Joined paths -/

theorem ofText_slash (a b : String) :
    (Path.ofText (a ++ "/" ++ b)).parts = (Path.ofText a).parts ++ (Path.ofText b).parts ∧
      (Path.ofText (a ++ "/" ++ b)).isDirectory = (Path.ofText b).isDirectory ∧
      (a ≠ "" → (Path.ofText (a ++ "/" ++ b)).isAbsolute = (Path.ofText a).isAbsolute) := by
  have text : (a ++ "/" ++ b).toList = a.toList ++ '/' :: b.toList := by simp
  have pieces : splitWhere (· == '/') (a.toList ++ '/' :: b.toList) =
      splitWhere (· == '/') a.toList ++ splitWhere (· == '/') b.toList :=
    splitWhere_append rfl a.toList b.toList
  refine ⟨?_, ?_, fun named => ?_⟩
  · simp only [Path.ofText, text, pieces, List.map_append, List.filter_append]
  · have last : (splitWhere (· == '/') a.toList ++ splitWhere (· == '/') b.toList).getLast? =
        (splitWhere (· == '/') b.toList).getLast? := by
      rw [List.getLast?_append, List.getLast?_eq_some_getLast (splitWhere_ne_nil _ b.toList)]
      rfl
    simp only [Path.ofText, text, pieces, last]
  · have start : a.toList ≠ [] := fun empty => named (String.toList_eq_nil_iff.mp empty)
    obtain ⟨c, rest, chars⟩ := List.exists_cons_of_ne_nil start
    simp only [Path.ofText, text, chars, List.cons_append, List.head?_cons]

/- A path that does not start at the root goes on where the directory ends, which may have a slash
at its end or not. -/
theorem ofText_joinPath {path : String} (relative : path.toList.head? ≠ some '/')
    (directory : String) :
    Path.ofText (joinPath directory path) =
      ⟨(Path.ofText directory).isAbsolute, (Path.ofText directory).parts ++ (Path.ofText path).parts,
        (Path.ofText path).isDirectory⟩ := by
  have below : (path.toList.head? == some '/') = false := beq_eq_false_iff_ne.mpr relative
  by_cases here : directory = ""
  · subst here
    have joined : joinPath "" path = path := by simp [joinPath]
    rw [joined]
    simp [Path.ofText, below, splitWhere]
  · by_cases slash : directory.toList.getLast? = some '/'
    · have joined : joinPath directory path = directory ++ path := by
        simp [joinPath, below, here, slash]
      obtain ⟨front, chars⟩ := List.getLast?_eq_some_iff.mp slash
      have parted : directory = String.ofList front ++ "/" ++ "" := by
        rw [← String.toList_inj]
        simp [chars]
      have long : directory ++ path = String.ofList front ++ "/" ++ path := by
        rw [← String.toList_inj]
        simp [chars]
      have start : (Path.ofText (directory ++ path)).isAbsolute = (Path.ofText directory).isAbsolute := by
        obtain ⟨c, rest, cons⟩ := List.exists_cons_of_ne_nil
          (fun empty => here (String.toList_eq_nil_iff.mp empty))
        simp only [Path.ofText, String.toList_append, cons, List.cons_append, List.head?_cons]
      have parts : (Path.ofText directory).parts = (Path.ofText (String.ofList front)).parts := by
        rw [parted, (ofText_slash _ "").1]
        simp [Path.ofText, splitWhere]
      obtain ⟨names, last, _⟩ := ofText_slash (String.ofList front) path
      rw [joined, ← start, parts]
      rw [← long] at names last
      rw [← names, ← last]
    · have joined : joinPath directory path = directory ++ "/" ++ path := by
        simp [joinPath, below, here, slash]
      obtain ⟨names, last, start⟩ := ofText_slash directory path
      rw [joined, ← names, ← last, ← start here]

/-! Names that stay in their directory -/

/-- The name leads nowhere but to one of the files in a directory. -/
structure IsComponent (name : String) : Prop where
  ne_empty : name ≠ ""
  ne_dot : name ≠ "."
  ne_dots : name ≠ ".."
  plain : ∀ c ∈ name.toList, c ≠ '/' ∧ c ≠ '\\' ∧ c ≠ ':' ∧ c ≠ '\x00'

theorem IsComponent.ofText_eq {name : String} (component : IsComponent name) :
    Path.ofText name = ⟨false, [name], false⟩ := by
  have whole : splitWhere (· == '/') name.toList = [name.toList] :=
    splitWhere_eq_singleton fun c inside => by simp [(component.plain c inside).1]
  have start : (name.toList.head? == some '/') = false := by
    rw [beq_eq_false_iff_ne]
    intro slash
    exact (component.plain '/' (List.mem_of_head? slash)).1 rfl
  have dot : name.toList ≠ ['.'] := fun same => component.ne_dot (String.toList_inj.mp same)
  simp [Path.ofText, whole, start, component.ne_empty, component.ne_dot, dot]

theorem IsComponent.relative {name : String} (component : IsComponent name) :
    name.toList.head? ≠ some '/' :=
  fun slash => (component.plain '/' (List.mem_of_head? slash)).1 rfl

theorem isComponent_category (c : Category) : IsComponent c.name := by
  cases c <;> exact ⟨by decide, by decide, by decide, by simp [Category.name]⟩

theorem isComponent_fileName {u : UnitId} (safe : isFileName u.name = true) :
    IsComponent u.fileName := by
  have chars : u.fileName.toList = u.name.toList ++ ['.', 'c', 's'] := by simp [fileName]
  have long : 3 ≤ u.fileName.toList.length := by simp [chars]
  have ne_short : ∀ s : String, s.toList.length < 3 → u.fileName ≠ s := by
    intro s short same
    rw [same] at long
    omega
  refine ⟨ne_short "" (by decide), ne_short "." (by decide), ne_short ".." (by decide), ?_⟩
  intro c inside
  rw [chars, List.mem_append] at inside
  rcases inside with named | ending
  · simp only [isFileName, Bool.and_eq_true, Bool.not_eq_true', List.any_eq_false] at safe
    simpa [isPathChar, and_assoc] using safe.1.1 c named
  · have plain : ∀ c ∈ ['.', 'c', 's'], c ≠ '/' ∧ c ≠ '\\' ∧ c ≠ ':' ∧ c ≠ '\x00' := by simp
    exact plain c ending

/-! The path of a unit -/

/-- The place of a unit's file below an output directory, from a working directory. -/
def unitPlace (here : Place) (output : String) (u : UnitId) : Place :=
  (Path.ofText (joinPath output u.path)).place here

section Paths

variable {u v : UnitId} (safe : isFileName u.name = true)

include safe

theorem ofText_path : Path.ofText u.path = ⟨false, [u.category.name, u.fileName], false⟩ := by
  have file := isComponent_fileName safe
  have category := isComponent_category u.category
  rw [UnitId.path, ofText_joinPath file.relative, category.ofText_eq, file.ofText_eq]
  rfl

theorem path_relative : u.path.toList.head? ≠ some '/' := by
  have start := congrArg Path.isAbsolute (ofText_path safe)
  simpa [Path.ofText] using start

theorem ofText_joinPath_path (output : String) :
    Path.ofText (joinPath output u.path) =
      ⟨(Path.ofText output).isAbsolute, (Path.ofText output).parts ++ [u.category.name, u.fileName],
        false⟩ := by
  rw [ofText_joinPath (path_relative safe), ofText_path safe]

theorem unitPlace_eq (here : Place) (output : String) :
    unitPlace here output u = (Path.ofText output).place here ++ [u.category.name, u.fileName] := by
  have category := (isComponent_category u.category).ne_dots
  have file := (isComponent_fileName safe).ne_dots
  rw [unitPlace, ofText_joinPath_path safe]
  simp [Path.place, Path.start, Place.child, category, file]

theorem unitPlace_injective (safe' : isFileName v.name = true) {here : Place} {output : String}
    (same : unitPlace here output u = unitPlace here output v) : u = v := by
  rw [unitPlace_eq safe, unitPlace_eq safe'] at same
  have ends := List.append_cancel_left same
  simp only [List.cons.injEq, and_true] at ends
  have names : u.name.toList = v.name.toList := by
    have chars := congrArg String.toList ends.2
    simpa [fileName] using chars
  exact unitId_eq (category_name_injective ends.1) (String.toList_inj.mp names)

end Paths

/-! The units of a document -/

section Valid

variable {d : Document} (valid : d.validate = .ok d) (s : Settings)

include valid

theorem isFileName_of_mem_unitIds {u : UnitId} (known : u ∈ unitIds d) :
    isFileName u.name = true := by
  obtain ⟨c, _, listed⟩ := List.mem_flatMap.mp known
  obtain ⟨name, found, rfl⟩ := List.mem_map.mp listed
  exact Document.isFileName_of_mem_names valid found

theorem isFileName_of_mem_units {u : OutputUnit} (known : u ∈ (compile d s).units) :
    isFileName u.id.name = true :=
  isFileName_of_mem_unitIds valid
    ((compile_ids_dealt d s).sublists.1.subset (List.mem_map_of_mem known))

theorem isFileName_of_mem_diagnostics {x : Diagnostic} (known : x ∈ (compile d s).diagnostics) :
    isFileName x.unit.name = true :=
  isFileName_of_mem_unitIds valid
    ((compile_ids_dealt d s).sublists.2.subset (List.mem_map_of_mem known))

theorem unitPlaces_nodup (here : Place) (output : String) :
    ((compile d s).units.map (unitPlace here output ·.id)).Nodup := by
  have distinct := units_ids_nodup valid s
  have places : (compile d s).units.map (unitPlace here output ·.id) =
      ((compile d s).units.map (·.id)).map (unitPlace here output) := by simp
  rw [places]
  apply distinct.map_on
  intro u first v second same
  obtain ⟨x, known, rfl⟩ := List.mem_map.mp first
  obtain ⟨y, known', rfl⟩ := List.mem_map.mp second
  exact unitPlace_injective (isFileName_of_mem_units valid s known)
    (isFileName_of_mem_units valid s known') same

end Valid

end RpcSharp.Binding
