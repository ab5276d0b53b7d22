import RpcSharp.Files.Tree
import RpcSharp.Proofs.Basic

/-! What reading, writing and making directories do to a tree. A path means one place from a working
directory, whatever is in the tree; nothing is ever removed, and a file changes only where it is
written. -/

namespace RpcSharp.Files

/-! Places -/

/-- The place that a name means, seen from another. -/
def Place.child (place : Place) (name : String) : Place :=
  if name = ".." then parent place else place ++ [name]

/-- The place that a path means from a working directory. -/
def Path.place (here : Place) (p : Path) : Place := p.parts.foldl Place.child (p.start here)

namespace Tree

variable {t t' t'' : Tree} {here place q : Place} {p : Path} {name : String}

theorem enter_eq_ok_iff :
    t.enter place name = .ok q ↔
      t.get? place = some .directory ∧ (name = ".." ∨ name.utf8ByteSize ≤ maxNameBytes) ∧
        q = place.child name := by
  unfold enter Place.child
  split
  · rename_i absent
    simp [absent]
  · rename_i content file
    simp [file]
  · rename_i directory
    by_cases up : name = ".."
    · simp [up, directory, eq_comm]
    · by_cases long : name.utf8ByteSize > maxNameBytes
      · simp [up, long, Nat.not_le.mpr long]
      · simp [up, long, directory, eq_comm, Nat.not_lt.mp long]

theorem foldlM_enter_eq {parts : List String} (found : parts.foldlM t.enter place = .ok q) :
    q = parts.foldl Place.child place := by
  induction parts generalizing place with
  | nil => exact (Except.ok.inj found).symm
  | cons name parts ih =>
    rw [List.foldlM_cons, bind_eq_ok_iff] at found
    obtain ⟨next, first, rest⟩ := found
    obtain ⟨_, _, rfl⟩ := enter_eq_ok_iff.mp first
    exact ih rest

/-- All that a path goes through is there. -/
def Reaches (t : Tree) (here : Place) (p : Path) : Prop :=
  p.parts.foldlM t.enter (p.start here) = .ok (p.place here)

/-- The directories of a tree are also in another. -/
def Keeps (t t' : Tree) : Prop :=
  ∀ place, t.get? place = some .directory → t'.get? place = some .directory

theorem Keeps.refl (t : Tree) : Keeps t t := fun _ directory => directory

theorem Keeps.trans (first : Keeps t t') (second : Keeps t' t'') : Keeps t t'' :=
  fun place directory => second place (first place directory)

theorem Reaches.keep (reaches : Reaches t here p) (keeps : Keeps t t') : Reaches t' here p := by
  unfold Reaches at reaches ⊢
  generalize p.place here = q at reaches ⊢
  generalize p.start here = place at reaches ⊢
  generalize p.parts = parts at reaches ⊢
  induction parts generalizing place with
  | nil => exact reaches
  | cons name parts ih =>
    rw [List.foldlM_cons, bind_eq_ok_iff] at reaches ⊢
    obtain ⟨next, first, rest⟩ := reaches
    obtain ⟨directory, short, step⟩ := enter_eq_ok_iff.mp first
    have again : t'.enter place name = .ok next :=
      enter_eq_ok_iff.mpr ⟨keeps place directory, short, step⟩
    exact ⟨next, again, ih next rest⟩

theorem locate_eq_ok_iff :
    t.locate here p = .ok q ↔
      Reaches t here p ∧ q = p.place here ∧
        ¬ (p.isDirectory = true ∧ ∃ content, t.get? q = some (.file content)) := by
  unfold locate Reaches
  cases walked : p.parts.foldlM t.enter (p.start here) with
  | error fault => simp [bind, Except.bind]
  | ok place =>
    have same : place = p.place here := foldlM_enter_eq walked
    subst same
    simp only [bind, Except.bind, true_and]
    split
    · rename_i content file
      by_cases only : p.isDirectory = true
      · simp only [only, if_true, reduceCtorEq, true_and, false_iff, not_and, Classical.not_not]
        rintro rfl
        exact ⟨content, file⟩
      · simp [only, eq_comm]
    · rename_i other
      constructor
      · rintro ⟨⟩
        exact ⟨rfl, fun found => found.2.elim fun content file => other content file⟩
      · rintro ⟨rfl, _⟩
        rfl

/-! Changes -/

theorem ne_nil_of_get? (free : t.get? place ≠ some .directory) : place ≠ [] := by
  rintro rfl
  exact free rfl

theorem get?_eq_lookup (below : place ≠ []) : t.get? place = t.nodes.lookup place := by
  simp [get?, below]

theorem lookup_filter_ne {nodes : List (Place × Node)} (other : q ≠ place) :
    (nodes.filter (·.1 != place)).lookup q = nodes.lookup q := by
  induction nodes with
  | nil => rfl
  | cons entry nodes ih =>
    obtain ⟨first, node⟩ := entry
    by_cases removed : first = place
    · have differs : (q == first) = false := beq_eq_false_iff_ne.mpr (removed ▸ other)
      rw [List.filter_cons_of_neg (by simp [removed]), ih, List.lookup_cons, differs]
    · rw [List.filter_cons_of_pos (by simp [removed]), List.lookup_cons, List.lookup_cons, ih]

theorem get?_put_self (below : place ≠ []) (node : Node) :
    (t.put place node).get? place = some node := by
  rw [get?_eq_lookup below, put, List.lookup_cons_self]

theorem get?_put_of_ne (other : q ≠ place) (node : Node) : (t.put place node).get? q = t.get? q := by
  have differs : (q == place) = false := beq_eq_false_iff_ne.mpr other
  simp only [get?, put, List.lookup_cons, differs, lookup_filter_ne other]

/-- The content of the file at a place. -/
def file? (t : Tree) (place : Place) : Option (List UInt8) :=
  match t.get? place with
  | some (.file content) => some content
  | _ => none

theorem file?_eq_some_iff {content : List UInt8} :
    t.file? place = some content ↔ t.get? place = some (.file content) := by
  unfold file?
  split
  · rename_i found file
    simp [file]
  · rename_i other
    constructor
    · intro found
      contradiction
    · intro file
      exact (other content file).elim

theorem file?_congr (same : t'.get? place = t.get? place) : t'.file? place = t.file? place := by
  unfold file?
  rw [same]

/-- The tree has become another by directories where nothing was. -/
def Grows (t t' : Tree) : Prop :=
  ∀ place, t'.get? place = t.get? place ∨
    (t.get? place = none ∧ t'.get? place = some .directory)

theorem Grows.refl (t : Tree) : Grows t t := fun _ => .inl rfl

theorem Grows.trans (first : Grows t t') (second : Grows t' t'') : Grows t t'' := by
  intro place
  rcases second place with same | ⟨absent, made⟩
  · rw [same]
    exact first place
  · rcases first place with same | ⟨_, directory⟩
    · exact .inr ⟨same ▸ absent, made⟩
    · rw [directory] at absent
      contradiction

theorem Grows.keeps (grows : Grows t t') : Keeps t t' := by
  intro place directory
  rcases grows place with same | ⟨_, made⟩
  · exact same.trans directory
  · exact made

theorem Grows.file?_eq (grows : Grows t t') (place : Place) : t'.file? place = t.file? place := by
  rcases grows place with same | ⟨absent, made⟩
  · exact file?_congr same
  · simp [file?, absent, made]

theorem makeDirectory_grows (made : t.makeDirectory here p = .ok t') : Grows t t' := by
  rw [makeDirectory, bind_eq_ok_iff] at made
  obtain ⟨place, _, made⟩ := made
  split at made
  · contradiction
  · rename_i absent
    cases made
    intro q
    by_cases same : q = place
    · subst same
      have below : q ≠ [] := ne_nil_of_get? (t := t) (by simp [absent])
      exact .inr ⟨absent, get?_put_self below .directory⟩
    · exact .inl (get?_put_of_ne same .directory)

theorem eq_of_present
    (found : (if t.isDirectory here p = true then .ok t else .error .alreadyExists :
      Except Fault Tree) = .ok t') : t = t' := by
  split at found
  · exact Except.ok.inj found
  · contradiction

/- The way up ends at a directory that is there, and the way down only makes what is missing. -/
theorem makeDirectories_grows {count : Nat} (made : t.makeDirectories here p count = .ok t') :
    Grows t t' := by
  induction count generalizing t' with
  | zero =>
    cases made
    exact .refl t
  | succ count ih =>
    simp only [makeDirectories] at made
    split at made
    · rename_i grown first
      cases made
      exact makeDirectory_grows first
    · rw [bind_eq_ok_iff] at made
      obtain ⟨grown, below, made⟩ := made
      have above : Grows t grown := ih below
      split at made
      · cases eq_of_present made
        exact above
      · exact above.trans (makeDirectory_grows made)
    · cases eq_of_present made
      exact .refl t
    · contradiction

theorem makeDirectoriesAt_grows {path : String} (made : t.makeDirectoriesAt here path = .ok t') :
    Grows t t' :=
  makeDirectories_grows made

theorem write_eq_ok {path : String} {content : List UInt8}
    (written : t.write here path content = .ok t') :
    path ≠ "" ∧ Reaches t here (.ofText path) ∧ (Path.ofText path).isDirectory = false ∧
      t.get? ((Path.ofText path).place here) ≠ some .directory ∧
      t' = t.put ((Path.ofText path).place here) (.file content) := by
  unfold write at written
  split at written
  · contradiction
  · rename_i named
    rw [bind_eq_ok_iff] at written
    obtain ⟨place, found, written⟩ := written
    obtain ⟨reaches, rfl, _⟩ := locate_eq_ok_iff.mp found
    split at written
    · contradiction
    · rename_i free
      simp only [Bool.or_eq_true, decide_eq_true_eq, not_or, Bool.not_eq_true] at free
      exact ⟨named, reaches, free.2, free.1, (Except.ok.inj written).symm⟩

theorem read_eq_ok {path : String} {content : List UInt8} (named : path ≠ "")
    (reaches : Reaches t here (.ofText path)) (plain : (Path.ofText path).isDirectory = false)
    (held : t.file? ((Path.ofText path).place here) = some content) :
    t.read here path = .ok content := by
  have located : t.locate here (.ofText path) = .ok ((Path.ofText path).place here) :=
    locate_eq_ok_iff.mpr ⟨reaches, rfl, by simp [plain]⟩
  unfold read
  rw [if_neg named, located]
  simp only [bind, Except.bind, file?_eq_some_iff.mp held]

section Write

variable {path : String} {content : List UInt8} (written : t.write here path content = .ok t')

include written

theorem write_keeps : Keeps t t' := by
  obtain ⟨_, _, _, free, rfl⟩ := write_eq_ok written
  intro place directory
  by_cases same : place = (Path.ofText path).place here
  · exact absurd (same ▸ directory) free
  · exact (get?_put_of_ne same _).trans directory

theorem write_file?_self : t'.file? ((Path.ofText path).place here) = some content := by
  obtain ⟨_, _, _, free, rfl⟩ := write_eq_ok written
  exact file?_eq_some_iff.mpr (get?_put_self (ne_nil_of_get? free) _)

theorem write_file?_of_ne (other : place ≠ (Path.ofText path).place here) :
    t'.file? place = t.file? place := by
  obtain ⟨_, _, _, _, rfl⟩ := write_eq_ok written
  exact file?_congr (get?_put_of_ne other _)

end Write

end Tree

end RpcSharp.Files
