import RpcSharp.Proofs.Basic
import RpcSharp.Schema.Load

/-! What it means that the names of a document are accepted, and the dotted parts of a name. -/

namespace RpcSharp.Schema

open RpcSharp.Text

theorem namesFault_eq_none_iff (seen names : List String) :
    namesFault seen names = none ↔
      (∀ name ∈ names, name ≠ "" ∧ isFileName name = true ∧ name ∉ seen) ∧ names.Nodup := by
  induction names generalizing seen with
  | nil => simp [namesFault]
  | cons name rest ih =>
    simp only [namesFault]
    split
    · rename_i empty
      simp [empty]
    · rename_i nonempty
      split
      · rename_i unsound
        simp_all
      · rename_i sound
        split
        · rename_i known
          simp_all
        · rename_i fresh
          rw [ih]
          simp only [List.mem_cons, List.nodup_cons, forall_eq_or_imp]
          simp only [Bool.not_eq_true, Bool.not_eq_false', List.contains_eq_mem,
            decide_eq_false_iff_not] at sound fresh
          constructor
          · rintro ⟨later, distinct⟩
            refine ⟨⟨⟨nonempty, sound, fresh⟩, fun other known => ?_⟩, fun again => ?_, distinct⟩
            · have h := later other known
              exact ⟨h.1, h.2.1, fun seen => h.2.2 (.inr seen)⟩
            · exact (later name again).2.2 (.inl rfl)
          · rintro ⟨⟨_, later⟩, unique, distinct⟩
            refine ⟨fun other known => ?_, distinct⟩
            have h := later other known
            refine ⟨h.1, h.2.1, ?_⟩
            rintro (rfl | seen)
            · exact unique known
            · exact h.2.2 seen

theorem Document.validate_eq_ok_iff (d : Document) :
    d.validate = .ok d ↔ ∀ c, namesFault [] (d.names c) = none := by
  have sound : d.nameFault = none ↔ ∀ c, namesFault [] (d.names c) = none := by
    simp only [nameFault, Category.all, List.findSome?_eq_none_iff, Option.map_eq_none_iff]
    constructor
    · intro h c
      exact h c (by cases c <;> simp)
    · exact fun h c _ => h c
  rw [← sound, validate]
  cases d.nameFault <;> simp

theorem Document.isFileName_of_mem_names {d : Document} (valid : d.validate = .ok d)
    {c : Category} {name : String} (known : name ∈ d.names c) : isFileName name = true :=
  have sound := (namesFault_eq_none_iff [] _).mp (d.validate_eq_ok_iff.mp valid c)
  (sound.1 name known).2.1

theorem Document.isPathChar_of_mem_name {d : Document} (valid : d.validate = .ok d) {c : Category}
    {name : String} (known : name ∈ d.names c) {char : Char} (inside : char ∈ name.toList) :
    isPathChar char = false := by
  have sound := isFileName_of_mem_names valid known
  simp only [isFileName, Bool.and_eq_true, Bool.not_eq_true', List.any_eq_false] at sound
  simpa using sound.1.1 char inside

theorem Document.names_nodup {d : Document} (valid : d.validate = .ok d) (c : Category) :
    (d.names c).Nodup :=
  ((namesFault_eq_none_iff [] _).mp (d.validate_eq_ok_iff.mp valid c)).2

/- A document that is loaded has been checked. -/
theorem Document.validate_of_ofGlyphs {s : List Glyph} {d : Document}
    (loaded : ofGlyphs s = .ok d) : d.validate = .ok d := by
  unfold ofGlyphs at loaded
  split at loaded
  · rename_i read _
    have same : read = d := by
      unfold validate at loaded
      split at loaded
      · contradiction
      · exact Except.ok.inj loaded
    exact same ▸ loaded
  · contradiction

/-- The parts of a method's name between the dots. -/
def segments (method : String) : List String :=
  (splitWhere (· == '.') method.toList).map String.ofList

theorem segments_ne_nil (method : String) : segments method ≠ [] := by
  simp [segments, splitWhere_ne_nil]

theorem intercalate_segments (method : String) : ".".intercalate (segments method) = method := by
  have pieces : (segments method).map String.toList = splitWhere (· == '.') method.toList := by
    simp [segments, List.map_map, Function.comp_def]
  rw [← String.toList_inj, String.toList_intercalate, pieces]
  exact intercalate_splitWhere '.' method.toList

theorem segments_injective {method other : String} (same : segments method = segments other) :
    method = other := by
  rw [← intercalate_segments method, same, intercalate_segments]

/-- The last part of a method's name. -/
def leafName (method : String) : String := (segments method).getLast (segments_ne_nil method)

theorem leafName_eq {method leaf : String} {outer : List String}
    (parts : segments method = outer ++ [leaf]) : leafName method = leaf := by
  simp [leafName, parts]

/-- No segment of an accepted name has a character that leads out of a directory. -/
theorem isPathChar_of_mem_segments {d : Document} (valid : d.validate = .ok d) {c : Category}
    {method segment : String} (known : method ∈ d.names c) (part : segment ∈ segments method)
    {char : Char} (inside : char ∈ segment.toList) : isPathChar char = false := by
  obtain ⟨piece, found, rfl⟩ := List.mem_map.mp part
  have within := mem_of_mem_splitWhere found (String.toList_ofList ▸ inside)
  exact Document.isPathChar_of_mem_name valid known within

end RpcSharp.Schema
