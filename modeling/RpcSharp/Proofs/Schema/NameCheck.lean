import RpcSharp.Proofs.Schema.Names

/-! The check of a document's names. It accepts exactly the documents whose names are sound. Of any
other document it reports the first category that has a faulty name, and the first such name. -/

namespace RpcSharp.Schema

/-- A name that leads out of its directory, or is one. -/
def Escapes (name : String) : Prop :=
  (∃ c ∈ name.toList, c ∈ ['/', '\\', ':', '\x00']) ∨ name = "." ∨ name = ".."

theorem isFileName_iff (name : String) : isFileName name = true ↔ ¬ Escapes name := by
  have marked : name.toList.any isPathChar = true ↔
      ∃ c ∈ name.toList, c ∈ ['/', '\\', ':', '\x00'] := by
    simp [isPathChar, or_assoc]
  rw [Escapes, ← marked]
  simp [isFileName, and_assoc]

/-- Names that can stand side by side as the names of files. -/
structure SoundNames (names : List String) : Prop where
  nonempty : ∀ name ∈ names, name ≠ ""
  safe : ∀ name ∈ names, ¬ Escapes name
  distinct : names.Nodup

/-- A place with a name that is empty, leads out of its directory or stands further in front. -/
def FaultyAt (names : List String) (i : Nat) : Prop :=
  ∃ name, names[i]? = some name ∧ (name = "" ∨ Escapes name ∨ name ∈ names.take i)

/-- What is reported of the name at a place: that it is empty, else that it is no file name, else
that it is repeated. -/
inductive Reported (names : List String) (i : Nat) : String → NameFault → Prop
  | empty : Reported names i "" (.empty i)
  | notFileName {name : String} :
      name ≠ "" → Escapes name → Reported names i name (.notFileName name)
  | repeated {name : String} :
      name ≠ "" → ¬ Escapes name → name ∈ names.take i → Reported names i name (.repeated name)

/-- The first place with a faulty name, and what is reported of that. -/
structure FirstFault (names : List String) (i : Nat) (fault : NameFault) : Prop where
  here : ∃ name, names[i]? = some name ∧ Reported names i name fault
  first : ∀ j < i, ¬ FaultyAt names j

theorem FirstFault.faulty {names : List String} {i : Nat} {fault : NameFault}
    (found : FirstFault names i fault) : FaultyAt names i := by
  obtain ⟨name, listed, reported⟩ := found.here
  refine ⟨name, listed, ?_⟩
  cases reported with
  | empty => exact .inl rfl
  | notFileName _ escapes => exact .inr (.inl escapes)
  | repeated _ _ again => exact .inr (.inr again)

theorem Reported.unique {names : List String} {i : Nat} {name : String} {fault fault' : NameFault}
    (one : Reported names i name fault) (two : Reported names i name fault') : fault = fault' := by
  cases one <;> cases two <;> first | rfl | contradiction

theorem FirstFault.unique {names : List String} {i i' : Nat} {fault fault' : NameFault}
    (one : FirstFault names i fault) (two : FirstFault names i' fault') : fault = fault' := by
  have same : i = i' := by
    rcases Nat.lt_trichotomy i i' with less | same | more
    · exact absurd one.faulty (two.first i less)
    · exact same
    · exact absurd two.faulty (one.first i' more)
  subst same
  obtain ⟨name, listed, reported⟩ := one.here
  obtain ⟨name', listed', reported'⟩ := two.here
  cases listed.symm.trans listed'
  exact reported.unique reported'

/- The loop has seen exactly the names in front of the rest, and found nothing wrong with them. -/
theorem namesFault_cases (earlier rest : List String)
    (clean : ∀ j < earlier.length, ¬ FaultyAt (earlier ++ rest) j) :
    (namesFault earlier.reverse rest = none ∧ ∀ j, ¬ FaultyAt (earlier ++ rest) j) ∨
    ∃ i fault, namesFault earlier.reverse rest = some fault ∧
      FirstFault (earlier ++ rest) i fault := by
  induction rest generalizing earlier with
  | nil =>
    refine .inl ⟨rfl, fun j faulty => ?_⟩
    have within : j < earlier.length := by
      obtain ⟨name, listed, _⟩ := faulty
      simpa using (List.getElem?_eq_some_iff.mp listed).1
    exact clean j within faulty
  | cons name rest ih =>
    have here : (earlier ++ name :: rest)[earlier.length]? = some name := by simp
    have before : (earlier ++ name :: rest).take earlier.length = earlier := by simp
    have found {fault : NameFault} (reported : Reported (earlier ++ name :: rest) earlier.length name fault)
        (result : namesFault earlier.reverse (name :: rest) = some fault) :
        ∃ i fault, namesFault earlier.reverse (name :: rest) = some fault ∧
          FirstFault (earlier ++ name :: rest) i fault :=
      ⟨earlier.length, fault, result, ⟨name, here, reported⟩, clean⟩
    by_cases empty : name = ""
    · subst empty
      exact .inr (found .empty (by simp [namesFault]))
    by_cases escapes : Escapes name
    · refine .inr (found (.notFileName empty escapes) ?_)
      have bad : isFileName name = false := by
        rw [← Bool.not_eq_true, isFileName_iff]
        exact not_not_intro escapes
      simp [namesFault, empty, bad]
    have good : isFileName name = true := (isFileName_iff name).mpr escapes
    by_cases again : name ∈ earlier
    · refine .inr (found (.repeated empty escapes (before.symm ▸ again)) ?_)
      simp [namesFault, empty, good, again]
    · have step : namesFault earlier.reverse (name :: rest) =
          namesFault (earlier ++ [name]).reverse rest := by
        simp [namesFault, empty, good, again]
      have whole : earlier ++ name :: rest = earlier ++ [name] ++ rest := by simp
      rw [step, whole]
      apply ih
      intro j within
      rw [← whole]
      rcases Nat.lt_succ_iff_lt_or_eq.mp (by simpa using within) with less | rfl
      · exact clean j less
      · rintro ⟨other, listed, faulty⟩
        cases here.symm.trans listed
        rw [before] at faulty
        rcases faulty with h | h | h
        · exact empty h
        · exact escapes h
        · exact again h

theorem namesFault_eq_some_iff (names : List String) (fault : NameFault) :
    namesFault [] names = some fault ↔ ∃ i, FirstFault names i fault := by
  rcases namesFault_cases [] names (by simp) with ⟨none, clean⟩ | ⟨i, found, reported, first⟩
  · refine iff_of_false (by simp_all) ?_
    rintro ⟨i, first⟩
    exact clean i first.faulty
  · constructor
    · intro same
      cases reported.symm.trans same
      exact ⟨i, first⟩
    · rintro ⟨j, other⟩
      rw [other.unique first]
      exact reported

theorem namesFault_none_iff_sound (names : List String) :
    namesFault [] names = none ↔ SoundNames names := by
  rw [namesFault_eq_none_iff]
  constructor
  · rintro ⟨each, distinct⟩
    exact ⟨fun name known => (each name known).1,
      fun name known => (isFileName_iff name).mp (each name known).2.1, distinct⟩
  · rintro ⟨nonempty, safe, distinct⟩
    exact ⟨fun name known => ⟨nonempty name known, (isFileName_iff name).mpr (safe name known), by simp⟩,
      distinct⟩

/-- The first category with a faulty name, and the first fault in it. -/
inductive Violation (d : Document) : LoadFault → Prop
  | mk {before after : List Category} {c : Category} {i : Nat} {fault : NameFault} :
      [.requests, .notifications, .structs, .enums] = before ++ c :: after →
      (∀ b ∈ before, SoundNames (d.names b)) → FirstFault (d.names c) i fault →
      Violation d (.badName c fault)

theorem Document.nameFault_eq_some_iff (d : Document) (c : Category) (fault : NameFault) :
    d.nameFault = some (c, fault) ↔ Violation d (.badName c fault) := by
  rw [nameFault, List.findSome?_eq_some_iff]
  constructor
  · rintro ⟨before, c', after, order, found, clean⟩
    obtain ⟨fault', first, same⟩ := Option.map_eq_some_iff.mp found
    cases same
    obtain ⟨i, place⟩ := (namesFault_eq_some_iff _ _).mp first
    refine .mk order (fun b early => ?_) place
    exact (namesFault_none_iff_sound _).mp (Option.map_eq_none_iff.mp (clean b early))
  · rintro ⟨order, sound, first⟩
    refine ⟨_, c, _, order, ?_, fun b early => ?_⟩
    · rw [(namesFault_eq_some_iff _ _).mpr ⟨_, first⟩]
      rfl
    · rw [(namesFault_none_iff_sound _).mpr (sound b early)]
      rfl

theorem Document.validate_eq_error_iff (d : Document) (fault : LoadFault) :
    d.validate = .error fault ↔ Violation d fault := by
  unfold validate
  cases found : d.nameFault with
  | none =>
    refine iff_of_false (by simp) fun violation => ?_
    obtain ⟨order, sound, first⟩ := violation
    have impossible := (d.nameFault_eq_some_iff _ _).mpr (.mk order sound first)
    rw [found] at impossible
    contradiction
  | some report =>
    obtain ⟨c, reported⟩ := report
    constructor
    · intro same
      cases same
      exact (d.nameFault_eq_some_iff c reported).mp found
    · rintro ⟨order, sound, first⟩
      have same := (d.nameFault_eq_some_iff _ _).mpr (.mk order sound first)
      cases found.symm.trans same
      rfl

/-- A document is accepted exactly if the names of each category are sound. Of any other, the first
fault of the first category that is not sound is reported. -/
theorem validate_exact (d : Document) :
    (d.validate = .ok d ↔ ∀ c, SoundNames (d.names c)) ∧
    (∀ fault, d.validate = .error fault ↔ Violation d fault) ∧
    ((¬ ∀ c, SoundNames (d.names c)) ↔ ∃ fault, Violation d fault) := by
  have accepted : d.validate = .ok d ↔ ∀ c, SoundNames (d.names c) := by
    rw [d.validate_eq_ok_iff]
    exact forall_congr' fun c => namesFault_none_iff_sound (d.names c)
  refine ⟨accepted, d.validate_eq_error_iff, ?_⟩
  rw [← accepted]
  simp only [← d.validate_eq_error_iff]
  unfold Document.validate
  cases d.nameFault <;> simp

end RpcSharp.Schema
