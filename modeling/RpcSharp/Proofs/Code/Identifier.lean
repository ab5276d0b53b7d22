import RpcSharp.Proofs.Code.JsonConstructor

/-! Identifiers for the names that schemas use, of letters, digits and separators. Such a name gives
a legal identifier exactly if it has more than separators, no reserved word is left without its mark,
and a parameter's name determines the name of its property. So a class whose members have different
names gets a constructor whose parameters have different names. -/

namespace RpcSharp.Code

open RpcSharp.Text

/-! The words of a name -/

/-- The words of a name one after the other, in which a word that begins gets its capital. -/
def joinWords (begins : Bool) : List Char → List Char
  | [] => []
  | c :: rest =>
    if isSeparator c then joinWords true rest
    else (if begins then upper c else [c]) ++ joinWords false rest

/- The first piece of a text may go on with a word that has begun before it. -/
theorem splitWhere_eq_joinWords (s : List Char) :
    ∃ word words, splitWhere isSeparator s = word :: words ∧
      word ++ words.flatMap capitalizeChars = joinWords false s ∧
      capitalizeChars word ++ words.flatMap capitalizeChars = joinWords true s := by
  induction s with
  | nil => exact ⟨[], [], rfl, rfl, rfl⟩
  | cons c s ih =>
    obtain ⟨word, words, split, going, begun⟩ := ih
    by_cases separates : isSeparator c = true
    · refine ⟨[], word :: words, ?_, ?_, ?_⟩
      · simp [splitWhere, separates, split]
      · simpa [joinWords, separates] using begun
      · simpa [joinWords, separates, capitalizeChars, mapFirst] using begun
    · refine ⟨c :: word, words, ?_, ?_, ?_⟩
      · simp [splitWhere, separates, split]
      · simp [joinWords, separates, going]
      · simp [joinWords, separates, capitalizeChars, mapFirst, going]

theorem pascalChars_eq (s : List Char) : pascalChars s = guardDigit (joinWords true s) := by
  obtain ⟨word, words, split, _, begun⟩ := splitWhere_eq_joinWords s
  rw [pascalChars, split, List.flatMap_cons, begun]

/-! Names of schemas -/

/-- The names that schemas use: letters and digits of ASCII, and separators. -/
def SchemaName (name : String) : Prop :=
  ∀ c ∈ name.toList, c.isAlphanum = true ∨ isSeparator c = true

instance (name : String) : Decidable (SchemaName name) :=
  List.decidableBAll (fun c : Char => c.isAlphanum = true ∨ isSeparator c = true) name.toList

/-- A legal identifier, without regard to reserved words. -/
def IsIdentifier (s : List Char) : Prop :=
  ∃ first rest, s = first :: rest ∧ (first.isAlpha = true ∨ first = '_') ∧
    ∀ c ∈ rest, c.isAlphanum = true ∨ c = '_'

/-- An identifier without the mark that keeps it from being a reserved word. -/
def dropMark : List Char → List Char
  | '@' :: rest => rest
  | s => s

theorem isAlpha_iff (c : Char) : c.isAlpha = true ↔ c.isUpper = true ∨ c.isLower = true :=
  Bool.or_eq_true_iff

theorem isAlphanum_iff (c : Char) : c.isAlphanum = true ↔ c.isAlpha = true ∨ c.isDigit = true :=
  Bool.or_eq_true_iff

theorem ascii_of_isAlphanum {c : Char} (word : c.isAlphanum = true) : c.toNat < 128 := by
  -- The small letters come last.
  have last : c.val ≤ 'z'.val := by
    rw [isAlphanum_iff, isAlpha_iff] at word
    rcases word with (capital | small) | digit
    · exact UInt32.le_trans (of_decide_eq_true capital).2 (by decide)
    · exact of_decide_eq_true (Bool.and_eq_true_iff.mp small).2
    · exact UInt32.le_trans (of_decide_eq_true (Bool.and_eq_true_iff.mp digit).2) (by decide)
  exact Nat.lt_of_le_of_lt (UInt32.le_iff_toNat_le.mp last) (by decide)

theorem forall_ascii {P : Char → Prop} (table : ∀ n < 128, P (Char.ofNat n)) {c : Char}
    (ascii : c.toNat < 128) : P c := by
  have known := table c.toNat ascii
  rwa [Char.ofNat_toNat] at known

theorem isSeparator_eq_false {c : Char} (word : c.isAlphanum = true) : isSeparator c = false :=
  forall_ascii (P := fun c => c.isAlphanum = true → isSeparator c = false) (by decide)
    (ascii_of_isAlphanum word) word

theorem upper_isAlphanum {c : Char} (word : c.isAlphanum = true) :
    ∃ capital, upper c = [capital] ∧ (capital.isUpper = true ∨ capital.isDigit = true) := by
  have ascii := ascii_of_isAlphanum word
  refine ⟨c.toUpper, by simp [upper, ascii], ?_⟩
  exact forall_ascii
    (P := fun c => c.isAlphanum = true → c.toUpper.isUpper = true ∨ c.toUpper.isDigit = true)
    (by decide) ascii word

theorem ascii_of_capital {c : Char} (capital : c.isUpper = true ∨ c = '_') : c.toNat < 128 := by
  rcases capital with letter | rfl
  · exact ascii_of_isAlphanum (by simp [isAlphanum_iff, isAlpha_iff, letter])
  · decide

theorem isLower_capital {c : Char} (capital : c.isUpper = true ∨ c = '_') : c.isLower = false :=
  forall_ascii (P := fun c => c.isUpper = true ∨ c = '_' → c.isLower = false) (by decide)
    (ascii_of_capital capital) capital

/- A capital that a parameter's name lacks can be found again. -/
theorem lower_capital {c : Char} (capital : c.isUpper = true ∨ c = '_') :
    ∃ small, lower c = [small] ∧ (small.isAlpha = true ∨ small = '_') ∧ upper small = [c] := by
  have ascii := ascii_of_capital capital
  refine ⟨c.toLower, by simp [lower, ascii], ?_⟩
  exact forall_ascii
    (P := fun c => c.isUpper = true ∨ c = '_' →
      (c.toLower.isAlpha = true ∨ c.toLower = '_') ∧ upper c.toLower = [c])
    (by decide) ascii capital

section Words

variable {s : List Char} (plain : ∀ c ∈ s, c.isAlphanum = true ∨ isSeparator c = true)

include plain

theorem joinWords_eq_nil_iff (begins : Bool) :
    joinWords begins s = [] ↔ ∀ c ∈ s, c.isAlphanum = false := by
  induction s generalizing begins with
  | nil => simp [joinWords]
  | cons c s ih =>
    obtain ⟨first, others⟩ := List.forall_mem_cons.mp plain
    rw [joinWords, List.forall_mem_cons]
    rcases first with word | separates
    · obtain ⟨capital, given, _⟩ := upper_isAlphanum word
      cases begins <;> simp [isSeparator_eq_false word, word, given]
    · have blank : c.isAlphanum = false := by
        rw [Bool.eq_false_iff]
        intro word
        rw [isSeparator_eq_false word] at separates
        contradiction
      simp [separates, blank, ih others true]

theorem isAlphanum_of_mem_joinWords (begins : Bool) :
    ∀ c ∈ joinWords begins s, c.isAlphanum = true := by
  induction s generalizing begins with
  | nil => simp [joinWords]
  | cons c s ih =>
    obtain ⟨first, others⟩ := List.forall_mem_cons.mp plain
    rw [joinWords]
    rcases first with word | separates
    · obtain ⟨capital, given, kind⟩ := upper_isAlphanum word
      have still : capital.isAlphanum = true := by
        rcases kind with letter | digit
        · simp [isAlphanum_iff, isAlpha_iff, letter]
        · simp [isAlphanum_iff, digit]
      rw [if_neg (by simp [isSeparator_eq_false word]), List.forall_mem_append]
      refine ⟨?_, ih others false⟩
      cases begins
      · simpa using word
      · simpa [given] using still
    · rw [if_pos separates]
      exact ih others true

theorem joinWords_head {first : Char} {rest : List Char} (starts : joinWords true s = first :: rest) :
    first.isUpper = true ∨ first.isDigit = true := by
  induction s with
  | nil => simp [joinWords] at starts
  | cons c s ih =>
    obtain ⟨kind, others⟩ := List.forall_mem_cons.mp plain
    rw [joinWords] at starts
    rcases kind with word | separates
    · obtain ⟨capital, given, kind⟩ := upper_isAlphanum word
      simp only [isSeparator_eq_false word, given, Bool.false_eq_true, if_false, if_true,
        List.singleton_append, List.cons.injEq] at starts
      exact starts.1 ▸ kind
    · rw [if_pos separates] at starts
      exact ih others starts

/-- What a name becomes: nothing if it has only separators, else an identifier that starts with a
capital or with the mark before a digit. -/
theorem pascalChars_cases :
    ((∀ c ∈ s, c.isAlphanum = false) ∧ pascalChars s = []) ∨
    ((∃ c ∈ s, c.isAlphanum = true) ∧ ∃ first rest, pascalChars s = first :: rest ∧
      (first.isUpper = true ∨ first = '_') ∧ ∀ c ∈ rest, c.isAlphanum = true) := by
  have words := isAlphanum_of_mem_joinWords plain true
  have empty := joinWords_eq_nil_iff plain true
  rw [pascalChars_eq]
  cases joined : joinWords true s with
  | nil => exact .inl ⟨empty.mp joined, rfl⟩
  | cons first rest =>
    refine .inr ⟨?_, ?_⟩
    · have wordy : ¬ ∀ c ∈ s, c.isAlphanum = false := fun blank => by simp [empty.mpr blank] at joined
      simpa using wordy
    · rw [joined] at words
      rw [guardDigit]
      by_cases digit : first.isDigit = true
      · rw [if_pos digit]
        exact ⟨'_', first :: rest, rfl, .inr rfl, words⟩
      · rw [if_neg digit]
        refine ⟨first, rest, rfl, .inl ?_, (List.forall_mem_cons.mp words).2⟩
        exact (joinWords_head plain joined).resolve_right digit

end Words

/-! Names of parameters -/

/-- A parameter's name before it is kept from being a reserved word. -/
def camelChars (s : List Char) : List Char := mapFirst lower (pascalChars s)

theorem parameterName_eq (name : String) :
    parameterName name = escapeReserved (String.ofList (camelChars name.toList)) := rfl

theorem isReserved_eq_false {name : String} (starts : name.toList.head?.any Char.isLower = false) :
    isReserved name = false := by
  have small : ∀ word ∈ reservedWords, word.toList.head?.any Char.isLower = true := by
    decide +kernel
  rw [isReserved, List.contains_eq_mem, decide_eq_false_iff_not]
  intro listed
  exact Bool.false_ne_true (starts.symm.trans (small name listed))

/- Whatever the name, a reserved word has got its mark. -/
theorem isReserved_escapeReserved (name : String) : isReserved (escapeReserved name) = false := by
  unfold escapeReserved
  split
  · apply isReserved_eq_false
    simp
  · rename_i free
    simpa using free

theorem dropMark_escapeReserved {name : String} (unmarked : name.toList.head? ≠ some '@') :
    dropMark (escapeReserved name).toList = name.toList := by
  unfold escapeReserved
  split
  · simp [dropMark]
  · unfold dropMark
    split
    · rename_i rest spelled
      simp [spelled] at unmarked
    · rfl

section SchemaName

variable {name other : String}

theorem isIdentifier_pascalCase_iff (plain : SchemaName name) :
    IsIdentifier (pascalCase name).toList ↔ ∃ c ∈ name.toList, c.isAlphanum = true := by
  rw [pascalCase, String.toList_ofList]
  rcases pascalChars_cases plain with ⟨blank, empty⟩ | ⟨word, first, rest, spelled, capital, words⟩
  · rw [empty]
    constructor
    · rintro ⟨_, _, impossible, _⟩
      contradiction
    · rintro ⟨c, known, word⟩
      rw [blank c known] at word
      contradiction
  · refine iff_of_true ⟨first, rest, spelled, ?_, fun c known => .inl (words c known)⟩ word
    exact capital.imp_left fun letter => (isAlpha_iff _).mpr (.inl letter)

theorem isReserved_pascalCase (plain : SchemaName name) : isReserved (pascalCase name) = false := by
  apply isReserved_eq_false
  rw [pascalCase, String.toList_ofList]
  rcases pascalChars_cases plain with ⟨_, empty⟩ | ⟨_, first, rest, spelled, capital, _⟩
  · simp [empty]
  · simpa [spelled] using isLower_capital capital

/- The capital is the only thing that a parameter's name lacks. -/
theorem capitalizeChars_camelChars (plain : SchemaName name) :
    capitalizeChars (camelChars name.toList) = pascalChars name.toList := by
  rcases pascalChars_cases plain with ⟨_, empty⟩ | ⟨_, first, rest, spelled, capital, _⟩
  · simp [camelChars, empty, mapFirst, capitalizeChars]
  · obtain ⟨small, lowered, _, raised⟩ := lower_capital capital
    simp [camelChars, spelled, mapFirst, capitalizeChars, lowered, raised]

theorem dropMark_parameterName (plain : SchemaName name) :
    dropMark (parameterName name).toList = camelChars name.toList := by
  rw [parameterName_eq, dropMark_escapeReserved, String.toList_ofList]
  rw [String.toList_ofList, camelChars]
  rcases pascalChars_cases plain with ⟨_, empty⟩ | ⟨_, first, rest, spelled, capital, _⟩
  · simp [empty, mapFirst]
  · obtain ⟨small, lowered, kind, _⟩ := lower_capital capital
    rw [spelled, mapFirst, lowered]
    rintro marked
    cases Option.some.inj marked
    revert kind
    decide

theorem isIdentifier_parameterName_iff (plain : SchemaName name) :
    IsIdentifier (dropMark (parameterName name).toList) ↔ ∃ c ∈ name.toList, c.isAlphanum = true := by
  rw [dropMark_parameterName plain, ← isIdentifier_pascalCase_iff plain, pascalCase,
    String.toList_ofList, camelChars]
  rcases pascalChars_cases plain with ⟨_, empty⟩ | ⟨_, first, rest, spelled, capital, words⟩
  · rw [empty]
    rfl
  · obtain ⟨small, lowered, kind, _⟩ := lower_capital capital
    have letters : ∀ c ∈ rest, c.isAlphanum = true ∨ c = '_' := fun c known => .inl (words c known)
    refine iff_of_true ⟨small, rest, ?_, kind, letters⟩ ⟨first, rest, spelled, ?_, letters⟩
    · simp [spelled, mapFirst, lowered]
    · exact capital.imp_left fun letter => (isAlpha_iff _).mpr (.inl letter)

theorem parameterName_eq_iff (plain : SchemaName name) (plain' : SchemaName other) :
    parameterName name = parameterName other ↔ pascalCase name = pascalCase other := by
  constructor
  · intro same
    have camel : camelChars name.toList = camelChars other.toList := by
      rw [← dropMark_parameterName plain, ← dropMark_parameterName plain', same]
    rw [pascalCase, pascalCase, ← capitalizeChars_camelChars plain,
      ← capitalizeChars_camelChars plain', camel]
  · intro same
    have pascal : pascalChars name.toList = pascalChars other.toList := by
      simpa [pascalCase] using congrArg String.toList same
    rw [parameterName_eq, parameterName_eq, camelChars, camelChars, pascal]

end SchemaName

/-! Parameters of a constructor -/

theorem displayNames_sublist (c : ClassNode) :
    (c.properties.map (·.displayName c.name)).Sublist c.memberNames := by
  rw [ClassOf.properties, ClassOf.memberNames]
  induction c.members with
  | nil => simp
  | cons m members ih =>
    cases m with
    | property p => exact ih.cons_cons _
    | nested t => exact ih.cons _
    | constant k => exact ih.cons _
    | method k =>
      rw [List.filterMap_cons, List.filterMap_cons]
      cases named : MemberOf.name? c.name (.method k) with
      | none => exact ih
      | some name => exact ih.cons _

/- Fields with one identifier have one display name, so the check of the members covers them. -/
theorem SetsProperties.parameters_nodup {c : ClassNode} {k : Method} (sets : SetsProperties c k)
    (plain : ∀ p ∈ c.properties, SchemaName p.name) (distinct : c.memberNames.Nodup) :
    (k.parameters.map (·.name)).Nodup := by
  obtain ⟨required, optional, parts, parameters, _⟩ := sets.parameters
  have displayed : c.properties.Pairwise fun p q => p.displayName c.name ≠ q.displayName c.name :=
    List.pairwise_map.mp (distinct.sublist (displayNames_sublist c))
  have named : (c.properties.map fun p => parameterName p.name).Nodup := by
    refine List.pairwise_map.mpr (displayed.imp_of_mem ?_)
    intro p q known known' differ same
    have pascal := (parameterName_eq_iff (plain p known) (plain q known')).mp same
    apply differ
    simp only [Property.displayName, propertyName, pascal]
  have perm := parts.perm.map fun p => parameterName p.name
  simp only [parameters, List.map_map, Function.comp_def]
  exact perm.nodup_iff.mpr named

/-- Names of schemas give identifiers, none of them reserved, and the parameters of a constructor are
told apart as far as the members of its class are. -/
theorem schemaName_identifiers :
    (∀ name, SchemaName name →
      (IsIdentifier (pascalCase name).toList ↔ ∃ c ∈ name.toList, c.isAlphanum = true) ∧
      (IsIdentifier (dropMark (parameterName name).toList) ↔
        ∃ c ∈ name.toList, c.isAlphanum = true) ∧
      isReserved (pascalCase name) = false ∧ isReserved (parameterName name) = false) ∧
    (∀ name other, SchemaName name → SchemaName other →
      (parameterName name = parameterName other ↔ pascalCase name = pascalCase other)) ∧
    ∀ (c : ClassNode) (always : Bool) (k : Method), (∀ p ∈ c.properties, SchemaName p.name) →
      c.repeatedMember? = none → (c.withJsonConstructor always).members = .method k :: c.members →
      (k.parameters.map (·.name)).Nodup := by
  refine ⟨?_, ?_, ?_⟩
  · intro name plain
    exact ⟨isIdentifier_pascalCase_iff plain, isIdentifier_parameterName_iff plain,
      isReserved_pascalCase plain, isReserved_escapeReserved _⟩
  · intro name other plain plain'
    exact parameterName_eq_iff plain plain'
  · intro c always k plain distinct added
    have sets : SetsProperties c k := by
      rcases c.withJsonConstructor_eq always with same | same
      · rw [same] at added
        simpa using congrArg List.length added
      · rw [same] at added
        have inserted : c.jsonConstructor = k := by simpa using added
        exact inserted ▸ c.jsonConstructor_sets
    exact sets.parameters_nodup plain (c.repeatedMember?_eq_none_iff.mp distinct)

/- A reserved word, a digit at the start, a field that may be left out and a name of separators only. -/
theorem schemaName_identifiers_mixed :
    let c : ClassNode :=
      { name := "Cave"
        members := [.property ⟨"class", "string", ""⟩, .property ⟨"install-location", "int", ""⟩,
          .property ⟨"installLocation2", "int?", ""⟩, .property ⟨"7zip", "int", ""⟩,
          .property ⟨"--", "int", ""⟩] }
    (∀ p ∈ c.properties, SchemaName p.name) ∧ c.repeatedMember? = none ∧
    IsIdentifier (dropMark (parameterName "class").toList) ∧
    ¬ IsIdentifier (pascalCase "--").toList ∧
    (parameterName "install-location" = parameterName "InstallLocation" ↔
      pascalCase "install-location" = pascalCase "InstallLocation") ∧
    c.jsonConstructor.parameters.map (·.name) =
      ["@class", "installLocation", "_7zip", "", "installLocation2"] ∧
    (c.jsonConstructor.parameters.map (·.name)).Nodup := by
  intro c
  have names := schemaName_identifiers
  have plain : ∀ p ∈ c.properties, SchemaName p.name := by decide
  have distinct : c.repeatedMember? = none := by decide
  refine ⟨plain, distinct, ?_, ?_, ?_, by decide, ?_⟩
  · exact (names.1 "class" (by decide)).2.1.mpr ⟨'c', by decide, by decide⟩
  · exact mt (names.1 "--" (by decide)).1.mp (by simp)
  · exact names.2.1 _ _ (by decide) (by decide)
  · exact names.2.2 c false _ plain distinct rfl

end RpcSharp.Code
