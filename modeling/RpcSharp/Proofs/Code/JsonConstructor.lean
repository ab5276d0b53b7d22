import RpcSharp.Proofs.Code.Members

/-! The constructor that sets every property of a class. It comes first, only where there is none yet,
and takes the parameters that may be left out after the others, since it sorts them stably. Neither
order matters to what it sets: each property gets its own parameter. -/

namespace RpcSharp.Code

/-! Sorting by a key -/

section Sorting

variable {α : Type} {key : α → Bool}

theorem insertByKey_append {a : α} {front back : List α} (less : ∀ b ∈ front, ¬ key a ≤ key b)
    (notLess : ∀ b ∈ back, key a ≤ key b) :
    insertByKey key a (front ++ back) = front ++ a :: back := by
  induction front with
  | nil =>
    cases back with
    | nil => rfl
    | cons b rest => exact if_pos (notLess b List.mem_cons_self)
  | cons b front ih =>
    rw [List.forall_mem_cons] at less
    rw [List.cons_append, insertByKey, if_neg less.1, ih less.2, List.cons_append]

variable (key)

/-- The order of two elements by their keys. -/
def keyLE (a b : α) : Bool := key a ≤ key b

theorem keyLE_trans (a b c : α) (first : keyLE key a b = true) (second : keyLE key b c = true) :
    keyLE key a c = true :=
  decide_eq_true (Bool.le_trans (of_decide_eq_true first) (of_decide_eq_true second))

theorem keyLE_total (a b : α) : (keyLE key a b || keyLE key b a) = true := by
  simpa [keyLE] using Bool.le_total (key a) (key b)

/- Both sorts put the first element behind those that are less and before all others. -/
theorem sortByKey_eq_mergeSort (as : List α) : sortByKey key as = as.mergeSort (keyLE key) := by
  induction as with
  | nil => simp [sortByKey]
  | cons a rest ih =>
    obtain ⟨front, back, whole, parts, less⟩ :=
      List.mergeSort_cons (keyLE_trans key) (keyLE_total key) a rest
    have sorted := List.pairwise_mergeSort (keyLE_trans key) (keyLE_total key) (a :: rest)
    rw [whole, List.pairwise_append, List.pairwise_cons] at sorted
    rw [sortByKey, ih, parts, whole]
    apply insertByKey_append
    · intro b inside
      simpa [keyLE] using less b inside
    · intro b inside
      exact of_decide_eq_true (sorted.2.1.1 b inside)

/- Elements that are in order whichever comes first stay a sublist, and none is lost. -/
theorem filter_sortByKey {p : α → Bool}
    (level : ∀ a b, p a = true → p b = true → keyLE key a b = true) (as : List α) :
    (sortByKey key as).filter p = as.filter p := by
  have ordered : (as.filter p).Pairwise fun a b => keyLE key a b = true := by
    refine List.pairwise_of_forall_mem_list fun a first b second => ?_
    exact level a b (List.mem_filter.mp first).2 (List.mem_filter.mp second).2
  have kept := (List.sublist_mergeSort (keyLE_trans key) (keyLE_total key) ordered
    List.filter_sublist).filter p
  rw [List.filter_filter] at kept
  simp only [Bool.and_self] at kept
  have length := ((List.mergeSort_perm as (keyLE key)).filter p).length_eq
  rw [sortByKey_eq_mergeSort]
  exact (kept.eq_of_length length.symm).symm

theorem eq_append_of_pairwise {as : List α} (sorted : as.Pairwise fun a b => keyLE key a b = true) :
    as = as.filter (!key ·) ++ as.filter (key ·) := by
  induction as with
  | nil => rfl
  | cons a rest ih =>
    rw [List.pairwise_cons] at sorted
    cases first : key a with
    | false => simpa [first] using ih sorted.2
    | true =>
      have others : ∀ b ∈ rest, key b = true := by
        intro b inside
        have order := of_decide_eq_true (sorted.1 b inside)
        rw [first] at order
        exact order rfl
      have none : rest.filter (!key ·) = [] :=
        List.filter_eq_nil_iff.mpr fun b inside => by simp [others b inside]
      have all : rest.filter (key ·) = rest := List.filter_eq_self.mpr others
      rw [List.filter_cons_of_neg (by simp [first]), List.filter_cons_of_pos first, none, all,
        List.nil_append]

/-- Those whose key is false come first, each part in the order of the list. -/
theorem sortByKey_eq_append (as : List α) :
    sortByKey key as = as.filter (!key ·) ++ as.filter (key ·) := by
  have sorted : (sortByKey key as).Pairwise fun a b => keyLE key a b = true := by
    rw [sortByKey_eq_mergeSort]
    exact List.pairwise_mergeSort (keyLE_trans key) (keyLE_total key) as
  rw [eq_append_of_pairwise key sorted, filter_sortByKey, filter_sortByKey]
  · intro a b first second
    simp [keyLE, first, second]
  · intro a b first second
    simp only [Bool.not_eq_true'] at first second
    simp [keyLE, first, second]

end Sorting

/-! Parameters -/

/-- A type whose values may be left out. -/
def Nullable (type : String) : Prop := ∃ base, type = base ++ "?"

theorem isNullable_iff (type : String) : isNullable type = true ↔ Nullable type := by
  rw [isNullable, beq_iff_eq, List.getLast?_eq_some_iff]
  constructor
  · rintro ⟨base, spelled⟩
    refine ⟨String.ofList base, String.toList_inj.mp ?_⟩
    simpa using spelled
  · rintro ⟨base, rfl⟩
    exact ⟨base.toList, by simp⟩

/-- The properties in two parts, each in the order of declaration: those that a value must be given
for, and those that may be left out. -/
structure RequiredFirst (properties required optional : List Property) : Prop where
  required_sublist : required.Sublist properties
  optional_sublist : optional.Sublist properties
  perm : (required ++ optional).Perm properties
  required_type : ∀ p ∈ required, ¬ Nullable p.type
  optional_type : ∀ p ∈ optional, Nullable p.type

/- The parts are determined: each is a sublist of all that belongs to it, and none is lost. -/
theorem requiredFirst_iff (properties required optional : List Property) :
    RequiredFirst properties required optional ↔
      required = properties.filter (!·.isOptional) ∧ optional = properties.filter (·.isOptional) := by
  have all : (properties.filter (!·.isOptional) ++ properties.filter (·.isOptional)).Perm properties :=
    List.perm_append_comm.trans (List.filter_append_perm _ _)
  constructor
  · rintro ⟨required_sublist, optional_sublist, perm, required_type, optional_type⟩
    have first : required.Sublist (properties.filter (!·.isOptional)) := by
      have kept : required.filter (!·.isOptional) = required := by
        refine List.filter_eq_self.mpr fun p known => ?_
        simpa [Property.isOptional, ← isNullable_iff] using required_type p known
      exact kept ▸ required_sublist.filter _
    have second : optional.Sublist (properties.filter (·.isOptional)) := by
      have kept : optional.filter (·.isOptional) = optional := by
        refine List.filter_eq_self.mpr fun p known => ?_
        exact (isNullable_iff _).mpr (optional_type p known)
      exact kept ▸ optional_sublist.filter _
    have length := (perm.trans all.symm).length_eq
    simp only [List.length_append] at length
    have shorter := first.length_le
    have shorter' := second.length_le
    exact ⟨first.eq_of_length (by omega), second.eq_of_length (by omega)⟩
  · rintro ⟨rfl, rfl⟩
    refine ⟨List.filter_sublist, List.filter_sublist, all, ?_, ?_⟩
    · intro p known
      simpa [Property.isOptional, ← isNullable_iff] using (List.mem_filter.mp known).2
    · intro p known
      exact (isNullable_iff _).mp (List.mem_filter.mp known).2

theorem Parameter.text_of_nullable {type : String} (optional : Nullable type) (name : String) :
    (⟨name, type⟩ : Parameter).text = type ++ " " ++ name ++ " = null" := by
  rw [text, isOptional, if_pos ((isNullable_iff type).mpr optional)]

theorem Parameter.text_of_not_nullable {type : String} (required : ¬ Nullable type) (name : String) :
    (⟨name, type⟩ : Parameter).text = type ++ " " ++ name := by
  rw [text, isOptional, if_neg (mt (isNullable_iff type).mp required), String.append_empty]

/-- A constructor that sets the properties of a class, each from its own parameter. -/
structure SetsProperties (c : ClassNode) (k : Method) : Prop where
  kind : k.kind = .constructor
  attributes : k.attributes = ["[JsonConstructor]"]
  doc : k.doc = ""
  parameters : ∃ required optional, RequiredFirst c.properties required optional ∧
    k.parameters = (required ++ optional).map (fun p => ⟨parameterName p.name, p.type⟩) ∧
    k.parameters.map (·.text) = required.map (fun p => p.type ++ " " ++ parameterName p.name) ++
      optional.map (fun p => p.type ++ " " ++ parameterName p.name ++ " = null")
  body : ∀ i : Nat, k.body[i]? = c.properties[i]?.map fun p =>
    "this." ++ p.displayName c.name ++ " = " ++ parameterName p.name ++ ";"
  set : ∀ p ∈ c.properties, ⟨parameterName p.name, p.type⟩ ∈ k.parameters

namespace ClassOf

variable (c : ClassNode)

theorem jsonConstructor_parameters :
    c.jsonConstructor.parameters =
      (c.properties.filter (!·.isOptional) ++ c.properties.filter (·.isOptional)).map
        fun p => ⟨parameterName p.name, p.type⟩ := by
  rw [jsonConstructor, sortByKey_eq_append]

theorem jsonConstructor_sets : SetsProperties c c.jsonConstructor := by
  have parts := (requiredFirst_iff c.properties _ _).mpr ⟨rfl, rfl⟩
  refine ⟨rfl, rfl, rfl, ⟨_, _, parts, c.jsonConstructor_parameters, ?_⟩, ?_, ?_⟩
  · have given := List.map_congr_left fun p known =>
      Parameter.text_of_not_nullable (parts.required_type p known) (parameterName p.name)
    have left := List.map_congr_left fun p known =>
      Parameter.text_of_nullable (parts.optional_type p known) (parameterName p.name)
    simp only [jsonConstructor_parameters, List.map_append, List.map_map, Function.comp_def, given,
      left]
  · intro i
    rw [jsonConstructor, List.getElem?_map]
  · intro p known
    rw [jsonConstructor_parameters]
    exact List.mem_map_of_mem (parts.perm.mem_iff.mpr known)

/-- A class has a constructor. -/
def HasConstructor : Prop := ∃ m : Method, .method m ∈ c.members ∧ m.kind = .constructor

theorem constructor?_isSome_iff : c.constructor?.isSome = true ↔ c.HasConstructor := by
  rw [constructor?, List.findSome?_isSome_iff]
  constructor
  · rintro ⟨member, known, found⟩
    cases member with
    | method m =>
      refine ⟨m, known, ?_⟩
      simpa [MemberOf.constructor?, Method.isConstructor] using found
    | nested _ => contradiction
    | constant _ => contradiction
    | property _ => contradiction
  · rintro ⟨m, known, kind⟩
    exact ⟨.method m, known, by simp [MemberOf.constructor?, Method.isConstructor, kind]⟩

theorem withJsonConstructor_cases (always : Bool) :
    ((c.HasConstructor ∨ c.properties = [] ∧ always = false) ∧ c.withJsonConstructor always = c) ∨
    (¬ (c.HasConstructor ∨ c.properties = [] ∧ always = false) ∧
      c.withJsonConstructor always = { c with members := .method c.jsonConstructor :: c.members }) := by
  have test : (c.constructor?.isSome || (c.properties.isEmpty && !always)) = true ↔
      c.HasConstructor ∨ c.properties = [] ∧ always = false := by
    rw [← constructor?_isSome_iff]
    simp
  unfold withJsonConstructor
  split
  · rename_i kept
    exact .inl ⟨test.mp kept, rfl⟩
  · rename_i added
    exact .inr ⟨fun kept => added (test.mpr kept), rfl⟩

theorem withJsonConstructor_idempotent (always : Bool) :
    (c.withJsonConstructor always).withJsonConstructor always = c.withJsonConstructor always := by
  rcases c.withJsonConstructor_cases always with ⟨_, kept⟩ | ⟨_, added⟩
  · rw [kept, kept]
  · rcases (c.withJsonConstructor always).withJsonConstructor_cases always with ⟨_, same⟩ | ⟨none, _⟩
    · exact same
    · refine absurd (.inl ⟨c.jsonConstructor, ?_, rfl⟩) none
      simp [added]

/-- A class gets exactly one constructor, in front of its other members and with all its properties,
unless it has one already or needs none. -/
theorem withJsonConstructor_exact (always : Bool) :
    (c.HasConstructor ∨ c.properties = [] ∧ always = false → c.withJsonConstructor always = c) ∧
    (¬ (c.HasConstructor ∨ c.properties = [] ∧ always = false) →
      ∃ k, c.withJsonConstructor always = { c with members := .method k :: c.members } ∧
        SetsProperties c k) ∧
    (c.withJsonConstructor always).withJsonConstructor always = c.withJsonConstructor always ∧
    (c.withJsonConstructor always).repeatedMember? = c.repeatedMember? := by
  refine ⟨?_, ?_, c.withJsonConstructor_idempotent always, ?_⟩
  · intro kept
    rcases c.withJsonConstructor_cases always with ⟨_, same⟩ | ⟨not, _⟩
    · exact same
    · exact absurd kept not
  · intro added
    rcases c.withJsonConstructor_cases always with ⟨kept, _⟩ | ⟨_, same⟩
    · exact absurd kept added
    · exact ⟨c.jsonConstructor, same, c.jsonConstructor_sets⟩
  · rw [repeatedMember?, withJsonConstructor_memberNames]
    rfl

/- A property that may be left out stands between two that may not, one of which has the class's name. -/
theorem withJsonConstructor_mixed :
    let c : ClassNode :=
      { name := "Launch"
        members := [.constant ⟨"Id", "string", "\"Launch\"", ""⟩, .property ⟨"launch", "string", ""⟩,
          .property ⟨"class", "int?", ""⟩, .property ⟨"upload-id", "int", ""⟩] }
    ¬ c.HasConstructor ∧ c.properties ≠ [] ∧
    (∃ k, c.withJsonConstructor false = { c with members := .method k :: c.members } ∧
      SetsProperties c k) ∧
    c.jsonConstructor.parameters.map (·.text) = ["string launch", "int uploadId", "int? @class = null"] ∧
    c.jsonConstructor.body =
      ["this.LaunchValue = launch;", "this.Class = @class;", "this.UploadId = uploadId;"] := by
  intro c
  have lacking : ¬ c.HasConstructor := by
    rw [← constructor?_isSome_iff]
    decide
  have some : c.properties ≠ [] := by decide
  refine ⟨lacking, some, ?_, by decide, by decide⟩
  apply (withJsonConstructor_exact c false).2.1
  rintro (given | ⟨none, _⟩)
  · exact lacking given
  · exact some none

end ClassOf

end RpcSharp.Code
