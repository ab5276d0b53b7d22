import RpcSharp.Proofs.Binding.FieldClass
import RpcSharp.Proofs.Code.TypeMapping

/-! Types that the schema's language has built in. Each has a C# type of its own, and keeps it as long as
no method of the category has a part of its name. If one has, the type is taken for a structure or an
enumeration of that name, and the qualifier stays in front of the C# type. -/

namespace RpcSharp.Code

/-- The words for these types, and their C# types. -/
def primitives : List (String × String) :=
  [("number", "int"), ("boolean", "bool"), ("string", "string"), ("Cursor", "bool"),
   ("RFCDate", "string")]

theorem primitives_mapped : ∀ r ∈ primitives, mapType r.1 = .ok r.2 ∧
    ∀ qualifier ∈ ["Enums.", "Structs."], mapType (qualifier ++ r.1) = .ok (qualifier ++ r.2) := by
  decide +kernel

theorem primitives_whole : ∀ r ∈ primitives,
    r.1.toList.any isTypePunctuation = false ∧ elementType r.1 = r.1 := by
  decide +kernel

namespace Scope

variable (s : Scope)

/-- What a type is written with in front so that it is not taken for a class. -/
def qualification (element : String) : String :=
  if element ∈ s.taken then if element ∈ s.enums then "Enums." else "Structs." else ""

theorem resolve_eq (raw : String) : s.resolve raw = s.qualification (elementType raw) ++ raw := by
  by_cases taken : elementType raw ∈ s.taken <;> by_cases enum : elementType raw ∈ s.enums <;>
    simp [resolve, qualification, taken, enum]

/- The qualifier has a dot behind it, so the word is found and replaced as it is without one. -/
theorem fieldType_primitive {word type : String} (known : (word, type) ∈ primitives) (n : Nat)
    (optional : Bool) :
    s.fieldType (word ++ brackets n) optional =
      .ok (nullable (s.qualification word ++ type ++ brackets n) optional) := by
  obtain ⟨plain, element⟩ := primitives_whole _ known
  obtain ⟨bare, qualified⟩ := primitives_mapped _ known
  have mapped : mapType (s.resolve word) = .ok (s.qualification word ++ type) := by
    rw [s.resolve_eq, element, qualification]
    split
    · split
      · exact qualified _ (by simp)
      · exact qualified _ (by simp)
    · simpa using bare
  have array := (mapType_brackets (s.plain_resolve (plain_of_any plain)) mapped n).2
  rw [fieldType, s.resolve_brackets, array]
  rfl

end Scope

end RpcSharp.Code

namespace RpcSharp.Binding

open RpcSharp.Code RpcSharp.Config RpcSharp.Schema

/-- A method of the category has this part. -/
def MethodPart (d : Document) (c : Category) (word : String) : Prop :=
  ∃ method ∈ d.names c, word ∈ segments method

instance (d : Document) (c : Category) (word : String) : Decidable (MethodPart d c word) :=
  inferInstanceAs (Decidable (∃ _ ∈ _, _))

/-- What is put in front of a type because of a part of a method. -/
def mistakenFor (d : Document) (c : Category) (word : String) : String :=
  if MethodPart d c word then if word ∈ d.names .enums then "Enums." else "Structs." else ""

theorem mistakenFor_eq_empty_iff (d : Document) (c : Category) (word : String) :
    mistakenFor d c word = "" ↔ ¬ MethodPart d c word := by
  by_cases part : MethodPart d c word <;> by_cases enum : word ∈ d.names .enums <;>
    simp [mistakenFor, part, enum]

/- None of these words is the name of a class that is generated around all methods. -/
theorem qualification_primitive (d : Document) (c : Category) {word type : String}
    (known : (word, type) ∈ primitives) :
    (scopeOf d c).qualification word = mistakenFor d c word := by
  have apart : ∀ r ∈ primitives, r.1 ∉ generatedNames c := by cases c <;> decide
  have taken : word ∈ (scopeOf d c).taken ↔ MethodPart d c word := by
    rw [mem_taken_iff, Shadows, or_iff_left (apart _ known), MethodPart]
  have enums : (scopeOf d c).enums = d.names .enums := rfl
  simp only [Scope.qualification, mistakenFor, taken, enums]

/-- A property for a field, and its type if that is built in. -/
structure PrimitiveProperty (d : Document) (c : Category) (f : Field) (p : Property) : Prop where
  name : p.name = f.name
  doc : p.doc = f.doc
  type : ∀ word type n, (word, type) ∈ primitives → f.type = word ++ brackets n →
    p.type = nullable (mistakenFor d c word ++ type ++ brackets n) f.optional ∧
    (p.type = nullable (type ++ brackets n) f.optional ↔ ¬ MethodPart d c word)

theorem primitiveProperty_of_declares {d : Document} {c : Category} {f : Field} {p : Property}
    (declared : Declares (scopeOf d c) f (.property p)) : PrimitiveProperty d c f p := by
  obtain ⟨own, given, same⟩ := declared
  cases same
  refine ⟨rfl, rfl, fun word type n known spelled => ?_⟩
  rw [spelled, Scope.fieldType_primitive _ known, qualification_primitive d c known,
    Except.ok.injEq] at given
  subst given
  refine ⟨rfl, Iff.trans ?_ (mistakenFor_eq_empty_iff d c word)⟩
  constructor
  · intro same
    have unqualified := congrArg String.toList (nullable_injective same)
    rw [← String.toList_inj]
    simpa using unqualified
  · intro none
    rw [none, String.empty_append]

/-- A built-in type is mapped to its C# type, whatever else the document has, if and only if no method of
the category has its name as a part. -/
theorem primitive_types_kept_iff (d : Document) (c : Category)
    (method : c = .requests ∨ c = .notifications) (s : Settings) (e : Entry) (t : TypeNode)
    (builds : Builds d s c e t) (path : List String) (fs : List Field)
    (listed : (path, fs) ∈ e.fieldClasses) :
    ∃ inside, ClassAt t path inside ∧
      List.Forall₂ (PrimitiveProperty d c) fs inside.properties := by
  obtain ⟨inside, stands, holds⟩ := exists_holdsFields builds.built listed
  rw [builds.scope_eq method] at holds
  exact ⟨inside, stands, holds.declared.imp fun f p => primitiveProperty_of_declares⟩

/- A request has a part `Cursor`, but the notifications have none. -/
def moved : Notification where
  method := "Cursors.Moved"
  params := [
    { name := "to", type := "Cursor" ++ brackets 2 },
    { name := "at", type := "RFCDate" ++ brackets 0, optional := true }]

def movedDocument : Document where
  requests := [{ method := "Cursor.Move" }]
  notifications := [moved]

theorem movedDocument_primitives :
    MethodPart movedDocument .requests "Cursor" ∧
    ∃ t path inside, Builds movedDocument {} .notifications (.notification moved) t ∧
      ClassAt t path inside ∧ inside.properties.map (·.type) = ["bool[][]", "string?"] := by
  have valid : movedDocument.validate = .ok movedDocument := by decide +kernel
  have good : (Entry.notification moved).Compilable := by decide +kernel
  have free : ¬ MethodPart movedDocument .notifications "Cursor" ∧
      ¬ MethodPart movedDocument .notifications "RFCDate" := by decide +kernel
  obtain ⟨t, builds⟩ := exists_builds valid {} (.notification moved) (by decide) good
  obtain ⟨inside, stands, properties⟩ := primitive_types_kept_iff movedDocument .notifications (.inr rfl)
    {} _ t builds _ _ (List.mem_singleton_self _)
  refine ⟨by decide +kernel, t, _, inside, builds, stands, ?_⟩
  generalize inside.properties = written at properties
  obtain _ | ⟨first, _ | ⟨second, ⟨⟩⟩⟩ := properties
  have target := (first.type "Cursor" "bool" 2 (by decide) rfl).2.mpr free.1
  have time := (second.type "RFCDate" "string" 0 (by decide) rfl).2.mpr free.2
  rw [List.map_cons, target, List.map_singleton, time]
  decide

/- Part of the method is the word for a type that one of its parameters has. -/
def move : Request where
  method := "Cursor.Move"
  params := [
    { name := "to", type := "Cursor" }, { name := "steps", type := "number[]", optional := true }]

def moveDocument : Document where
  requests := [move]

theorem moveDocument_mistaken :
    moveDocument.validate = .ok moveDocument ∧
    ∃ t, Builds moveDocument {} .requests (.request move) t ∧
      SomeClass t (.property ⟨"to", "Structs.bool", ""⟩ ∈ ·.members) ∧
      ¬ SomeClass t (.property ⟨"to", "bool", ""⟩ ∈ ·.members) := by
  have valid : moveDocument.validate = .ok moveDocument := by decide +kernel
  have good : (Entry.request move).Compilable := by decide +kernel
  have mistaken : (scopeOf moveDocument .requests).fieldType "Cursor" false = .ok "Structs.bool" := by
    decide +kernel
  obtain ⟨t, builds⟩ := exists_builds valid {} (.request move) (by decide) good
  have property (type : String) := builds.property_iff (.inl rfl) ⟨"to", type, ""⟩
  refine ⟨valid, t, builds, (property _).mpr ⟨_, List.mem_cons_self, _, mistaken, rfl⟩, fun bare => ?_⟩
  obtain ⟨f, known, type, given, same⟩ := (property _).mp bare
  simp only [Entry.fields, move, List.append_nil, List.mem_cons, List.not_mem_nil, or_false] at known
  rcases known with rfl | rfl
  · cases mistaken.symm.trans given
    simp at same
  · simp at same

end RpcSharp.Binding
