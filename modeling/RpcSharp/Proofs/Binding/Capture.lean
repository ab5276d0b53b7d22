import RpcSharp.Proofs.Binding.Nesting
import RpcSharp.Proofs.Binding.Outcome
import RpcSharp.Proofs.Code.HeadName

/-! Types that are mistaken for classes. C# takes the name that a type starts with for the closest
class of that name, so a type of the schema is lost where a class around it has its name. Scopes
keep this from ordinary types. It happens to arguments of maps, to what a substitution writes, to
types with marks of their own, and to qualifiers where a method has a part `Structs` or `Enums`. -/

namespace RpcSharp.Binding

open RpcSharp.Code RpcSharp.Config RpcSharp.Schema

def Entry.fields : Entry → List Field
  | .request r => r.params ++ r.result
  | .notification n => n.params
  | .structType t => t.fields
  | .enumType _ => []

/-- A property of an entry's tree has a type that starts with the name of a class in some tree of
the same category. -/
def Captured (d : Document) (s : Settings) (c : Category) (e : Entry) (name : String) : Prop :=
  ∃ t, Builds d s c e t ∧
    (∃ p, SomeClass t (.property p ∈ ·.members) ∧ name ∈ headNames p.type) ∧
    ∃ e' t', Builds d s c e' t' ∧ SomeClass t' (·.name = name)

/-- A name of a class that is generated for the methods of a category that build. -/
def Occupied (d : Document) (s : Settings) (c : Category) (name : String) : Prop :=
  ∃ e t, Builds d s c e t ∧ (name ∈ generatedNames c ∨ name ∈ segments e.id.name)

/-! The properties of an entry -/

/-- What the types of an entry's fields may collide with. -/
def Entry.scope (c : Context) : Entry → Scope
  | .request _ => c.requests
  | .notification _ => c.notifications
  | .structType _ | .enumType _ => {}

theorem not_someClass_ofEnum (e : EnumNode) (P : ClassNode → Prop) : ¬ SomeClass (.ofEnum e) P := by
  rintro ⟨path, c, stands, _⟩
  cases stands

section Build

variable {c : Context} {e : Entry} {t : TypeNode} (built : e.build c = .ok t)

include built

theorem build_property_iff (p : Property) :
    SomeClass t (.property p ∈ ·.members) ↔
      ∃ f ∈ e.fields, Declares (e.scope c) f (.property p) := by
  cases e with
  | request r =>
    obtain ⟨leaf, outer, params, result, _, first, second, _, _, rfl⟩ := buildRequest_eq_ok built
    rw [someClass_nest_member_iff _ _ _ _ _ (by simp), requestLeaf_someClass_iff first second,
      ClassOf.mem_withJsonConstructor (by simp), ClassOf.mem_withJsonConstructor (by simp)]
    simp [requestLeaf, idConstant, requestClass, responseClass, mem_iff_of_declares first,
      mem_iff_of_declares second, Entry.fields, Entry.scope, or_and_right, exists_or]
  | notification n =>
    obtain ⟨leaf, outer, params, _, first, _, rfl⟩ := buildNotification_eq_ok built
    rw [someClass_nest_member_iff _ _ _ _ _ (by simp), notificationClass_someClass_iff first,
      ClassOf.mem_withJsonConstructor (by simp)]
    simp [notificationClass, idConstant, mem_iff_of_declares first, Entry.fields, Entry.scope]
  | structType x =>
    obtain ⟨members, first, _, rfl⟩ := buildStruct_eq_ok built
    rw [someClass_of_flat ((structClass_plain first c x).flat false),
      ClassOf.mem_withJsonConstructor (by simp)]
    exact mem_iff_of_declares first _
  | enumType x =>
    cases Except.ok.inj built
    simp [buildEnum, not_someClass_ofEnum, Entry.fields]

theorem build_fieldType : ∀ f ∈ e.fields, ∃ type, (e.scope c).fieldType f.type f.optional = .ok type := by
  intro f known
  cases e with
  | request r =>
    obtain ⟨_, _, _, _, _, first, second, _⟩ := buildRequest_eq_ok built
    rcases List.mem_append.mp known with param | result
    · exact fieldType_of_declares first f param
    · exact fieldType_of_declares second f result
  | notification n =>
    obtain ⟨_, _, _, _, first, _⟩ := buildNotification_eq_ok built
    exact fieldType_of_declares first f known
  | structType x =>
    obtain ⟨_, first, _⟩ := buildStruct_eq_ok built
    exact fieldType_of_declares first f known
  | enumType x => contradiction

end Build

/-! The classes of a method and their properties -/

section Builds

variable {d : Document} {s : Settings} {c : Category} {e : Entry} {t : TypeNode}

theorem Builds.className_iff (method : c = .requests ∨ c = .notifications)
    (builds : Builds d s c e t) (name : String) :
    SomeClass t (·.name = name) ↔ name ∈ generatedNames c ∨ name ∈ segments e.id.name := by
  rcases builds.method_cases method with
    ⟨r, leaf, outer, params, result, rfl, rfl, parts, first, second, rfl⟩ |
    ⟨n, leaf, outer, params, rfl, rfl, parts, first, rfl⟩
  · rw [someClass_nest_name_iff, requestLeaf_someClass_iff first second]
    simp only [requestLeaf, requestClass, responseClass, ClassOf.withJsonConstructor_name, Entry.id,
      Category.name, generatedNames, parts, List.mem_cons, List.mem_append, List.not_mem_nil]
    grind
  · rw [someClass_nest_name_iff, notificationClass_someClass_iff first]
    simp only [notificationClass, ClassOf.withJsonConstructor_name, Entry.id, Category.name,
      generatedNames, parts, List.mem_cons, List.mem_append, List.not_mem_nil]
    grind

theorem Builds.scope_eq (method : c = .requests ∨ c = .notifications) (builds : Builds d s c e t) :
    e.scope (context d s) = scopeOf d c := by
  obtain ⟨_, rfl, _⟩ := builds
  cases e with
  | request r => rfl
  | notification n => rfl
  | structType x => simp [Entry.id] at method
  | enumType x => simp [Entry.id] at method

theorem Builds.property_iff (method : c = .requests ∨ c = .notifications)
    (builds : Builds d s c e t) (p : Property) :
    SomeClass t (.property p ∈ ·.members) ↔
      ∃ f ∈ e.fields, Declares (scopeOf d c) f (.property p) := by
  rw [build_property_iff builds.built, builds.scope_eq method]

theorem Builds.fieldType (method : c = .requests ∨ c = .notifications) (builds : Builds d s c e t) :
    ∀ f ∈ e.fields, ∃ type, (scopeOf d c).fieldType f.type f.optional = .ok type := by
  rw [← builds.scope_eq method]
  exact build_fieldType builds.built

theorem Builds.name_listed (builds : Builds d s c e t) : e.id.name ∈ d.names c := by
  obtain ⟨listed, rfl, _⟩ := builds
  cases e <;> simp_all [entries, Entry.id, Document.names] <;> exact ⟨_, listed, rfl⟩

theorem Occupied.shadows {name : String} (occupied : Occupied d s c name) : Shadows d c name := by
  obtain ⟨e, t, builds, generated | part⟩ := occupied
  · exact .inr generated
  · exact .inl ⟨_, builds.name_listed, part⟩

end Builds

section Captured

variable {d : Document} {s : Settings} {c : Category}
  (method : c = .requests ∨ c = .notifications)

include method

theorem exists_className_iff (name : String) :
    (∃ e t, Builds d s c e t ∧ SomeClass t (·.name = name)) ↔ Occupied d s c name := by
  constructor
  · rintro ⟨e, t, builds, named⟩
    exact ⟨e, t, builds, (builds.className_iff method name).mp named⟩
  · rintro ⟨e, t, builds, named⟩
    exact ⟨e, t, builds, (builds.className_iff method name).mpr named⟩

theorem Builds.headName_iff {e : Entry} {t : TypeNode} (builds : Builds d s c e t) (name : String) :
    (∃ p, SomeClass t (.property p ∈ ·.members) ∧ name ∈ headNames p.type) ↔
      ∃ f ∈ e.fields, (scopeOf d c).Refers f.type name := by
  constructor
  · rintro ⟨p, inside, head⟩
    obtain ⟨f, known, type, given, same⟩ := (builds.property_iff method p).mp inside
    cases same
    exact ⟨f, known, (Scope.mem_headNames_iff given name).mp head⟩
  · rintro ⟨f, known, refers⟩
    obtain ⟨type, given⟩ := builds.fieldType method f known
    exact ⟨⟨f.name, type, f.doc⟩, (builds.property_iff method _).mpr ⟨f, known, type, given, rfl⟩,
      (Scope.mem_headNames_iff given name).mpr refers⟩

theorem captured_iff (e : Entry) (name : String) :
    Captured d s c e name ↔ (∃ t, Builds d s c e t) ∧
      (∃ f ∈ e.fields, (scopeOf d c).Refers f.type name) ∧ Occupied d s c name := by
  constructor
  · rintro ⟨t, builds, head, taken⟩
    exact ⟨⟨t, builds⟩, (builds.headName_iff method name).mp head,
      (exists_className_iff method name).mp taken⟩
  · rintro ⟨⟨t, builds⟩, refers, occupied⟩
    exact ⟨t, builds, (builds.headName_iff method name).mpr refers,
      (exists_className_iff method name).mpr occupied⟩

theorem captured_of_segment {e : Entry} {f : Field} {name : String} (built : ∃ t, Builds d s c e t)
    (known : f ∈ e.fields) (refers : (scopeOf d c).Refers f.type name)
    (part : name ∈ segments e.id.name) : Captured d s c e name := by
  obtain ⟨t, builds⟩ := built
  have occupied : Occupied d s c name := ⟨e, t, builds, .inr part⟩
  exact (captured_iff method e name).mpr ⟨⟨t, builds⟩, ⟨f, known, refers⟩, occupied⟩

/- A scope takes all names that are occupied, so an ordinary type is left with its qualifier. -/
theorem not_captured_of_ordinary {e : Entry} (ordinary : ∀ f ∈ e.fields, Ordinary f.type)
    (structs : ¬ Occupied d s c "Structs") (enums : ¬ Occupied d s c "Enums") (name : String) :
    ¬ Captured d s c e name := by
  intro captured
  obtain ⟨_, ⟨f, known, refers⟩, occupied⟩ := (captured_iff method e name).mp captured
  rcases (ordinary f known).refers_cases refers with rfl | rfl | free
  · exact enums occupied
  · exact structs occupied
  · exact free ((mem_taken_iff d c name).mpr occupied.shadows)

end Captured

/-- A type is mistaken for a class exactly if one of the names that it refers to is that of a class
for the methods of its category. This spares ordinary types whose qualifiers are not mistaken. -/
theorem captured_iff_refers_occupied (d : Document) (s : Settings) (c : Category)
    (method : c = .requests ∨ c = .notifications) (e : Entry) :
    (∀ name, Captured d s c e name ↔ (∃ t, Builds d s c e t) ∧
      (∃ f ∈ e.fields, (scopeOf d c).Refers f.type name) ∧ Occupied d s c name) ∧
    ((∀ f ∈ e.fields, Ordinary f.type) → ¬ Occupied d s c "Structs" → ¬ Occupied d s c "Enums" →
      ∀ name, ¬ Captured d s c e name) :=
  ⟨captured_iff method e, not_captured_of_ordinary method⟩

/-- A list of structures with the name of a class around it. -/
def historyDocument : Document where
  requests := [
    { method := "Profile.History", result := [{ name := "profiles", type := "Profile[]" }] }]
  structTypes := [{ name := "Profile" }]

theorem historyDocument_not_captured :
    Shadows historyDocument .requests "Profile" ∧ ∀ name, ¬ Captured historyDocument {} .requests
      (.request
        { method := "Profile.History", result := [{ name := "profiles", type := "Profile[]" }] })
      name := by
  have list : Ordinary ("Profile" ++ "[]") :=
    .array (.name (plain_of_any (by decide)) (by decide) (by decide +kernel))
  have free : ¬ Shadows historyDocument .requests "Structs" ∧
      ¬ Shadows historyDocument .requests "Enums" := by
    unfold Shadows
    decide +kernel
  refine ⟨by unfold Shadows; decide +kernel,
    (captured_iff_refers_occupied historyDocument {} .requests (.inl rfl) _).2 ?_ ?_ ?_⟩
  · intro f known
    cases List.mem_singleton.mp known
    exact list
  · exact fun occupied => free.1 occupied.shadows
  · exact fun occupied => free.2 occupied.shadows

/- Each of these refers to a class of its own name: by a substitution, by an argument of a map, and
by a qualifier. -/
def runRequest : Request where
  method := "Action.Run"
  params := [{ name := "actions", type := "Actions" }]

def listRequest : Request where
  method := "Profile.List"
  result := [{ name := "profiles", type := "\x7b [key: string]: Profile \x7d" }]

def findRequest : Request where
  method := "Structs.Find"
  result := [{ name := "profile", type := "Profile" }]

def captureDocument : Document where
  requests := [runRequest, listRequest, findRequest]
  structTypes := [{ name := "Action" }, { name := "Profile" }]

theorem captureDocument_captured :
    captureDocument.validate = .ok captureDocument ∧
    Captured captureDocument {} .requests (.request runRequest) "Action" ∧
    Captured captureDocument {} .requests (.request listRequest) "Profile" ∧
    Captured captureDocument {} .requests (.request findRequest) "Structs" := by
  have valid : captureDocument.validate = .ok captureDocument := by decide +kernel
  have visible : Visible "Action.Run" ∧ Visible "Profile.List" ∧ Visible "Structs.Find" := by
    unfold Visible
    decide +kernel
  have map : MapLiteral "\x7b [key: string]: Profile \x7d".toList "string".toList "Profile".toList :=
    mapParts?_eq_some_iff.mp (by decide +kernel)
  have actions : ∀ c ∈ "Actions".toList, isTypePunctuation c = false := plain_of_any (by decide)
  have profile : ∀ c ∈ "Profile".toList, isTypePunctuation c = false := plain_of_any (by decide)
  have free : "Actions" ∉ (scopeOf captureDocument .requests).taken := by decide +kernel
  have taken : "Profile" ∈ (scopeOf captureDocument .requests).taken := by decide +kernel
  refine ⟨valid, ?_, ?_, ?_⟩
  · have built := exists_builds valid {} (.request runRequest) (by decide)
      ⟨visible.1, by simpa [runRequest] using .inr actions, by simp [runRequest], by decide +kernel,
        by decide⟩
    exact captured_of_segment (.inl rfl) built (List.mem_singleton_self _) (.bare actions free)
      (by decide +kernel)
  · have built := exists_builds valid {} (.request listRequest) (by decide)
      ⟨visible.2.1, by simp [listRequest], by simpa [listRequest] using .inl ⟨_, _, map⟩, by decide,
        by decide +kernel⟩
    exact captured_of_segment (.inl rfl) built (List.mem_singleton_self _) (.value map)
      (by decide +kernel)
  · have built := exists_builds valid {} (.request findRequest) (by decide)
      ⟨visible.2.2, by simp [findRequest], by simpa [findRequest] using .inr profile, by decide,
        by decide +kernel⟩
    exact captured_of_segment (.inl rfl) built (List.mem_singleton_self _) (.qualifier taken)
      (by decide +kernel)

end RpcSharp.Binding
