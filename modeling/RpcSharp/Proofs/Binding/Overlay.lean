import RpcSharp.Proofs.Binding.Nesting
import RpcSharp.Proofs.Binding.Outcome

/-! Units side by side. The classes of one category's units are laid over each other by their
paths, as parts of partial classes. That fails where one method's name goes on after another's
with a name that the other's innermost class declares, and nowhere else. -/

namespace RpcSharp.Binding

open RpcSharp.Code RpcSharp.Config RpcSharp.Schema

/-- Two declarations of one name go together: both are parts of a class. -/
def Merges : Member → Member → Prop
  | .nested (.ofClass a), .nested (.ofClass b) =>
    a.isPartial = true ∧ b.isPartial = true ∧ a.isStatic = b.isStatic
  | _, _ => False

theorem id_eq_of_name {d : Document} {s : Settings} {c : Category} {e e' : Entry} {t t' : TypeNode}
    (one : Builds d s c e t) (two : Builds d s c e' t') (same : e.id.name = e'.id.name) :
    e.id = e'.id := by
  have category := one.category.trans two.category.symm
  exact unitId_eq category same

/-- Declarations of one name in one class by different units always go together. -/
def Coherent (d : Document) (s : Settings) (c : Category) : Prop :=
  ∀ e t e' t', Builds d s c e t → Builds d s c e' t' → e.id ≠ e'.id →
    ∀ path name m m', DeclaredAt t path name m → DeclaredAt t' path name m' → Merges m m'

/-- The names that the innermost class of a method declares. -/
def contentNames : Entry → List String
  | .request _ => ["Id", "Request", "Response"]
  | .notification n => "Id" :: n.params.map (propertyName ·.name (leafName n.method))
  | .structType _ => []
  | .enumType _ => []

/-- No method's name goes on after another's with a name that stands there already. -/
def Separate (d : Document) (s : Settings) (c : Category) : Prop :=
  ∀ e t e' t', Builds d s c e t → Builds d s c e' t' →
    ∀ name rest, segments e'.id.name = segments e.id.name ++ name :: rest → name ∉ contentNames e

/-- The innermost class of a method: a part of a class, around content that is in one piece. -/
structure MethodLeaf (e : Entry) (isStatic : Bool) (outer : List String) (leaf : ClassNode) :
    Prop where
  path : segments e.id.name = outer ++ [leaf.name]
  isPartial : leaf.isPartial = true
  isStatic : leaf.isStatic = isStatic
  names : leaf.memberNames = contentNames e
  whole : ∀ inner, .nested (.ofClass inner) ∈ leaf.members → inner.isPartial = false

theorem requestLeaf_methodLeaf {r : Request} {leaf : String} {outer : List String}
    (parts : segments r.method = outer ++ [leaf]) (params result : List Member) :
    MethodLeaf (.request r) true outer (requestLeaf r leaf params result) := by
  refine ⟨parts, rfl, rfl, requestLeaf_memberNames r leaf params result, ?_⟩
  intro inner nested
  rcases (nested_mem_requestLeaf_iff r leaf params result _).mp nested with same | same <;> cases same
  · simp [requestClass]
  · simp [responseClass]

theorem notificationClass_methodLeaf {n : Notification} {scope : Scope} {leaf : String}
    {outer : List String} {params : List Member} (parts : segments n.method = outer ++ [leaf])
    (built : List.Forall₂ (Declares scope) n.params params) :
    MethodLeaf (.notification n) false outer
      ((notificationClass n leaf params).withJsonConstructor false) := by
  refine ⟨by simpa [notificationClass, Entry.id] using parts, by simp [notificationClass],
    by simp [notificationClass], ?_, ?_⟩
  · rw [ClassOf.withJsonConstructor_memberNames, notificationClass_memberNames built, contentNames,
      leafName_eq parts]
  · intro inner nested
    exact absurd nested ((notificationClass_plain built n leaf).flat false _)

theorem Builds.methodLeaf {d : Document} {s : Settings} {c : Category} {e : Entry} {t : TypeNode}
    (method : c = .requests ∨ c = .notifications) (builds : Builds d s c e t) :
    ∃ outer leaf, MethodLeaf e (c == .requests) outer leaf ∧
      t = nest (context d s) c (c == .requests) outer leaf := by
  rcases builds.method_cases method with
    ⟨r, leaf, outer, params, result, rfl, rfl, parts, _, _, rfl⟩ |
    ⟨n, leaf, outer, params, rfl, rfl, parts, first, rfl⟩
  · exact ⟨outer, _, requestLeaf_methodLeaf parts params result, rfl⟩
  · exact ⟨outer, _, notificationClass_methodLeaf parts first, rfl⟩

section Leaf

variable {e : Entry} {isStatic : Bool} {outer : List String} {leaf : ClassNode}
  (shape : MethodLeaf e isStatic outer leaf) (c : Context) (category : Category)

include shape

/- A declaration is on the way to the leaf, or its path with its name goes on behind the leaf. -/
theorem MethodLeaf.declared_cases {path : List String} {name : String} {m : Member}
    (declared : DeclaredAt (nest c category isStatic outer leaf) path name m) :
    (∃ inner rest, m = .nested (.ofClass inner) ∧ inner.isPartial = true ∧
      inner.isStatic = isStatic ∧ category.name :: segments e.id.name = path ++ name :: rest) ∨
    ∃ first more, path ++ [name] = category.name :: segments e.id.name ++ first :: more ∧
      first ∈ contentNames e := by
  rcases (declaredAt_nest_iff c category isStatic outer leaf path name m).mp declared with
    ⟨after, parts, _, rfl, rfl⟩ | ⟨rest, rfl, inside⟩
  · obtain ⟨rest, next⟩ := enclose_name isStatic after leaf
    have marks := enclose_marks after shape.isPartial shape.isStatic
    refine .inl ⟨_, rest, rfl, marks.1, marks.2, ?_⟩
    rw [shape.path, ← List.cons_append, parts, List.append_assoc, next]
  · obtain ⟨first, more, below, known⟩ := inside.member
    refine .inr ⟨first, more, ?_, shape.names ▸ known⟩
    rw [List.append_assoc, below, shape.path]
    simp

theorem MethodLeaf.declares_segment {before rest : List String} {name : String}
    (parts : segments e.id.name = before ++ name :: rest) :
    ∃ m, DeclaredAt (nest c category isStatic outer leaf) (category.name :: before) name m := by
  have split := shape.path.symm.trans parts
  rcases List.eq_nil_or_concat rest with rfl | ⟨middle, last, rfl⟩
  · have same := List.append_inj' split rfl
    refine ⟨_, (declaredAt_nest_iff ..).mpr (.inl ⟨[], by simp [same.1], by simp, rfl, ?_⟩)⟩
    exact (List.cons.inj same.2).1.symm
  · have longer : outer = before ++ name :: middle := by
      have same := List.append_inj' (split.trans (by simp : _ = (before ++ name :: middle) ++ [last])) rfl
      exact same.1
    exact ⟨_, (declaredAt_nest_iff ..).mpr (.inl ⟨name :: middle, by simp [longer], by simp, rfl, rfl⟩)⟩

theorem MethodLeaf.declares_content {name : String} (known : name ∈ contentNames e) :
    ∃ m, DeclaredAt (nest c category isStatic outer leaf) (category.name :: segments e.id.name) name m ∧
      ∀ other, ¬ Merges m other := by
  obtain ⟨m, listed, named⟩ := (mem_memberNames_iff leaf name).mp (shape.names ▸ known)
  have inside : DeclaredAt (.ofClass leaf) [leaf.name] name m := ⟨leaf, .root leaf, listed, named⟩
  refine ⟨m, (declaredAt_nest_iff ..).mpr (.inr ⟨_, by simp [shape.path], inside⟩), ?_⟩
  intro other merges
  cases m with
  | nested t =>
    cases t with
    | ofClass inner =>
      have apart := shape.whole inner listed
      cases other with
      | nested t' =>
        cases t' with
        | ofClass inner' => simp [Merges, apart] at merges
        | ofEnum e => exact merges
      | constant | property | method => exact merges
    | ofEnum e => exact merges
  | constant | property | method => exact merges

end Leaf

theorem coherent_iff_separate (d : Document) (s : Settings) {c : Category}
    (method : c = .requests ∨ c = .notifications) : Coherent d s c ↔ Separate d s c := by
  constructor
  · intro coherent e t e' t' one two name rest longer known
    obtain ⟨outer, leaf, shape, rfl⟩ := one.methodLeaf method
    obtain ⟨outer', leaf', shape', rfl⟩ := two.methodLeaf method
    obtain ⟨m, declared, alone⟩ := shape.declares_content (context d s) c known
    obtain ⟨m', declared'⟩ := shape'.declares_segment (context d s) c longer
    have different : e.id ≠ e'.id := by
      intro same
      rw [← same] at longer
      simp at longer
    exact alone m' (coherent e _ e' _ one two different _ name m m' declared declared')
  · intro separate e t e' t' one two different path name m m' declared declared'
    obtain ⟨outer, leaf, shape, rfl⟩ := one.methodLeaf method
    obtain ⟨outer', leaf', shape', rfl⟩ := two.methodLeaf method
    rcases shape.declared_cases (context d s) c declared with
      ⟨inner, rest, rfl, isPartial, isStatic, on⟩ | ⟨first, more, behind, known⟩
    · rcases shape'.declared_cases (context d s) c declared' with
        ⟨inner', rest', rfl, isPartial', isStatic', on'⟩ | ⟨first', more', behind', known'⟩
      · exact ⟨isPartial, isPartial', isStatic.trans isStatic'.symm⟩
      · -- The way to one leaf goes on behind the other.
        have longer : segments e.id.name = segments e'.id.name ++ first' :: (more' ++ rest) := by
          have h : path ++ name :: rest = path ++ [name] ++ rest := by simp
          rw [h, behind'] at on
          simpa using on
        exact absurd known' (separate e' _ e _ two one first' _ longer)
    · rcases shape'.declared_cases (context d s) c declared' with
        ⟨inner', rest', rfl, isPartial', isStatic', on'⟩ | ⟨first', more', behind', known'⟩
      · have longer : segments e'.id.name = segments e.id.name ++ first :: (more ++ rest') := by
          have h : path ++ name :: rest' = path ++ [name] ++ rest' := by simp
          rw [h, behind] at on'
          simpa using on'
        exact absurd known (separate e _ e' _ one two first _ longer)
      · -- Both are behind their leaves, so one leaf is behind the other, or both are one.
        have same := behind.symm.trans behind'
        simp only [List.cons_append, List.cons.injEq, true_and] at same
        rcases append_cons_cases same with ⟨_, h⟩ | ⟨gap, longer⟩ | ⟨gap, longer⟩
        · exact absurd (id_eq_of_name one two (segments_injective h)) different
        · exact absurd known (separate e _ e' _ one two first gap longer)
        · exact absurd known' (separate e' _ e _ two one first' gap longer)

/-- The units of a category merge exactly if no method's name goes on after another's with a name
that the innermost class of the other declares. -/
theorem overlay_coherent_iff (d : Document) (s : Settings) :
    (Coherent d s .requests ↔ Separate d s .requests) ∧
      (Coherent d s .notifications ↔ Separate d s .notifications) :=
  ⟨coherent_iff_separate d s (.inl rfl), coherent_iff_separate d s (.inr rfl)⟩

/-- A request inside another's parameters, and a notification inside another's property. -/
def clashDocument : Document where
  requests := [{ method := "Profile" }, { method := "Profile.Request" }]
  notifications := [
    { method := "Log", params := [{ name := "level", type := "string" }] },
    { method := "Log.Level" }]

theorem clashDocument_not_coherent :
    clashDocument.validate = .ok clashDocument ∧ ¬ Coherent clashDocument {} .requests ∧
      ¬ Coherent clashDocument {} .notifications := by
  have valid : clashDocument.validate = .ok clashDocument := by decide +kernel
  have visible : Visible "Profile" ∧ Visible "Profile.Request" ∧ Visible "Log" ∧
      Visible "Log.Level" := by
    unfold Visible
    decide +kernel
  refine ⟨valid, ?_, ?_⟩
  · obtain ⟨t, one⟩ := exists_builds valid {} (.request { method := "Profile" }) (by decide)
      ⟨visible.1, by simp, by simp, by decide, by decide⟩
    obtain ⟨t', two⟩ := exists_builds valid {} (.request { method := "Profile.Request" }) (by decide)
      ⟨visible.2.1, by simp, by simp, by decide, by decide⟩
    rw [coherent_iff_separate _ _ (.inl rfl)]
    intro separate
    exact separate _ t _ t' one two "Request" [] (by decide +kernel) (by decide)
  · have text : Supported "string" := .inr (plain_of_any (by decide))
    obtain ⟨t, one⟩ := exists_builds valid {}
      (.notification { method := "Log", params := [{ name := "level", type := "string" }] })
      (by decide) ⟨visible.2.2.1, by simpa using text, by decide +kernel⟩
    obtain ⟨t', two⟩ := exists_builds valid {} (.notification { method := "Log.Level" }) (by decide)
      ⟨visible.2.2.2, by simp, by decide⟩
    rw [coherent_iff_separate _ _ (.inr rfl)]
    intro separate
    exact separate _ t _ t' one two "Level" [] (by decide +kernel) (by decide +kernel)

end RpcSharp.Binding
