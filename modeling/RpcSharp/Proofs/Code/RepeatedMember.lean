import Mathlib.Data.List.Forall2
import Mathlib.Data.List.Nodup
import Mathlib.Order.Bounds.Defs
import RpcSharp.Proofs.Code.Members

/-! The search for a name that a class declares twice. It fails exactly if all names are distinct, and
otherwise finds the name at the first place where one stands again. Two properties share a name if their
fields do in pascal case, or if one is renamed after its class and meets the other. -/

namespace RpcSharp.Code

/-- A member declares a name in a class. A property that would have the name of the class gives way. -/
inductive DeclaresName (enclosing : String) : Member → String → Prop
  | nested (t : TypeNode) : DeclaresName enclosing (.nested t) t.name
  | constant (c : Constant) : DeclaresName enclosing (.constant c) c.name
  | property {p : Property} : pascalCase p.name ≠ enclosing →
      DeclaresName enclosing (.property p) (pascalCase p.name)
  | renamed {p : Property} : pascalCase p.name = enclosing →
      DeclaresName enclosing (.property p) (enclosing ++ "Value")
  | method {m : Method} {name returnType : String} : m.kind = .named name returnType →
      DeclaresName enclosing (.method m) name

/-- The name at a place also stands before it. -/
def RepeatsAt (names : List String) (j : Nat) : Prop :=
  ∃ name, names[j]? = some name ∧ name ∈ names.take j

/-- The fields of two properties have one name in pascal case, or that of the class and its substitute. -/
def Clash (enclosing : String) (p q : Property) : Prop :=
  pascalCase p.name = pascalCase q.name ∨
    (pascalCase p.name = enclosing ∧ pascalCase q.name = enclosing ++ "Value") ∨
    (pascalCase p.name = enclosing ++ "Value" ∧ pascalCase q.name = enclosing)

/-! The declared names -/

theorem name?_cases (enclosing : String) (m : Member) :
    (m.name? enclosing = none ∧ m.constructor?.isNone = false) ∨
      ∃ name, m.name? enclosing = some name ∧ m.constructor?.isNone = true ∧
        DeclaresName enclosing m name := by
  cases m with
  | nested t => exact .inr ⟨_, rfl, rfl, .nested t⟩
  | constant c => exact .inr ⟨_, rfl, rfl, .constant c⟩
  | property p =>
    refine .inr ⟨_, rfl, rfl, ?_⟩
    unfold Property.displayName propertyName
    dsimp only
    split
    · rename_i collides
      rw [collides]
      exact .renamed collides
    · rename_i apart
      exact .property apart
  | method m =>
    cases kind : m.kind with
    | constructor =>
      left
      simp [MemberOf.name?, MemberOf.constructor?, Method.isConstructor, kind]
    | named name returnType =>
      right
      refine ⟨name, ?_, ?_, .method kind⟩
      · simp [MemberOf.name?, kind]
      · simp [MemberOf.constructor?, Method.isConstructor, kind]

theorem declaresName_memberNames (c : ClassNode) :
    List.Forall₂ (DeclaresName c.name) (c.members.filter (·.constructor?.isNone)) c.memberNames := by
  unfold ClassOf.memberNames
  induction c.members with
  | nil => exact .nil
  | cons m members ih =>
    rcases name?_cases c.name m with ⟨unnamed, maker⟩ | ⟨name, named, other, declares⟩
    · rw [List.filterMap_cons_none unnamed, List.filter_cons_of_neg (by simp [maker])]
      exact ih
    · rw [List.filterMap_cons_some named, List.filter_cons_of_pos (by simp [other])]
      exact .cons declares ih

/-! The first place of a repetition -/

theorem nodup_iff_not_repeatsAt (names : List String) : names.Nodup ↔ ∀ j, ¬ RepeatsAt names j := by
  rw [List.nodup_iff_getElem?_ne_getElem?]
  constructor
  · rintro distinct j ⟨name, here, again⟩
    obtain ⟨i, found⟩ := List.mem_iff_getElem?.mp again
    rw [List.getElem?_take] at found
    split at found
    · rename_i before
      obtain ⟨within, _⟩ := List.getElem?_eq_some_iff.mp here
      exact distinct i j before within (found.trans here.symm)
    · contradiction
  · intro none i j before within same
    have here := List.getElem?_eq_getElem within
    apply none j
    refine ⟨_, here, List.mem_iff_getElem?.mpr ⟨i, ?_⟩⟩
    rw [List.getElem?_take_of_lt before, same, here]

theorem repeatsAt_take_iff (names : List String) (i j : Nat) :
    RepeatsAt (names.take j) i ↔ i < j ∧ RepeatsAt names i := by
  unfold RepeatsAt
  by_cases before : i < j
  · have earlier : min i j = i := Nat.min_eq_left (Nat.le_of_lt before)
    rw [List.getElem?_take_of_lt before, List.take_take, earlier]
    exact (and_iff_right before).symm
  · have beyond : (names.take j)[i]? = none := by
      apply List.getElem?_eq_none
      rw [List.length_take]
      omega
    constructor
    · rintro ⟨name, here, _⟩
      rw [beyond] at here
      contradiction
    · rintro ⟨early, _⟩
      exact absurd early before

theorem firstRepetition_iff_least (names : List String) (name : String) :
    FirstRepetition names name ↔
      ∃ j, IsLeast { i | RepeatsAt names i } j ∧ names[j]? = some name := by
  constructor
  · rintro ⟨before, after, rfl, distinct, again⟩
    have here : (before ++ name :: after)[before.length]? = some name := by simp
    have front : (before ++ name :: after).take before.length = before := List.take_left
    refine ⟨before.length, ⟨⟨name, here, front.symm ▸ again⟩, ?_⟩, here⟩
    intro i repeats
    apply Nat.le_of_not_lt
    intro early
    have sooner := (repeatsAt_take_iff _ i before.length).mpr ⟨early, repeats⟩
    rw [front] at sooner
    exact (nodup_iff_not_repeatsAt before).mp distinct i sooner
  · rintro ⟨j, ⟨⟨other, place, again⟩, least⟩, here⟩
    cases Option.some.inj (place.symm.trans here)
    obtain ⟨within, value⟩ := List.getElem?_eq_some_iff.mp here
    refine ⟨names.take j, names.drop (j + 1), ?_, ?_, again⟩
    · rw [← value, List.getElem_cons_drop, List.take_append_drop]
    · apply (nodup_iff_not_repeatsAt _).mpr
      intro i repeats
      obtain ⟨early, repeats⟩ := (repeatsAt_take_iff names i j).mp repeats
      exact absurd (least repeats) (Nat.not_le_of_lt early)

/-! Properties -/

/- The substitute for the name of the class is another name, so only one of two can need it. -/
theorem displayName_eq_iff (enclosing : String) (p q : Property) :
    p.displayName enclosing = q.displayName enclosing ↔ Clash enclosing p q := by
  unfold Property.displayName propertyName Clash
  by_cases first : pascalCase p.name = enclosing
  · by_cases second : pascalCase q.name = enclosing
    · simp [first, second]
    · have apart : enclosing ≠ pascalCase q.name := Ne.symm second
      simp [first, second, apart, eq_comm]
  · by_cases second : pascalCase q.name = enclosing
    · simp [first, second, eq_comm]
    · simp [first, second]

theorem repeatedMember?_properties (c : ClassNode) (ps : List Property) :
    ClassOf.repeatedMember? { c with members := ps.map .property } = none ↔
      ps.Pairwise fun p q => ¬ Clash c.name p q := by
  have names : ClassOf.memberNames { c with members := ps.map .property } =
      ps.map (·.displayName c.name) := by
    simp only [ClassOf.memberNames, List.filterMap_map]
    exact congrFun List.filterMap_eq_map ps
  rw [ClassOf.repeatedMember?_eq_none_iff, names, List.nodup_iff_pairwise_ne, List.pairwise_map]
  simp only [ne_eq, displayName_eq_iff]

/-- A class declares the names of its members but for constructors, in order. None of them is reported
exactly if they are distinct, and otherwise it is the one at the first place where a name stands again.
Properties on their own are distinct exactly if no two of them clash. -/
theorem repeatedMember_exact (c : ClassNode) :
    List.Forall₂ (DeclaresName c.name) (c.members.filter (·.constructor?.isNone)) c.memberNames ∧
    (c.repeatedMember? = none ↔ c.memberNames.Nodup) ∧
    (∀ name, c.repeatedMember? = some name ↔
      ∃ j, IsLeast { i | RepeatsAt c.memberNames i } j ∧ c.memberNames[j]? = some name) ∧
    (∀ p q : Property, p.displayName c.name = q.displayName c.name ↔ Clash c.name p q) ∧
    ∀ ps : List Property, ClassOf.repeatedMember? { c with members := ps.map .property } = none ↔
      ps.Pairwise fun p q => ¬ Clash c.name p q := by
  refine ⟨declaresName_memberNames c, c.repeatedMember?_eq_none_iff, ?_, displayName_eq_iff c.name,
    repeatedMember?_properties c⟩
  intro name
  rw [ClassOf.repeatedMember?_eq_some_iff]
  exact firstRepetition_iff_least c.memberNames name

/- A property gives way to the name of its class, and meets another there. -/
example : ClassOf.repeatedMember? {
    name := "Game"
    members := [.property ⟨"id", "int", ""⟩, .property ⟨"game_value", "string", ""⟩,
      .method { kind := .constructor }, .property ⟨"game", "Game", ""⟩, .property ⟨"Id", "int", ""⟩] } =
    some "GameValue" := by decide +kernel

end RpcSharp.Code
