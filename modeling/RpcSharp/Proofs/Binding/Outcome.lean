import RpcSharp.Binding.Report
import RpcSharp.Proofs.Binding.Build

/-! Which entries of a document compile, and what is reported of those that do not. Both are read
off the entry alone; of the other entries only the way a type is referred to in a report. -/

namespace RpcSharp.Binding

open RpcSharp.Code RpcSharp.Config RpcSharp.Schema RpcSharp.Text

/-- What a check refuses with. A check that passes refuses with nothing. -/
abbrev Check := UnitFault → Prop

/-- The fault of the first check in a row that does not pass. -/
inductive FirstOf : List Check → UnitFault → Prop
  | here {check : Check} {rest : List Check} {fault : UnitFault} :
      check fault → FirstOf (check :: rest) fault
  | later {check : Check} {rest : List Check} {fault : UnitFault} :
      (∀ other, ¬ check other) → FirstOf rest fault → FirstOf (check :: rest) fault

theorem exists_firstOf_iff (checks : List Check) :
    (∃ fault, FirstOf checks fault) ↔ ∃ check ∈ checks, ∃ fault, check fault := by
  induction checks with
  | nil =>
    constructor
    · rintro ⟨_, refused⟩; cases refused
    · rintro ⟨_, known, _⟩; cases known
  | cons check rest ih =>
    constructor
    · rintro ⟨fault, refused⟩
      cases refused with
      | here refused => exact ⟨check, List.mem_cons_self, fault, refused⟩
      | later _ refused =>
        obtain ⟨other, known, faults⟩ := ih.mp ⟨fault, refused⟩
        exact ⟨other, List.mem_cons_of_mem _ known, faults⟩
    · rintro ⟨other, known, fault, refused⟩
      by_cases passes : ∀ fault, ¬ check fault
      · rcases List.mem_cons.mp known with rfl | later
        · exact absurd refused (passes fault)
        · obtain ⟨first, found⟩ := ih.mpr ⟨other, later, fault, refused⟩
          exact ⟨first, .later passes found⟩
      · simp only [not_forall, Classical.not_not] at passes
        obtain ⟨first, found⟩ := passes
        exact ⟨first, .here found⟩

/-- A step of compiling that fails with the faults of a check and no others. -/
def Makes {α : Type} (check : Check) (step : Except UnitFault α) : Prop :=
  ∀ fault, step = .error fault ↔ check fault

theorem makes_nothing {α : Type} (a : α) : Makes (FirstOf []) (.ok a : Except UnitFault α) :=
  fun _ => ⟨fun h => (nomatch h), fun h => (nomatch h)⟩

theorem Makes.bind {α β : Type} {check : Check} {rest : List Check} {step : Except UnitFault α}
    {next : α → Except UnitFault β} (first : Makes check step)
    (others : ∀ a, step = .ok a → Makes (FirstOf rest) (next a)) :
    Makes (FirstOf (check :: rest)) (step >>= next) := by
  intro fault
  cases outcome : step with
  | error other =>
    have refused := (first other).mp outcome
    constructor
    · intro h
      cases h
      exact .here refused
    · intro h
      cases h with
      | here again =>
        cases outcome.symm.trans ((first fault).mpr again)
        rfl
      | later passes _ => exact absurd refused (passes other)
  | ok a =>
    have passes : ∀ other, ¬ check other := by
      intro other refused
      rw [(first other).mpr refused] at outcome
      contradiction
    constructor
    · exact fun h => .later passes ((others a outcome fault).mp h)
    · intro h
      cases h with
      | here refused => exact absurd refused (passes fault)
      | later _ refused => exact (others a outcome fault).mpr refused

theorem Makes.exists_ok_iff {α : Type} {checks : List Check} {step : Except UnitFault α}
    (made : Makes (FirstOf checks) step) :
    (∃ a, step = .ok a) ↔ ∀ check ∈ checks, ∀ fault, ¬ check fault := by
  have refused : (∃ fault, step = .error fault) ↔ ∃ check ∈ checks, ∃ fault, check fault := by
    rw [← exists_firstOf_iff]
    exact exists_congr made
  constructor
  · rintro ⟨a, built⟩ check known fault found
    obtain ⟨other, failed⟩ := refused.mpr ⟨check, known, fault, found⟩
    rw [built] at failed
    contradiction
  · intro passes
    cases outcome : step with
    | ok a => exact ⟨a, rfl⟩
    | error fault =>
      obtain ⟨check, known, other, found⟩ := refused.mp ⟨fault, outcome⟩
      exact absurd found (passes check known other)

/-! The checks of an entry -/

def BlankSegment (method : String) : Check := fun fault =>
  (∃ segment ∈ segments method, allBlank segment.toList = true) ∧ fault = .emptySegment method

/-- A type that cannot be written is reported as the scope refers to it. -/
def UnsupportedField (scope : Scope) (fs : List Field) : Check := fun fault =>
  ∃ f, FirstUnsupported fs f ∧ fault = .unsupportedType (scope.resolve f.type)

def RepeatedMember (container : String) (names : List String) : Check := fun fault =>
  ∃ name, FirstRepetition names name ∧ fault = .repeatedMember container name

/-- Everything that is asked of an entry, in order. -/
def Entry.checks (c : Context) : Entry → List Check
  | .request r => [
      BlankSegment r.method,
      UnsupportedField c.requests r.params,
      UnsupportedField c.requests r.result,
      RepeatedMember "Request" ("SendAsync" :: r.params.map (propertyName ·.name "Request")),
      RepeatedMember "Response" (r.result.map (propertyName ·.name "Response"))]
  | .notification n => [
      BlankSegment n.method,
      UnsupportedField c.notifications n.params,
      RepeatedMember (leafName n.method)
        ("Id" :: n.params.map (propertyName ·.name (leafName n.method)))]
  | .structType t => [
      UnsupportedField {} t.fields,
      RepeatedMember t.name (t.fields.map (propertyName ·.name t.name))]
  | .enumType _ => []

theorem splitMethod_makes (method : String) : Makes (BlankSegment method) (splitMethod method) := by
  intro fault
  rcases splitMethod_cases method with ⟨blank, refused⟩ | ⟨visible, leaf, outer, _, built⟩
  · rw [refused]
    constructor
    · intro h; exact ⟨blank, (Except.error.inj h).symm⟩
    · rintro ⟨_, rfl⟩; rfl
  · rw [built]
    constructor
    · intro h; contradiction
    · rintro ⟨⟨segment, found, blank⟩, _⟩
      rw [visible segment found] at blank
      contradiction

theorem FirstUnsupported.unique {fs : List Field} {f g : Field} (one : FirstUnsupported fs f)
    (two : FirstUnsupported fs g) : f = g := by
  obtain ⟨before, after, rfl, good, bad⟩ := one
  obtain ⟨before', after', same, good', bad'⟩ := two
  rcases append_cons_cases same with ⟨h, _⟩ | ⟨gap, rfl⟩ | ⟨gap, rfl⟩
  · exact h
  · exact absurd (good' f (by simp)) bad
  · exact absurd (good g (by simp)) bad'

theorem FirstUnsupported.not_all {fs : List Field} {f : Field} (first : FirstUnsupported fs f) :
    ¬ ∀ g ∈ fs, Supported g.type := by
  obtain ⟨before, after, rfl, _, bad⟩ := first
  exact fun good => bad (good f (by simp))

theorem fieldProperties_makes {scope : Scope} (names : ∀ name ∈ scope.taken, ':' ∉ name.toList)
    (fs : List Field) : Makes (UnsupportedField scope fs) (fieldProperties scope fs) := by
  intro fault
  rcases fieldProperties_cases names fs with ⟨good, members, built⟩ | ⟨f, first, refused⟩
  · rw [built]
    constructor
    · intro h; contradiction
    · rintro ⟨f, first, _⟩
      exact absurd good first.not_all
  · rw [refused]
    constructor
    · intro h; exact ⟨f, first, (Except.error.inj h).symm⟩
    · rintro ⟨g, again, rfl⟩
      rw [first.unique again]

theorem requireUnique_makes (c : ClassNode) :
    Makes (RepeatedMember c.name c.memberNames) c.requireUnique :=
  c.requireUnique_eq_error_iff

section Colons

variable {c : Context}

theorem buildRequest_makes (names : ∀ name ∈ c.requests.taken, ':' ∉ name.toList) (r : Request) :
    Makes (FirstOf (Entry.checks c (.request r))) (buildRequest c r) := by
  refine (splitMethod_makes r.method).bind fun (leaf, outer) split => ?_
  refine (fieldProperties_makes names r.params).bind fun params first => ?_
  refine (fieldProperties_makes names r.result).bind fun result second => ?_
  rw [fieldProperties_eq_ok_iff] at first second
  rw [← requestClass_memberNames first leaf, ← responseClass_memberNames second]
  refine (requireUnique_makes (requestClass leaf params)).bind fun request unique => ?_
  refine (requireUnique_makes (responseClass result)).bind fun response unique' => ?_
  obtain ⟨_, rfl⟩ := (ClassOf.requireUnique_eq_ok_iff _ _).mp unique
  obtain ⟨_, rfl⟩ := (ClassOf.requireUnique_eq_ok_iff _ _).mp unique'
  -- The three members of the leaf have names of their own, so this check always passes.
  have distinct : (requestLeaf r leaf params result).memberNames.Nodup := by
    rw [requestLeaf_memberNames]
    decide
  have passes := (ClassOf.requireUnique_eq_ok_iff _ _).mpr ⟨distinct, rfl⟩
  have built : (ClassOf.requireUnique (requestLeaf r leaf params result) >>= fun content =>
      (.ok (nest c .requests true outer content) : Except UnitFault TypeNode)) =
        .ok (nest c .requests true outer (requestLeaf r leaf params result)) := by
    rw [passes]; rfl
  exact built ▸ makes_nothing _

theorem buildNotification_makes (names : ∀ name ∈ c.notifications.taken, ':' ∉ name.toList)
    (n : Notification) :
    Makes (FirstOf (Entry.checks c (.notification n))) (buildNotification c n) := by
  refine (splitMethod_makes n.method).bind fun (leaf, outer) split => ?_
  refine (fieldProperties_makes names n.params).bind fun params first => ?_
  rw [fieldProperties_eq_ok_iff] at first
  rw [leafName_eq (splitMethod_eq_ok split), ← notificationClass_memberNames first n leaf]
  exact (requireUnique_makes (notificationClass n leaf params)).bind fun _ _ => makes_nothing _

theorem buildStruct_makes (t : StructType) :
    Makes (FirstOf (Entry.checks c (.structType t))) (buildStruct c t) := by
  refine (fieldProperties_makes (by simp) t.fields).bind fun members first => ?_
  rw [fieldProperties_eq_ok_iff] at first
  rw [← structClass_memberNames first c t]
  exact (requireUnique_makes (structClass c t members)).bind fun _ _ => makes_nothing _

end Colons

theorem patches_misfit (t : EnumType) (c : Context) : (buildEnum c t).misfit? = none := by
  simp only [buildEnum, TypeNode.misfit?, EnumOf.misfit?, List.findSome?_eq_none_iff,
    List.mem_append, List.mem_map]
  rintro member (⟨patch, _, rfl⟩ | ⟨v, _, rfl⟩) <;> rfl

/- Trees that are built have a namespace and no types inside enumerations. -/
theorem build_writable {c : Context} {e : Entry} {t : TypeNode} (built : e.build c = .ok t) :
    (∃ space, t.namespace = some space) ∧ t.misfit? = none := by
  cases e with
  | request r =>
    obtain ⟨leaf, outer, params, result, _, first, second, _, _, rfl⟩ := buildRequest_eq_ok built
    refine ⟨⟨_, rfl⟩, ?_⟩
    rw [nest_misfit?]
    simp [requestLeaf, firstMisfit?, memberMisfit?, idConstant, requestClass, responseClass,
      firstMisfit?_of_declares first, firstMisfit?_of_declares second]
  | notification n =>
    obtain ⟨leaf, outer, params, _, first, _, rfl⟩ := buildNotification_eq_ok built
    refine ⟨⟨_, rfl⟩, ?_⟩
    rw [nest_misfit?]
    simp [notificationClass, firstMisfit?, memberMisfit?, idConstant, firstMisfit?_of_declares first]
  | structType s =>
    obtain ⟨members, first, _, rfl⟩ := buildStruct_eq_ok built
    refine ⟨⟨_, ClassOf.withJsonConstructor_namespace _ _⟩, ?_⟩
    simp [structClass, firstMisfit?_of_declares first]
  | enumType s =>
    cases Except.ok.inj built
    exact ⟨⟨_, rfl⟩, patches_misfit s c⟩

theorem compileEntry_makes {d : Document} {s : Settings} {e : Entry} {check : Check}
    (made : Makes check (e.build (context d s))) : Makes check (compileEntry d s e) := by
  intro fault
  rw [← made fault, compileEntry]
  cases built : e.build (context d s) with
  | error other => simp [bind, Except.bind]
  | ok t =>
    obtain ⟨⟨space, named⟩, sound⟩ := build_writable built
    obtain ⟨source, written⟩ := (unitSource_of_namespace s.indent s.usings named).1 sound
    constructor
    · intro failed
      cases written.symm.trans failed
    · intro h
      contradiction

theorem build_makes {d : Document} (valid : d.validate = .ok d) (s : Settings) (e : Entry) :
    Makes (FirstOf (e.checks (context d s))) (e.build (context d s)) := by
  cases e with
  | request r => exact buildRequest_makes (colon_not_mem_taken valid .requests) r
  | notification n => exact buildNotification_makes (colon_not_mem_taken valid .notifications) n
  | structType t => exact buildStruct_makes t
  | enumType t => exact makes_nothing _

/-! What an entry must be like to compile -/

def Visible (method : String) : Prop := ∀ segment ∈ segments method, allBlank segment.toList = false

instance (method : String) : Decidable (Visible method) :=
  inferInstanceAs (Decidable (∀ segment ∈ segments method, allBlank segment.toList = false))

theorem blankSegment_passes_iff (method : String) :
    (∀ fault, ¬ BlankSegment method fault) ↔ Visible method := by
  constructor
  · intro passes segment found
    rw [Bool.eq_false_iff]
    exact fun blank => passes _ ⟨⟨segment, found, blank⟩, rfl⟩
  · rintro visible fault ⟨⟨segment, found, blank⟩, _⟩
    rw [visible segment found] at blank
    contradiction

theorem unsupportedField_passes_iff (scope : Scope) (fs : List Field) :
    (∀ fault, ¬ UnsupportedField scope fs fault) ↔ ∀ f ∈ fs, Supported f.type := by
  constructor
  · intro passes f known
    -- Of the fields that cannot be written, take the first.
    induction fs with
    | nil => contradiction
    | cons g rest ih =>
      by_cases good : Supported g.type
      · rcases List.mem_cons.mp known with rfl | later
        · exact good
        · refine ih (fun fault refused => ?_) later
          obtain ⟨h, ⟨before, after, rfl, early, bad⟩, rfl⟩ := refused
          exact passes _ ⟨h, ⟨g :: before, after, rfl, by simpa [good] using early, bad⟩, rfl⟩
      · exact absurd ⟨g, ⟨[], rest, rfl, by simp, good⟩, rfl⟩ (passes _)
  · rintro good fault ⟨f, first, _⟩
    exact first.not_all good

theorem repeatedMember_passes_iff (container : String) (names : List String) :
    (∀ fault, ¬ RepeatedMember container names fault) ↔ names.Nodup := by
  constructor
  · intro passes
    cases found : firstRepeated [] names with
    | none => exact nodup_of_firstRepeated List.nodup_nil found
    | some name =>
      have first : FirstRepetition names name := repetition_of_firstRepeated List.nodup_nil found
      exact absurd ⟨name, first, rfl⟩ (passes _)
  · rintro distinct fault ⟨name, first, _⟩
    exact first.not_nodup distinct

/-- What an entry must be like to compile, whatever else is in its document. -/
def Entry.Compilable : Entry → Prop
  | .request r =>
    Visible r.method ∧ (∀ f ∈ r.params, Supported f.type) ∧ (∀ f ∈ r.result, Supported f.type) ∧
      ("SendAsync" :: r.params.map (propertyName ·.name "Request")).Nodup ∧
      (r.result.map (propertyName ·.name "Response")).Nodup
  | .notification n =>
    Visible n.method ∧ (∀ f ∈ n.params, Supported f.type) ∧
      ("Id" :: n.params.map (propertyName ·.name (leafName n.method))).Nodup
  | .structType t =>
    (∀ f ∈ t.fields, Supported f.type) ∧ (t.fields.map (propertyName ·.name t.name)).Nodup
  | .enumType _ => True

instance : (e : Entry) → Decidable e.Compilable
  | .request _ => inferInstanceAs (Decidable (_ ∧ _ ∧ _ ∧ _ ∧ _))
  | .notification _ => inferInstanceAs (Decidable (_ ∧ _ ∧ _))
  | .structType _ => inferInstanceAs (Decidable (_ ∧ _))
  | .enumType _ => inferInstanceAs (Decidable True)

theorem checks_pass_iff (c : Context) (e : Entry) :
    (∀ check ∈ e.checks c, ∀ fault, ¬ check fault) ↔ e.Compilable := by
  cases e <;>
    simp only [Entry.checks, Entry.Compilable, List.forall_mem_cons, List.not_mem_nil,
      blankSegment_passes_iff, unsupportedField_passes_iff, repeatedMember_passes_iff,
      false_imp_iff, implies_true, and_true]

/-- A tree of a document's category. -/
structure Builds (d : Document) (s : Settings) (c : Category) (e : Entry) (t : TypeNode) : Prop where
  listed : e ∈ entries d
  category : e.id.category = c
  built : e.build (context d s) = .ok t

theorem unitId_eq {a b : UnitId} (category : a.category = b.category) (name : a.name = b.name) :
    a = b := by
  cases a
  cases b
  cases category
  cases name
  rfl

/- All that the tree of a method can be. -/
theorem Builds.method_cases {d : Document} {s : Settings} {c : Category} {e : Entry} {t : TypeNode}
    (method : c = .requests ∨ c = .notifications) (builds : Builds d s c e t) :
    (∃ r leaf outer params result, e = .request r ∧ c = .requests ∧
      segments r.method = outer ++ [leaf] ∧
      List.Forall₂ (Declares (scopeOf d .requests)) r.params params ∧
      List.Forall₂ (Declares (scopeOf d .requests)) r.result result ∧
      t = nest (context d s) .requests true outer (requestLeaf r leaf params result)) ∨
    (∃ n leaf outer params, e = .notification n ∧ c = .notifications ∧
      segments n.method = outer ++ [leaf] ∧
      List.Forall₂ (Declares (scopeOf d .notifications)) n.params params ∧
      t = nest (context d s) .notifications false outer
        ((notificationClass n leaf params).withJsonConstructor false)) := by
  obtain ⟨_, rfl, built⟩ := builds
  cases e with
  | request r =>
    obtain ⟨leaf, outer, params, result, parts, first, second, _, _, rfl⟩ := buildRequest_eq_ok built
    exact .inl ⟨r, leaf, outer, params, result, rfl, rfl, parts, first, second, rfl⟩
  | notification n =>
    obtain ⟨leaf, outer, params, parts, first, _, rfl⟩ := buildNotification_eq_ok built
    exact .inr ⟨n, leaf, outer, params, rfl, rfl, parts, first, rfl⟩
  | structType t => simp [Entry.id] at method
  | enumType t => simp [Entry.id] at method

theorem exists_builds {d : Document} (valid : d.validate = .ok d) (s : Settings) (e : Entry)
    (listed : e ∈ entries d) (good : e.Compilable) : ∃ t, Builds d s e.id.category e t := by
  have made := build_makes valid s e
  obtain ⟨t, built⟩ := made.exists_ok_iff.mpr ((checks_pass_iff _ e).mpr good)
  exact ⟨t, listed, rfl, built⟩

section AllBuild

variable {d : Document} (valid : d.validate = .ok d) (good : ∀ e ∈ entries d, e.Compilable)
  (s : Settings)

include valid good

theorem exists_buildRequest {r : Request} (listed : r ∈ d.requests) :
    ∃ t, buildRequest (context d s) r = .ok t := by
  have known : .request r ∈ entries d := by simp [entries, listed]
  obtain ⟨t, builds⟩ := exists_builds valid s _ known (good _ known)
  exact ⟨t, builds.built⟩

theorem exists_buildNotification {n : Notification} (listed : n ∈ d.notifications) :
    ∃ t, buildNotification (context d s) n = .ok t := by
  have known : .notification n ∈ entries d := by simp [entries, listed]
  obtain ⟨t, builds⟩ := exists_builds valid s _ known (good _ known)
  exact ⟨t, builds.built⟩

theorem exists_buildStruct {x : StructType} (listed : x ∈ d.structTypes) :
    ∃ t, buildStruct (context d s) x = .ok t := by
  have known : .structType x ∈ entries d := by simp [entries, listed]
  obtain ⟨t, builds⟩ := exists_builds valid s _ known (good _ known)
  exact ⟨t, builds.built⟩

end AllBuild

/-- An entry compiles or not for reasons of its own, and the first of these is reported. -/
theorem compileEntry_outcome (d : Document) (valid : d.validate = .ok d) (s : Settings) (e : Entry) :
    ((∃ source, compileEntry d s e = .ok source) ↔ e.Compilable) ∧
      ∀ fault, compileEntry d s e = .error fault ↔ FirstOf (e.checks (context d s)) fault := by
  have made := compileEntry_makes (build_makes valid s e)
  refine ⟨?_, made⟩
  rw [made.exists_ok_iff, checks_pass_iff]

/-- A method named after a generic type, and one that takes a value of that type. -/
def genericDocument : Document where
  requests := [
    { method := "List<Game>.Count", result := [{ name := "count", type := "number" }] },
    { method := "Game.Find", params := [{ name := "games", type := "List<Game>" }] }]

theorem genericDocument_outcome :
    genericDocument.validate = .ok genericDocument ∧
    (∃ source, compileEntry genericDocument {} (.request
      { method := "List<Game>.Count", result := [{ name := "count", type := "number" }] }) =
        .ok source) ∧
    compileEntry genericDocument {} (.request
      { method := "Game.Find", params := [{ name := "games", type := "List<Game>" }] }) =
        .error (.unsupportedType "Structs.List<Game>") := by
  have valid : genericDocument.validate = .ok genericDocument := by decide +kernel
  have number : Supported "number" := .inr (plain_of_any (by decide))
  have generic : ¬ Supported "List<Game>" := by
    rintro (⟨key, value, map⟩ | plain)
    · exact not_mapLiteral_cons (by decide) (by decide) map
    · exact absurd (plain '<' (by decide)) (by decide)
  have visible : Visible "Game.Find" ∧ Visible "List<Game>.Count" := by
    unfold Visible
    decide +kernel
  refine ⟨valid, (compileEntry_outcome _ valid {} _).1.mpr ?_,
    ((compileEntry_outcome _ valid {} _).2 _).mpr ?_⟩
  · exact ⟨visible.2, by simp, by simpa using number, by decide +kernel, by decide +kernel⟩
  · have first : FirstUnsupported [{ name := "games", type := "List<Game>" }]
        { name := "games", type := "List<Game>" } := ⟨[], [], rfl, by simp, generic⟩
    refine .later ((blankSegment_passes_iff _).mpr visible.1) (.here ⟨_, first, ?_⟩)
    decide +kernel

end RpcSharp.Binding
