import RpcSharp.Binding.Report
import RpcSharp.Proofs.Binding.Build

/-! A report in terms of the single entries of its document, and what the source of an entry knows of the
document: for each of its types, whether the name of the type also means a generated class, and if so,
whether it is an enumeration. -/

namespace RpcSharp.Binding

open RpcSharp.Code RpcSharp.Config RpcSharp.Schema

/-! Entry by entry -/

/-- The unit of an entry that compiles. -/
def Entry.unit? (d : Document) (s : Settings) (e : Entry) : Option OutputUnit :=
  match compileEntry d s e with
  | .ok source => some ⟨e.id, source⟩
  | .error _ => none

/-- What is reported of an entry that does not compile. -/
def Entry.diagnostic? (d : Document) (s : Settings) (e : Entry) : Option Diagnostic :=
  match compileEntry d s e with
  | .ok _ => none
  | .error fault => some ⟨e.id, fault⟩

/- Outcomes are added one by one, so what was there stays in front. -/
theorem foldl_add (d : Document) (s : Settings) (es : List Entry) (r : Report) :
    (es.map fun e => (e.id, compileEntry d s e)).foldl Report.add r =
      ⟨r.units ++ es.filterMap (·.unit? d s), r.diagnostics ++ es.filterMap (·.diagnostic? d s)⟩ := by
  induction es generalizing r with
  | nil => simp
  | cons e es ih =>
    rw [List.map_cons, List.foldl_cons, ih]
    cases outcome : compileEntry d s e with
    | ok source => simp [Report.add, Entry.unit?, Entry.diagnostic?, outcome]
    | error fault => simp [Report.add, Entry.unit?, Entry.diagnostic?, outcome]

theorem compile_eq (d : Document) (s : Settings) :
    compile d s =
      ⟨(entries d).filterMap (·.unit? d s), (entries d).filterMap (·.diagnostic? d s)⟩ := by
  rw [compile, outcomes_eq, foldl_add]
  simp

/-! What an entry knows of its document -/

/-- Two documents answer alike about the name of a type. -/
structure SameAnswer (d d' : Document) (c : Category) (name : String) : Prop where
  shadowed : Shadows d c name ↔ Shadows d' c name
  enumerated : Shadows d c name → (name ∈ d.names .enums ↔ name ∈ d'.names .enums)

theorem SameAnswer.resolve {d d' : Document} {c : Category} {raw : String}
    (same : SameAnswer d d' c (elementType raw)) :
    (scopeOf d c).resolve raw = (scopeOf d' c).resolve raw := by
  by_cases taken : elementType raw ∈ (scopeOf d c).taken
  · have shadowed := (mem_taken_iff d c _).mp taken
    have taken' := (mem_taken_iff d' c _).mpr (same.shadowed.mp shadowed)
    have enumerated : elementType raw ∈ (scopeOf d c).enums ↔ elementType raw ∈ (scopeOf d' c).enums :=
      same.enumerated shadowed
    simp only [Scope.resolve, List.contains_eq_mem, taken, taken', enumerated]
  · have free : elementType raw ∉ (scopeOf d' c).taken := by
      rw [mem_taken_iff, ← same.shadowed, ← mem_taken_iff]
      exact taken
    rw [Scope.resolve_of_free taken, Scope.resolve_of_free free]

theorem fieldProperties_congr {s s' : Scope} {fs : List Field}
    (same : ∀ f ∈ fs, s.resolve f.type = s'.resolve f.type) :
    fieldProperties s fs = fieldProperties s' fs := by
  unfold fieldProperties
  induction fs with
  | nil => rfl
  | cons f fs ih =>
    have first : fieldProperty s f = fieldProperty s' f := by
      simp only [fieldProperty, Scope.fieldType, same f List.mem_cons_self]
    rw [List.mapM_cons, List.mapM_cons, first, ih fun g known => same g (List.mem_cons_of_mem f known)]

section Documents

variable {d d' : Document} (s : Settings)

theorem buildRequest_local {r : Request}
    (same : ∀ f ∈ r.params ++ r.result, SameAnswer d d' .requests (elementType f.type)) :
    buildRequest (context d s) r = buildRequest (context d' s) r := by
  have params := fieldProperties_congr fun f (known : f ∈ r.params) =>
    (same f (List.mem_append_left _ known)).resolve
  have result := fieldProperties_congr fun f (known : f ∈ r.result) =>
    (same f (List.mem_append_right _ known)).resolve
  unfold buildRequest context
  rw [ofDocument_requests, ofDocument_requests, params, result]
  rfl

theorem buildNotification_local {n : Notification}
    (same : ∀ f ∈ n.params, SameAnswer d d' .notifications (elementType f.type)) :
    buildNotification (context d s) n = buildNotification (context d' s) n := by
  have params := fieldProperties_congr fun f known => (same f known).resolve
  unfold buildNotification context
  rw [ofDocument_notifications, ofDocument_notifications, params]
  rfl

end Documents

/-- The same entries in another order within their categories. -/
structure Rearranged (d d' : Document) : Prop where
  requests : d.requests.Perm d'.requests
  notifications : d.notifications.Perm d'.notifications
  structTypes : d.structTypes.Perm d'.structTypes
  enumTypes : d.enumTypes.Perm d'.enumTypes

theorem Rearranged.names {d d' : Document} (moved : Rearranged d d') (c : Category) :
    (d.names c).Perm (d'.names c) := by
  cases c with
  | requests => exact moved.requests.map _
  | notifications => exact moved.notifications.map _
  | structs => exact moved.structTypes.map _
  | enums => exact moved.enumTypes.map _

theorem Rearranged.entries {d d' : Document} (moved : Rearranged d d') :
    (entries d).Perm (entries d') :=
  (((moved.requests.map _).append (moved.notifications.map _)).append
    (moved.structTypes.map _)).append (moved.enumTypes.map _)

theorem Rearranged.sameAnswer {d d' : Document} (moved : Rearranged d d') (c : Category)
    (name : String) : SameAnswer d d' c name := by
  have shadowed : Shadows d c name ↔ Shadows d' c name := by
    simp only [Shadows, (moved.names c).mem_iff]
  exact ⟨shadowed, fun _ => (moved.names .enums).mem_iff⟩

theorem compileEntry_of_build {d d' : Document} (s : Settings) {e : Entry}
    (same : e.build (context d s) = e.build (context d' s)) :
    compileEntry d s e = compileEntry d' s e := by
  simp only [compileEntry, same]

theorem Rearranged.compileEntry {d d' : Document} (moved : Rearranged d d') (s : Settings)
    (e : Entry) : compileEntry d s e = compileEntry d' s e := by
  apply compileEntry_of_build
  cases e with
  | request r => exact buildRequest_local s fun f _ => moved.sameAnswer .requests _
  | notification n => exact buildNotification_local s fun f _ => moved.sameAnswer .notifications _
  | structType t => rfl
  | enumType t => rfl

/-- An entry's outcome depends on its document only through the answers about its own types, and
a report on a rearranged document is a rearranged report. -/
theorem compile_local (d d' : Document) (s : Settings) :
    (∀ r : Request,
      (∀ f ∈ r.params ++ r.result, SameAnswer d d' .requests (elementType f.type)) →
        compileEntry d s (.request r) = compileEntry d' s (.request r)) ∧
    (∀ n : Notification,
      (∀ f ∈ n.params, SameAnswer d d' .notifications (elementType f.type)) →
        compileEntry d s (.notification n) = compileEntry d' s (.notification n)) ∧
    (∀ t, compileEntry d s (.structType t) = compileEntry d' s (.structType t)) ∧
    (∀ t, compileEntry d s (.enumType t) = compileEntry d' s (.enumType t)) ∧
    (Rearranged d d' →
      (compile d s).units.Perm (compile d' s).units ∧
        (compile d s).diagnostics.Perm (compile d' s).diagnostics) := by
  refine ⟨fun r same => ?_, fun n same => ?_, fun t => rfl, fun t => rfl, fun moved => ?_⟩
  · exact compileEntry_of_build s (buildRequest_local s same)
  · exact compileEntry_of_build s (buildNotification_local s same)
  · have units : (fun e : Entry => e.unit? d s) = fun e => e.unit? d' s := by
      funext e
      simp only [Entry.unit?, moved.compileEntry s e]
    have diagnostics : (fun e : Entry => e.diagnostic? d s) = fun e => e.diagnostic? d' s := by
      funext e
      simp only [Entry.diagnostic?, moved.compileEntry s e]
    rw [compile_eq, compile_eq, units, diagnostics]
    exact ⟨moved.entries.filterMap _, moved.entries.filterMap _⟩

def listDocument : Document where
  requests := [{ method := "Profile.List" }, { method := "Launch" }]
  enumTypes := [{ name := "BuildState" }]

def findDocument : Document where
  requests := [{ method := "Game.Find" }, { method := "Profile.Get" }]

def launchDocument : Document where
  requests := [{ method := "Launch" }, { method := "Profile.List" }]
  enumTypes := [{ name := "BuildState" }]

theorem compile_local_profile :
    compileEntry listDocument {} (.request {
        method := "Profile.Use", params := [{ name := "profile", type := "Profile[]" }]
        result := [{ name := "state", type := "BuildState" }] }) =
      compileEntry findDocument {} (.request {
        method := "Profile.Use", params := [{ name := "profile", type := "Profile[]" }]
        result := [{ name := "state", type := "BuildState" }] }) ∧
    (compile listDocument {}).units.Perm (compile launchDocument {}).units := by
  have profile : SameAnswer listDocument findDocument .requests (elementType "Profile[]") := by
    constructor
    · unfold Shadows; decide +kernel
    · unfold Shadows; decide +kernel
  have state : SameAnswer listDocument findDocument .requests (elementType "BuildState") := by
    constructor
    · unfold Shadows; decide +kernel
    · unfold Shadows; decide +kernel
  have moved : Rearranged listDocument launchDocument := ⟨.swap _ _ _, .nil, .nil, .refl _⟩
  refine ⟨(compile_local _ _ {}).1 _ ?_, ((compile_local _ _ {}).2.2.2.2 moved).1⟩
  simpa using ⟨profile, state⟩

end RpcSharp.Binding
