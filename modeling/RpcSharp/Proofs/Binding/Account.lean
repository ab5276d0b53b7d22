import Mathlib.Data.List.Nodup
import RpcSharp.Proofs.Binding.Locality
import RpcSharp.Proofs.Schema.Names

/-! Every entry of a document comes back once in its report, as a unit or as a diagnostic, and both
stand in the order of the document. -/

namespace RpcSharp.Binding

open RpcSharp.Code RpcSharp.Config RpcSharp.Schema

/-! Dealing a list out -/

/-- The members of a list go, one after the other, to the one or the other of two lists. -/
inductive Dealt {α β γ : Type} (left : α → β → Prop) (right : α → γ → Prop) :
    List α → List β → List γ → Prop
  | nil : Dealt left right [] [] []
  | left {a : α} {b : β} {as : List α} {bs : List β} {cs : List γ} :
      left a b → Dealt left right as bs cs → Dealt left right (a :: as) (b :: bs) cs
  | right {a : α} {c : γ} {as : List α} {bs : List β} {cs : List γ} :
      right a c → Dealt left right as bs cs → Dealt left right (a :: as) bs (c :: cs)

section Dealing

variable {α β γ : Type} {left : α → β → Prop} {right : α → γ → Prop} {as : List α} {bs : List β}
  {cs : List γ}

theorem Dealt.length_eq (dealt : Dealt left right as bs cs) :
    bs.length + cs.length = as.length := by
  induction dealt with
  | nil => rfl
  | left _ _ ih =>
    simp only [List.length_cons]
    omega
  | right _ _ ih =>
    simp only [List.length_cons]
    omega

theorem Dealt.map_eq {δ : Type} {f : α → δ} {g : β → δ} {h : γ → δ}
    (onLeft : ∀ a b, left a b → g b = f a) (onRight : ∀ a c, right a c → h c = f a)
    (dealt : Dealt left right as bs cs) :
    Dealt (· = ·) (· = ·) (as.map f) (bs.map g) (cs.map h) := by
  induction dealt with
  | nil => exact .nil
  | left taken _ ih => exact .left (onLeft _ _ taken).symm ih
  | right taken _ ih => exact .right (onRight _ _ taken).symm ih

theorem Dealt.sublists {as bs cs : List α} (dealt : Dealt (· = ·) (· = ·) as bs cs) :
    bs.Sublist as ∧ cs.Sublist as := by
  induction dealt with
  | nil => exact ⟨.slnil, .slnil⟩
  | left same _ ih =>
    cases same
    exact ⟨ih.1.cons_cons _, ih.2.cons _⟩
  | right same _ ih =>
    cases same
    exact ⟨ih.1.cons _, ih.2.cons_cons _⟩

end Dealing

/- Where no key is repeated, looking one up finds the only member that has it. -/
theorem find?_key_iff {α κ : Type} [DecidableEq κ] {key : α → κ} {as : List α}
    (distinct : (as.map key).Nodup) (k : κ) (a : α) :
    as.find? (key · == k) = some a ↔ a ∈ as ∧ key a = k := by
  constructor
  · intro found
    exact ⟨List.mem_of_find?_eq_some found, by simpa using List.find?_some found⟩
  · rintro ⟨known, rfl⟩
    cases found : as.find? (key · == key a) with
    | none =>
      have absent := List.find?_eq_none.mp found a known
      simp at absent
    | some other =>
      have same : key other = key a := by simpa using List.find?_some found
      have listed := List.mem_of_find?_eq_some found
      rw [List.inj_on_of_nodup_map distinct listed known same]

/-! Entries -/

/-- The ids of a document's entries, by category and then in the order of the document. -/
def unitIds (d : Document) : List UnitId :=
  Category.all.flatMap fun c => (d.names c).map (UnitId.mk c)

theorem map_id_entries (d : Document) : (entries d).map Entry.id = unitIds d := by
  simp only [entries, unitIds, Category.all, Document.names, List.map_append, List.map_map,
    List.flatMap_cons, List.flatMap_nil, List.append_nil, List.append_assoc]
  rfl

theorem length_unitIds (d : Document) : (unitIds d).length = d.size := by
  simp only [unitIds, Document.size, Document.count, Category.all, List.flatMap_cons,
    List.flatMap_nil, List.append_nil, List.length_append, List.length_map, List.map_cons,
    List.map_nil, List.foldl_cons, List.foldl_nil]
  omega

theorem unitIds_nodup {d : Document} (valid : d.validate = .ok d) : (unitIds d).Nodup := by
  have apart : ∀ c c', c ≠ c' →
      ((d.names c).map (UnitId.mk c)).Disjoint ((d.names c').map (UnitId.mk c')) := by
    intro c c' different u first second
    obtain ⟨_, _, rfl⟩ := List.mem_map.mp first
    obtain ⟨_, _, same⟩ := List.mem_map.mp second
    exact different (congrArg UnitId.category same).symm
  rw [unitIds, List.nodup_flatMap]
  constructor
  · intro c _
    apply (d.names_nodup valid c).map
    intro name name' same
    exact congrArg UnitId.name same
  · have categories : Category.all.Pairwise (· ≠ ·) := by decide
    exact categories.imp fun {c c'} different => apart c c' different

theorem eq_of_id_eq {d : Document} (valid : d.validate = .ok d) {e e' : Entry}
    (known : e ∈ entries d) (known' : e' ∈ entries d) (same : e.id = e'.id) : e = e' := by
  have distinct : ((entries d).map Entry.id).Nodup := map_id_entries d ▸ unitIds_nodup valid
  exact List.inj_on_of_nodup_map distinct known known' same

/-! Reports -/

/-- The unit is what an entry compiles to. -/
def CompilesTo (d : Document) (s : Settings) (e : Entry) (u : OutputUnit) : Prop :=
  u.id = e.id ∧ compileEntry d s e = .ok u.source

/-- The diagnostic tells why an entry does not compile. -/
def RefusedWith (d : Document) (s : Settings) (e : Entry) (x : Diagnostic) : Prop :=
  x.unit = e.id ∧ ∃ fault, compileEntry d s e = .error fault ∧ x.fault = fault ∧
    x.message = fault.message

section Reports

variable (d : Document) (s : Settings)

theorem dealt_filterMap (es : List Entry) :
    Dealt (CompilesTo d s) (RefusedWith d s) es (es.filterMap (·.unit? d s))
      (es.filterMap (·.diagnostic? d s)) := by
  induction es with
  | nil => exact .nil
  | cons e es ih =>
    cases outcome : compileEntry d s e with
    | ok source =>
      have unit : e.unit? d s = some ⟨e.id, source⟩ := by simp [Entry.unit?, outcome]
      have none : e.diagnostic? d s = none := by simp [Entry.diagnostic?, outcome]
      rw [List.filterMap_cons_some unit, List.filterMap_cons_none none]
      exact .left ⟨rfl, outcome⟩ ih
    | error fault =>
      have none : e.unit? d s = none := by simp [Entry.unit?, outcome]
      have diagnostic : e.diagnostic? d s = some ⟨e.id, fault⟩ := by
        simp [Entry.diagnostic?, outcome]
      rw [List.filterMap_cons_none none, List.filterMap_cons_some diagnostic]
      exact .right ⟨rfl, fault, outcome, rfl, rfl⟩ ih

theorem compile_dealt :
    Dealt (CompilesTo d s) (RefusedWith d s) (entries d) (compile d s).units
      (compile d s).diagnostics := by
  rw [compile_eq]
  exact dealt_filterMap d s (entries d)

theorem compile_ids_dealt :
    Dealt (· = ·) (· = ·) (unitIds d) ((compile d s).units.map (·.id))
      ((compile d s).diagnostics.map (·.unit)) := by
  rw [← map_id_entries]
  exact (compile_dealt d s).map_eq (fun _ _ made => made.1) (fun _ _ made => made.1)

theorem mem_units_iff (u : OutputUnit) :
    u ∈ (compile d s).units ↔ ∃ e ∈ entries d, CompilesTo d s e u := by
  have unit_iff : ∀ e : Entry, e.unit? d s = some u ↔ CompilesTo d s e u := by
    intro e
    obtain ⟨id, source⟩ := u
    cases outcome : compileEntry d s e with
    | ok found => simp [Entry.unit?, CompilesTo, outcome, eq_comm]
    | error fault => simp [Entry.unit?, CompilesTo, outcome]
  simp only [compile_eq, List.mem_filterMap, unit_iff]

theorem mem_diagnostics_iff (x : Diagnostic) :
    x ∈ (compile d s).diagnostics ↔
      ∃ e ∈ entries d, x.unit = e.id ∧ compileEntry d s e = .error x.fault := by
  have diagnostic_iff : ∀ e : Entry, e.diagnostic? d s = some x ↔
      x.unit = e.id ∧ compileEntry d s e = .error x.fault := by
    intro e
    obtain ⟨unit, fault⟩ := x
    cases outcome : compileEntry d s e with
    | ok source => simp [Entry.diagnostic?, outcome]
    | error found => simp [Entry.diagnostic?, outcome, eq_comm]
  simp only [compile_eq, List.mem_filterMap, diagnostic_iff]

theorem isSuccess_iff :
    (compile d s).isSuccess = true ↔ ∀ e ∈ entries d, ∃ source, compileEntry d s e = .ok source := by
  rw [Report.isSuccess, List.isEmpty_iff, List.eq_nil_iff_forall_not_mem]
  simp only [mem_diagnostics_iff]
  constructor
  · intro none e known
    cases outcome : compileEntry d s e with
    | ok source => exact ⟨source, rfl⟩
    | error fault => exact absurd ⟨e, known, rfl, outcome⟩ (none ⟨e.id, fault⟩)
  · rintro all x ⟨e, known, _, refused⟩
    obtain ⟨source, made⟩ := all e known
    rw [made] at refused
    contradiction

end Reports

section Valid

variable {d : Document} (valid : d.validate = .ok d) (s : Settings)

include valid

theorem units_ids_nodup : ((compile d s).units.map (·.id)).Nodup :=
  (compile_ids_dealt d s).sublists.1.nodup (unitIds_nodup valid)

theorem unit_mem_iff {e : Entry} (known : e ∈ entries d) (source : String) :
    ⟨e.id, source⟩ ∈ (compile d s).units ↔ compileEntry d s e = .ok source := by
  rw [mem_units_iff]
  constructor
  · rintro ⟨e', known', same, made⟩
    cases eq_of_id_eq valid known known' same
    exact made
  · exact fun made => ⟨e, known, rfl, made⟩

theorem diagnostic_mem_iff {e : Entry} (known : e ∈ entries d) (fault : UnitFault) :
    ⟨e.id, fault⟩ ∈ (compile d s).diagnostics ↔ compileEntry d s e = .error fault := by
  rw [mem_diagnostics_iff]
  constructor
  · rintro ⟨e', known', same, refused⟩
    cases eq_of_id_eq valid known known' same
    exact refused
  · exact fun refused => ⟨e, known, rfl, refused⟩

theorem id_ne_of_mem {u : OutputUnit} (made : u ∈ (compile d s).units) {x : Diagnostic}
    (refused : x ∈ (compile d s).diagnostics) : u.id ≠ x.unit := by
  obtain ⟨e, known, named, made⟩ := (mem_units_iff d s u).mp made
  obtain ⟨e', known', named', refused⟩ := (mem_diagnostics_iff d s x).mp refused
  intro same
  cases eq_of_id_eq valid known known' (named.symm.trans (same.trans named'))
  cases made.symm.trans refused

theorem compile_find?_iff (category : Category) (name : String) (u : OutputUnit) :
    (compile d s).find? category name = some u ↔
      u.id = ⟨category, name⟩ ∧ ∃ e ∈ entries d, e.id = ⟨category, name⟩ ∧
        compileEntry d s e = .ok u.source := by
  rw [Report.find?, find?_key_iff (units_ids_nodup valid s), mem_units_iff]
  constructor
  · rintro ⟨⟨e, known, same, made⟩, named⟩
    exact ⟨named, e, known, same.symm.trans named, made⟩
  · rintro ⟨named, e, known, same, made⟩
    exact ⟨⟨e, known, named.trans same.symm, made⟩, named⟩

end Valid

/-- A report deals the entries of a document out to its units and its diagnostics, by what each
compiles to on its own, and loses none. Where the names of the document are accepted, an id stands
for one entry, and a unit that is looked up is that entry's. -/
theorem compile_accounts (d : Document) (s : Settings) :
    Dealt (CompilesTo d s) (RefusedWith d s) (entries d) (compile d s).units
      (compile d s).diagnostics ∧
    Dealt (· = ·) (· = ·) (unitIds d) ((compile d s).units.map (·.id))
      ((compile d s).diagnostics.map (·.unit)) ∧
    (compile d s).units.length + (compile d s).diagnostics.length = d.size ∧
    ((compile d s).isSuccess = true ↔
      ∀ e ∈ entries d, ∃ source, compileEntry d s e = .ok source) ∧
    (d.validate = .ok d →
      (unitIds d).Nodup ∧
      (∀ e ∈ entries d,
        (∀ source, ⟨e.id, source⟩ ∈ (compile d s).units ↔ compileEntry d s e = .ok source) ∧
        (∀ fault, ⟨e.id, fault⟩ ∈ (compile d s).diagnostics ↔ compileEntry d s e = .error fault)) ∧
      ∀ category name u, (compile d s).find? category name = some u ↔
        u.id = ⟨category, name⟩ ∧ ∃ e ∈ entries d, e.id = ⟨category, name⟩ ∧
          compileEntry d s e = .ok u.source) := by
  have dealt := compile_dealt d s
  have ids := compile_ids_dealt d s
  have size : (compile d s).units.length + (compile d s).diagnostics.length = d.size := by
    rw [← length_unitIds, ← ids.length_eq, List.length_map, List.length_map]
  refine ⟨dealt, ids, size, isSuccess_iff d s, fun valid => ?_⟩
  refine ⟨unitIds_nodup valid, fun e known => ?_, compile_find?_iff valid s⟩
  exact ⟨unit_mem_iff valid s known, diagnostic_mem_iff valid s known⟩

/- One name in three categories, of which one entry does not compile. -/
def mixedDocument : Document where
  requests := [{ method := "Game", result := [{ name := "count", type := "number" }] }]
  notifications := [{ method := "Game", params := [{ name := "all", type := "List<Game>" }] }]
  structTypes := [{ name := "Game" }]

theorem mixedDocument_accounts :
    mixedDocument.validate = .ok mixedDocument ∧
    (compile mixedDocument {}).units.length + (compile mixedDocument {}).diagnostics.length = 3 ∧
    (⟨⟨.notifications, "Game"⟩, .unsupportedType "List<Game>"⟩ : Diagnostic) ∈
      (compile mixedDocument {}).diagnostics ∧
    (∃ u, (compile mixedDocument {}).find? .structs "Game" = some u) ∧
    (compile mixedDocument {}).find? .notifications "Game" = none := by
  have valid : mixedDocument.validate = .ok mixedDocument := by decide +kernel
  obtain ⟨_, _, size, _, accepted⟩ := compile_accounts mixedDocument {}
  obtain ⟨_, single, find⟩ := accepted valid
  have refused : compileEntry mixedDocument {} (.notification
      { method := "Game", params := [{ name := "all", type := "List<Game>" }] }) =
        .error (.unsupportedType "List<Game>") := by decide +kernel
  have made : (compileEntry mixedDocument {} (.structType { name := "Game" })).isOk = true := by
    decide +kernel
  refine ⟨valid, size, ((single _ (by simp [mixedDocument, entries])).2 _).mpr refused, ?_, ?_⟩
  · cases outcome : compileEntry mixedDocument {} (.structType { name := "Game" }) with
    | error fault =>
      rw [outcome] at made
      cases made
    | ok source =>
      exact ⟨⟨⟨.structs, "Game"⟩, source⟩, (find _ _ _).mpr
        ⟨rfl, .structType { name := "Game" }, by simp [mixedDocument, entries], rfl, outcome⟩⟩
  · rw [Option.eq_none_iff_forall_not_mem]
    intro u found
    obtain ⟨_, e, known, named, made⟩ := (find _ _ u).mp found
    simp only [mixedDocument, entries, List.map_cons, List.map_nil, List.nil_append,
      List.cons_append, List.append_nil, List.mem_cons, List.not_mem_nil, or_false] at known
    rcases known with rfl | rfl | rfl
    · cases named
    · cases refused.symm.trans made
    · cases named

end RpcSharp.Binding
