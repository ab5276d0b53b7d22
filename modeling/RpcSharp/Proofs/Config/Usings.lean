import Mathlib.Data.List.Nodup
import Mathlib.Data.List.Sort
import RpcSharp.Config.Settings

/-! The imports of a unit. Those that every unit has are distinct below any namespace. The further ones
of the settings come behind them, each once and where it first occurs. -/

namespace RpcSharp.Config

/-- The elements of a list, each once and in the order in which they first occur. -/
structure FirstOccurrences (parts all : List String) : Prop where
  mem_iff : ∀ name, name ∈ all ↔ name ∈ parts
  ordered : all.Pairwise fun a b => parts.idxOf a < parts.idxOf b

def addUsing (all : List String) (extra : String) : List String :=
  if all.contains extra then all else all ++ [extra]

theorem Settings.usings_eq (s : Settings) :
    s.usings = s.extraUsings.foldl addUsing
      (builtinUsings ++ [s.baseNamespace ++ ".Structs", s.baseNamespace ++ ".Enums"]) := rfl

/-! Collecting -/

namespace FirstOccurrences

variable {parts all : List String}

theorem nodup (first : FirstOccurrences parts all) : all.Nodup := by
  apply first.ordered.imp
  rintro a b before rfl
  omega

theorem of_nodup (distinct : parts.Nodup) : FirstOccurrences parts parts := by
  refine ⟨fun name => Iff.rfl, ?_⟩
  rw [List.pairwise_iff_getElem]
  intro i j within within' before
  rw [distinct.idxOf_getElem i within, distinct.idxOf_getElem j within']
  exact before

theorem unique (first : FirstOccurrences parts all) {others : List String}
    (second : FirstOccurrences parts others) : others = all := by
  have same : others.Perm all := by
    rw [List.perm_ext_iff_of_nodup second.nodup first.nodup]
    intro name
    exact (second.mem_iff name).trans (first.mem_iff name).symm
  apply same.eq_of_pairwise _ second.ordered first.ordered
  intro a b _ _ before after
  omega

theorem addUsing (first : FirstOccurrences parts all) (extra : String) :
    FirstOccurrences (parts ++ [extra]) (addUsing all extra) := by
  have kept : all.Pairwise fun a b => (parts ++ [extra]).idxOf a < (parts ++ [extra]).idxOf b := by
    refine first.ordered.imp_of_mem ?_
    intro a b known known' before
    rw [List.idxOf_append_of_mem ((first.mem_iff a).mp known),
      List.idxOf_append_of_mem ((first.mem_iff b).mp known')]
    exact before
  unfold Config.addUsing
  split
  · rename_i known
    have known : extra ∈ all := by simpa using known
    refine ⟨?_, kept⟩
    intro name
    rw [first.mem_iff, List.mem_append, List.mem_singleton]
    constructor
    · exact .inl
    · rintro (earlier | rfl)
      · exact earlier
      · exact (first.mem_iff _).mp known
  · rename_i fresh
    have fresh : extra ∉ parts := by
      rw [← first.mem_iff]
      simpa using fresh
    refine ⟨?_, ?_⟩
    · intro name
      rw [List.mem_append, List.mem_append, first.mem_iff]
    · rw [List.pairwise_append]
      refine ⟨kept, List.pairwise_singleton _ _, ?_⟩
      intro a known b last
      rw [List.mem_singleton.mp last, List.idxOf_append_of_notMem fresh]
      have earlier := (first.mem_iff a).mp known
      rw [List.idxOf_append_of_mem earlier]
      have within := List.idxOf_lt_length_of_mem earlier
      omega

theorem foldl (first : FirstOccurrences parts all) (extras : List String) :
    FirstOccurrences (parts ++ extras) (extras.foldl Config.addUsing all) := by
  induction extras generalizing parts all with
  | nil => simpa using first
  | cons extra extras ih => simpa using ih (first.addUsing extra)

/- What does not stand in front is as far behind it as in the rest of the list. -/
theorem behind {fixed extras rest : List String}
    (first : FirstOccurrences (fixed ++ extras) (fixed ++ rest)) :
    (∀ name, name ∈ rest ↔ name ∈ extras ∧ name ∉ fixed) ∧
      rest.Pairwise fun a b => extras.idxOf a < extras.idxOf b := by
  obtain ⟨_, _, apart⟩ := List.nodup_append.mp first.nodup
  obtain ⟨_, ordered, _⟩ := List.pairwise_append.mp first.ordered
  have fresh {name : String} (later : name ∈ rest) : name ∉ fixed :=
    fun earlier => apart name earlier name later rfl
  constructor
  · intro name
    have listed := first.mem_iff name
    rw [List.mem_append, List.mem_append] at listed
    constructor
    · intro later
      exact ⟨(listed.mp (.inr later)).resolve_left (fresh later), fresh later⟩
    · rintro ⟨known, new⟩
      exact (listed.mpr (.inr known)).resolve_left new
  · refine ordered.imp_of_mem ?_
    intro a b later later' before
    rw [List.idxOf_append_of_notMem (fresh later), List.idxOf_append_of_notMem (fresh later')] at before
    omega

end FirstOccurrences

theorem prefix_foldl_addUsing (all extras : List String) : all <+: extras.foldl addUsing all := by
  induction extras generalizing all with
  | nil => exact List.prefix_rfl
  | cons extra extras ih =>
    apply List.IsPrefix.trans _ (ih (addUsing all extra))
    unfold addUsing
    split
    · exact List.prefix_rfl
    · exact List.prefix_append _ _

/-! The imports -/

/-- The last two characters of a name, from behind. -/
def ending (name : String) : List Char := name.toList.reverse.take 2

/- No import that is always there ends as those of the namespace do, whatever the namespace. -/
theorem fixed_nodup (base : String) :
    (builtinUsings ++ [base ++ ".Structs", base ++ ".Enums"]).Nodup := by
  have structs : ending (base ++ ".Structs") = ['s', 't'] := by simp [ending]
  have enums : ending (base ++ ".Enums") = ['s', 'm'] := by simp [ending]
  have others : ∀ name ∈ builtinUsings, ending name ≠ ['s', 't'] ∧ ending name ≠ ['s', 'm'] := by decide
  apply List.nodup_append.mpr
  refine ⟨by decide, by simp, ?_⟩
  rintro name known other last rfl
  obtain ⟨no_structs, no_enums⟩ := others name known
  rcases List.mem_pair.mp last with rfl | rfl
  · exact no_structs structs
  · exact no_enums enums

/-- The imports are the first occurrences among those that every unit has and those of the settings.
None is repeated, the former come first, and behind them comes exactly what the settings add, in the
order in which it is first named there. -/
theorem usings_first_occurrences (s : Settings) :
    let fixed := ["System.Runtime.Serialization", "System.Collections.Generic",
      "System.Threading.Tasks", "Newtonsoft.Json", "Newtonsoft.Json.Converters", "StreamJsonRpc",
      s.baseNamespace ++ ".Structs", s.baseNamespace ++ ".Enums"]
    (∀ all, FirstOccurrences (fixed ++ s.extraUsings) all ↔ all = s.usings) ∧
    s.usings.Nodup ∧ (∀ extra ∈ s.extraUsings, extra ∈ s.usings) ∧
    ∃ rest, s.usings = fixed ++ rest ∧
      (∀ name, name ∈ rest ↔ name ∈ s.extraUsings ∧ name ∉ fixed) ∧
      rest.Pairwise fun a b => s.extraUsings.idxOf a < s.extraUsings.idxOf b := by
  intro fixed
  have start : FirstOccurrences fixed fixed := .of_nodup (fixed_nodup s.baseNamespace)
  have first := start.foldl s.extraUsings
  obtain ⟨rest, whole⟩ := prefix_foldl_addUsing fixed s.extraUsings
  have same : s.extraUsings.foldl addUsing fixed = s.usings := s.usings_eq.symm
  rw [same] at first whole
  refine ⟨?_, first.nodup, ?_, rest, whole.symm, ?_⟩
  · intro all
    constructor
    · exact first.unique
    · rintro rfl
      exact first
  · intro extra known
    exact (first.mem_iff extra).mpr (List.mem_append_right _ known)
  · rw [← whole] at first
    exact first.behind

/- An import that the settings name twice, and one that is there without them. -/
example : Settings.usings { baseNamespace := "A", extraUsings := ["B", "A.Enums", "C", "B"] } =
    ["System.Runtime.Serialization", "System.Collections.Generic", "System.Threading.Tasks",
      "Newtonsoft.Json", "Newtonsoft.Json.Converters", "StreamJsonRpc", "A.Structs", "A.Enums", "B",
      "C"] := by decide

end RpcSharp.Config
