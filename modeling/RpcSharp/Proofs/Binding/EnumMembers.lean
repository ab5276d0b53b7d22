import RpcSharp.Proofs.Binding.Outcome
import RpcSharp.Proofs.Code.Lines

/-! The members of an enumeration. All values are declared in its source, in order and each under its
identifier, also where two identifiers are the same: they differ exactly if those of the schema do and
none of them is already taken by a value that the schema does not list. -/

namespace RpcSharp.Code

/-- The lines that declare a value: what is said about it, and then its identifier. -/
inductive DeclaresValue (depth : Nat) (name : String) : List Line → Prop
  | mk (remarks : List String) (rest : String) :
      (∀ text ∈ remarks, ∃ more, text = "///" ++ more ∨ text = "[" ++ more) →
      (rest = "," ∨ ∃ value, rest = " = " ++ value ++ ",") →
      DeclaresValue depth name (remarks.map (⟨depth, ·⟩) ++ [⟨depth, name ++ rest⟩])

theorem EnumMember.lines_declare (v : EnumMember) (depth : Nat) :
    DeclaresValue depth (pascalCase v.name) (linesOf depth v.layout) := by
  have documented : ∀ text ∈ docLines v.doc, ∃ more, text = "///" ++ more ∨ text = "[" ++ more := by
    intro text known
    obtain ⟨more, spelled⟩ := docLines_remark v.doc text known
    exact ⟨more, .inl spelled⟩
  rw [EnumMember.layout, linesOf_append (firstFault?_doc v.doc), docLayout, linesOf_lines]
  split
  · have annotated : ∀ text ∈ docLines v.doc ++ ["[EnumMember(Value = " ++ v.value ++ ")]"],
        ∃ more, text = "///" ++ more ∨ text = "[" ++ more := by
      rw [List.forall_mem_append, List.forall_mem_singleton]
      refine ⟨documented, "EnumMember(Value = " ++ v.value ++ ")]", .inr ?_⟩
      simp [← String.toList_inj]
    have declares : DeclaresValue depth (pascalCase v.name) _ := .mk _ "," annotated (.inl rfl)
    simpa [linesOf, Layout.lines, Layout.fault?] using declares
  · have declares : DeclaresValue depth (pascalCase v.name) _ :=
      .mk _ (" = " ++ v.value ++ ",") documented (.inr ⟨v.value, rfl⟩)
    simpa [linesOf, Layout.lines, Layout.fault?, String.append_assoc] using declares

theorem linesOf_ofEnum {e : EnumNode} (sound : e.misfit? = none) (depth : Nat) :
    ∃ front, linesOf depth (TypeNode.ofEnum e).layout =
      front ++ ⟨depth, "public enum " ++ e.name⟩ :: ⟨depth, "\x7b"⟩ ::
        [⟨depth + 1, ""⟩].intercalate
          (e.members.map fun m => linesOf (depth + 1) (enumMemberLayout e.name m)) ++
        [⟨depth, "\x7d"⟩] := by
  have inside : firstFault? (separated (e.members.map (enumMemberLayout e.name))) = none := by
    have whole := e.layout_fault.trans sound
    simp only [EnumOf.layout, firstFault?_append, Option.or_eq_none_iff] at whole
    simpa [Layout.fault?] using whole.2
  have remarks : firstFault? (docLayout e.doc ++
      if e.isText then [.line "[JsonConverter(typeof(StringEnumConverter))]"] else []) = none := by
    split <;> simp [firstFault?, Layout.fault?]
  refine ⟨linesOf depth (docLayout e.doc ++
      if e.isText then [.line "[JsonConverter(typeof(StringEnumConverter))]"] else []), ?_⟩
  rw [TypeNode.layout, EnumOf.layout, linesOf_append remarks, linesOf_single, Layout.lines,
    linesOf_separated inside, List.map_map]
  simp [Function.comp_def]

end RpcSharp.Code

namespace RpcSharp.Binding

open RpcSharp.Code RpcSharp.Config RpcSharp.Schema

/-- The identifiers of an enumeration: those that its schema does not list, and those that it does. -/
def memberIdentifiers (t : EnumType) : List String :=
  ((patchesFor t.name).map (·.member.name) ++ t.values.map (·.name)).map pascalCase

theorem memberIdentifiers_nodup_iff (t : EnumType) :
    (memberIdentifiers t).Nodup ↔ (t.values.map (pascalCase ·.name)).Nodup ∧
      ∀ patch ∈ patches, patch.enumName = t.name →
        pascalCase patch.member.name ∉ t.values.map (pascalCase ·.name) := by
  have patched : ((patchesFor t.name).map (pascalCase ·.member.name)).Nodup := by
    have all : (patches.map (pascalCase ·.member.name)).Nodup := by decide
    exact all.sublist (List.filter_sublist.map _)
  have split : memberIdentifiers t =
      (patchesFor t.name).map (pascalCase ·.member.name) ++ t.values.map (pascalCase ·.name) := by
    simp [memberIdentifiers, Function.comp_def]
  rw [split, List.nodup_append]
  constructor
  · rintro ⟨_, listed, apart⟩
    refine ⟨listed, fun patch known same clash => ?_⟩
    have applies : patch ∈ patchesFor t.name := List.mem_filter.mpr ⟨known, by simp [same]⟩
    exact apart _ (List.mem_map_of_mem applies) _ clash rfl
  · rintro ⟨listed, apart⟩
    refine ⟨patched, listed, ?_⟩
    rintro a first b second rfl
    obtain ⟨patch, applies, rfl⟩ := List.mem_map.mp first
    obtain ⟨known, same⟩ := List.mem_filter.mp applies
    exact apart patch known (by simpa using same) second

theorem buildEnum_lines (c : Context) (t : EnumType) (depth : Nat) :
    ∃ front groups, linesOf depth (buildEnum c t).layout =
        front ++ ⟨depth, "public enum " ++ t.name⟩ :: ⟨depth, "\x7b"⟩ ::
          [⟨depth + 1, ""⟩].intercalate groups ++ [⟨depth, "\x7d"⟩] ∧
      List.Forall₂ (DeclaresValue (depth + 1)) (memberIdentifiers t) groups := by
  obtain ⟨front, lines⟩ := linesOf_ofEnum (patches_misfit t c) depth
  refine ⟨front, _, lines, ?_⟩
  have declared (values : List EnumMember) :
      List.Forall₂ (DeclaresValue (depth + 1)) (values.map (pascalCase ·.name))
        (values.map fun v => linesOf (depth + 1) v.layout) := by
    induction values with
    | nil => exact .nil
    | cons v values ih => exact .cons (v.lines_declare (depth + 1)) ih
  have both := declared
    ((patchesFor t.name).map (·.member) ++ t.values.map fun v => ⟨v.name, v.value, v.doc⟩)
  simpa [memberIdentifiers, Function.comp_def, enumMemberLayout] using both

theorem compileEntry_enumType (d : Document) (s : Settings) (t : EnumType) :
    ∃ front groups,
      compileEntry d s (.enumType t) = .ok (render s.indent
        (front ++ ⟨1, "public enum " ++ t.name⟩ :: ⟨1, "\x7b"⟩ :: [⟨2, ""⟩].intercalate groups ++
          [⟨1, "\x7d"⟩, ⟨0, "\x7d"⟩])) ∧
      List.Forall₂ (DeclaresValue 2) (memberIdentifiers t) groups := by
  have built : (buildEnum (context d s) t).namespace =
      some (Category.enums.namespace (context d s).base) := rfl
  obtain ⟨source, written⟩ :=
    (unitSource_of_namespace s.indent s.usings built).1 (patches_misfit t _)
  obtain ⟨space, _, _, text⟩ := unitSource_eq_ok written
  obtain ⟨front, groups, lines, declared⟩ := buildEnum_lines (context d s) t 1
  refine ⟨s.usings.map (fun name => ⟨0, usingLine name⟩) ++ ⟨0, ""⟩ :: ⟨0, "namespace " ++ space⟩ ::
    ⟨0, "\x7b"⟩ :: front, groups, ?_, declared⟩
  have compiled : compileEntry d s (.enumType t) = .ok source := written
  rw [compiled, text, linesOf_unitLayout, lines]
  simp

/-- An enumeration always compiles, and its source declares one value after the other. Whether their
identifiers are pairwise distinct depends on the schema alone. -/
theorem enumMembers_declared (d : Document) (s : Settings) (t : EnumType) :
    ∃ front groups,
      compileEntry d s (.enumType t) = .ok (render s.indent
        (front ++ ⟨1, "public enum " ++ t.name⟩ :: ⟨1, "\x7b"⟩ :: [⟨2, ""⟩].intercalate groups ++
          [⟨1, "\x7d"⟩, ⟨0, "\x7d"⟩])) ∧
      List.Forall₂ (DeclaresValue 2) (memberIdentifiers t) groups ∧
      ((memberIdentifiers t).Nodup ↔ (t.values.map (pascalCase ·.name)).Nodup ∧
        ∀ patch ∈ patches, patch.enumName = t.name →
          pascalCase patch.member.name ∉ t.values.map (pascalCase ·.name)) := by
  obtain ⟨front, groups, compiled, declared⟩ := compileEntry_enumType d s t
  exact ⟨front, groups, compiled, declared, memberIdentifiers_nodup_iff t⟩

/-- Two spellings of one value, and a value that is added to its enumeration anyway. -/
def progressDocument : Document where
  enumTypes := [
    { name := "Progress"
      values := [{ name := "in-progress", value := "1" }, { name := "in_progress", value := "2" }] },
    { name := "BuildState"
      values := [{ name := "started", value := "\"started\"" },
        { name := "unknown", value := "\"unknown\"" }] }]

theorem progressDocument_repeats :
    progressDocument.validate = .ok progressDocument ∧
    ∀ t ∈ progressDocument.enumTypes,
      (∃ source, compileEntry progressDocument {} (.enumType t) = .ok source) ∧
      ¬ (memberIdentifiers t).Nodup := by
  refine ⟨by decide +kernel, fun t listed => ⟨?_, ?_⟩⟩
  · obtain ⟨front, groups, compiled, _⟩ := compileEntry_enumType progressDocument {} t
    exact ⟨_, compiled⟩
  · revert t
    decide

end RpcSharp.Binding
