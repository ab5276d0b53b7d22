import RpcSharp.Proofs.Code.Remarks

/-! Programs that write line by line and block by block, and may fail anywhere. Whether a body fails or
not, its block is closed at the depth where it was opened, and only the body's result tells. -/

namespace RpcSharp.Code

/-- What a program that writes may do. A block hands on what its body fails with, unless the program
handles it and goes on. -/
inductive Instruction
  | line (text : String)
  | blank
  | doc (text : String)
  | imports (name : String)
  | block (header : String) (body : List Instruction) (handled : Bool)
  | fail (fault : UnitFault)
deriving Repr

/-- The writers that a run comes by, in their order, and what it fails with. -/
structure Course where
  seen : List Writer
  fault : Option UnitFault
deriving DecidableEq, Repr

mutual

def Instruction.run (w : Writer) : Instruction → Writer × Course
  | .line text => (w.line text, ⟨[], none⟩)
  | .blank => (w.line "", ⟨[], none⟩)
  | .doc text => (w.lines (docLines text), ⟨[], none⟩)
  | .imports name => (w.line (usingLine name), ⟨[], none⟩)
  | .block header body handled =>
    let (w, inner) := w.block header fun w => runAll w body
    (w, ⟨inner.seen, if handled then none else inner.fault⟩)
  | .fail fault => (w, ⟨[], some fault⟩)

/-- Follows instructions up to the first that fails. The writer is seen before each of them and at the
end. -/
def runAll (w : Writer) : List Instruction → Writer × Course
  | [] => (w, ⟨[w], none⟩)
  | first :: rest =>
    let (next, course) := first.run w
    match course.fault with
    | none =>
      let (last, more) := runAll next rest
      (last, ⟨w :: course.seen ++ more.seen, more.fault⟩)
    | some fault => (next, ⟨w :: course.seen ++ [next], some fault⟩)

end

section Cons

variable {w : Writer} {first : Instruction}

theorem runAll_cons_of_sound (sound : (first.run w).2.fault = none) (rest : List Instruction) :
    runAll w (first :: rest) = ((runAll (first.run w).1 rest).1,
      ⟨w :: (first.run w).2.seen ++ (runAll (first.run w).1 rest).2.seen,
        (runAll (first.run w).1 rest).2.fault⟩) := by
  simp only [runAll, sound]

theorem runAll_cons_of_fault {fault : UnitFault} (failed : (first.run w).2.fault = some fault)
    (rest : List Instruction) : runAll w (first :: rest) =
      ((first.run w).1, ⟨w :: (first.run w).2.seen ++ [(first.run w).1], some fault⟩) := by
  simp only [runAll, failed]

end Cons

/-! What a run keeps -/

/-- The buffer of the second writer goes on where that of the first ends. -/
def Extends (s t : Writer) : Prop := ∃ text, t.buffer = s.buffer ++ text

theorem Extends.refl (w : Writer) : Extends w w := ⟨"", by simp⟩

theorem Extends.trans {s t u : Writer} (first : Extends s t) (second : Extends t u) : Extends s u := by
  obtain ⟨text, same⟩ := first
  obtain ⟨more, same'⟩ := second
  exact ⟨text ++ more, by rw [same', same, String.append_assoc]⟩

theorem extends_append (w : Writer) (lines : List Line) : Extends w (w.append lines) := ⟨_, rfl⟩

/-- A run that has added lines at its depth or deeper, and on its way has only been there and only added. -/
structure Steady (w : Writer) (r : Writer × Course) : Prop where
  lines : ∃ lines, r.1 = w.append lines ∧ ∀ l ∈ lines, w.depth ≤ l.depth
  between : ∀ s ∈ r.2.seen, w.depth ≤ s.depth ∧ Extends w s ∧ Extends s r.1
  growing : r.2.seen.Pairwise Extends

namespace Steady

theorem append (w : Writer) {lines : List Line} (inside : ∀ l ∈ lines, w.depth ≤ l.depth)
    (fault : Option UnitFault) : Steady w (w.append lines, ⟨[], fault⟩) :=
  ⟨⟨lines, rfl, inside⟩, by simp, .nil⟩

theorem still (w : Writer) (fault : Option UnitFault) : Steady w (w, ⟨[], fault⟩) := by
  have nothing := append w (List.forall_mem_nil fun l : Line => w.depth ≤ l.depth) fault
  simpa [Writer.append] using nothing

theorem depth_eq {w : Writer} {r : Writer × Course} (steady : Steady w r) : r.1.depth = w.depth := by
  obtain ⟨lines, same, _⟩ := steady.lines
  rw [same]
  rfl

theorem grows {w : Writer} {r : Writer × Course} (steady : Steady w r) : Extends w r.1 := by
  obtain ⟨lines, same, _⟩ := steady.lines
  rw [same]
  exact extends_append w lines

/- The writer in front of both runs is seen as well. -/
theorem trans {w next last : Writer} {course more : Course} (first : Steady w (next, course))
    (second : Steady next (last, more)) (fault : Option UnitFault) :
    Steady w (last, ⟨w :: course.seen ++ more.seen, fault⟩) := by
  have depth : next.depth = w.depth := first.depth_eq
  have before : ∀ s ∈ course.seen, Extends s next := fun s known => (first.between s known).2.2
  have after : ∀ s ∈ more.seen, Extends next s := fun s known => (second.between s known).2.1
  refine ⟨?_, ?_, ?_⟩
  · obtain ⟨lines, same, inside⟩ := first.lines
    obtain ⟨lines', same', inside'⟩ := second.lines
    refine ⟨lines ++ lines', ?_, List.forall_mem_append.mpr ⟨inside, fun l known => ?_⟩⟩
    · rw [← Writer.append_append, ← same, same']
    · rw [← depth]
      exact inside' l known
  · intro s known
    rw [List.cons_append, List.mem_cons, List.mem_append] at known
    rcases known with rfl | here | later
    · exact ⟨Nat.le_refl _, .refl _, first.grows.trans second.grows⟩
    · obtain ⟨deep, grown, _⟩ := first.between s here
      exact ⟨deep, grown, (before s here).trans second.grows⟩
    · obtain ⟨deep, _, grown⟩ := second.between s later
      exact ⟨depth ▸ deep, first.grows.trans (after s later), grown⟩
  · rw [List.cons_append, List.pairwise_cons, List.pairwise_append]
    refine ⟨fun s known => ?_, first.growing, second.growing, fun s here t later => ?_⟩
    · rcases List.mem_append.mp known with here | later
      · exact (first.between s here).2.1
      · exact first.grows.trans (after s later)
    · exact (before s here).trans (after t later)

theorem block {w : Writer} {header : String} (body : Writer → Writer × Course)
    (inner : Steady (w.opened header) (body (w.opened header))) (fault : Option UnitFault) :
    Steady w ((w.block header body).1, ⟨(w.block header body).2.seen, fault⟩) := by
  obtain ⟨lines, written, inside⟩ := inner.lines
  have deeper : w.depth ≤ (w.opened header).depth := Nat.le_succ _
  have opened : Extends w (w.opened header) := ⟨_, rfl⟩
  have closed : Extends (body (w.opened header)).1 (w.append (blockLines w.depth header lines)) := by
    refine ⟨render w.indent [⟨w.depth, "\x7d"⟩], ?_⟩
    rw [written]
    simp [Writer.append, Writer.opened, blockLines, render, String.append_assoc]
  rw [Writer.block_eq body written]
  refine ⟨⟨_, rfl, ?_⟩, ?_, inner.growing⟩
  · intro l known
    simp only [blockLines, List.mem_append, List.mem_cons, List.not_mem_nil, or_false] at known
    rcases known with (rfl | rfl | body) | rfl
    · exact Nat.le_refl _
    · exact Nat.le_refl _
    · exact Nat.le_trans deeper (inside l body)
    · exact Nat.le_refl _
  · intro s known
    obtain ⟨deep, before, after⟩ := inner.between s known
    exact ⟨Nat.le_trans deeper deep, opened.trans before, after.trans closed⟩

end Steady

mutual

theorem Instruction.run_steady (w : Writer) (step : Instruction) : Steady w (step.run w) := by
  have line (text : String) : Steady w (w.line text, ⟨[], none⟩) := by
    rw [w.line_eq]
    exact .append w (by simp) none
  cases step with
  | line text => exact line text
  | blank => exact line ""
  | doc text =>
    rw [Instruction.run, w.lines_eq]
    exact .append w (by simp) none
  | imports name => exact line (usingLine name)
  | block header body handled =>
    have inner := runAll_steady (w.opened header) body
    exact .block (runAll · body) inner _
  | fail fault => exact .still w (some fault)

theorem runAll_steady (w : Writer) (steps : List Instruction) : Steady w (runAll w steps) := by
  have stays (w : Writer) (fault : Option UnitFault) : Steady w (w, ⟨[w], fault⟩) :=
    (Steady.still w none).trans (.still w none) fault
  cases steps with
  | nil => exact stays w none
  | cons first rest =>
    have head := Instruction.run_steady w first
    cases result : (first.run w).2.fault with
    | none =>
      rw [runAll_cons_of_sound result]
      exact head.trans (runAll_steady (first.run w).1 rest) _
    | some fault =>
      rw [runAll_cons_of_fault result]
      exact head.trans (stays (first.run w).1 none) _

end

/-! Failures -/

theorem runAll_of_sound {w : Writer} {steps : List Instruction}
    (sound : (runAll w steps).2.fault = none) :
    (runAll w steps).1 = steps.foldl (fun w step => (step.run w).1) w := by
  induction steps generalizing w with
  | nil => rfl
  | cons first rest ih =>
    cases result : (first.run w).2.fault with
    | none =>
      rw [runAll_cons_of_sound result] at sound ⊢
      exact ih sound
    | some fault =>
      rw [runAll_cons_of_fault result] at sound
      contradiction

/- The first instruction that fails is the last that is followed. -/
theorem runAll_of_fault {w : Writer} {steps : List Instruction} {fault : UnitFault}
    (failed : (runAll w steps).2.fault = some fault) :
    ∃ before step rest, steps = before ++ step :: rest ∧ (runAll w before).2.fault = none ∧
      (step.run (runAll w before).1).2.fault = some fault ∧
      (runAll w steps).1 = (step.run (runAll w before).1).1 := by
  induction steps generalizing w with
  | nil => contradiction
  | cons first rest ih =>
    cases result : (first.run w).2.fault with
    | none =>
      rw [runAll_cons_of_sound result] at failed ⊢
      obtain ⟨before, step, after, rfl, sound, broken, last⟩ := ih failed
      refine ⟨first :: before, step, after, rfl, ?_⟩
      rw [runAll_cons_of_sound result]
      exact ⟨sound, broken, last⟩
    | some found =>
      rw [runAll_cons_of_fault result] at failed ⊢
      exact ⟨[], first, rest, rfl, rfl, result.trans failed, rfl⟩

/-- Whatever a program does and wherever it fails, it never goes below the depth it starts at and ends
there, and it only adds to the buffer. As the body of a block it stands between one pair of braces at
the depth around it, and its result is that of the block. Without a fault every instruction is followed,
and with one none behind the first that fails. -/
theorem blocks_balanced (w : Writer) (steps : List Instruction) :
    let r := runAll w steps
    (r.1.depth = w.depth ∧ r.1.indent = w.indent ∧ ∀ s ∈ r.2.seen, w.depth ≤ s.depth) ∧
    (w :: r.2.seen ++ [r.1]).Pairwise Extends ∧
    (∀ header, ∃ lines, (∀ l ∈ lines, w.depth < l.depth) ∧
      (runAll (w.opened header) steps).1 = (w.opened header).append lines ∧
      w.block header (runAll · steps) =
        (w.append (blockLines w.depth header lines), (runAll (w.opened header) steps).2)) ∧
    (r.2.fault = none → r.1 = steps.foldl (fun w step => (step.run w).1) w) ∧
    ∀ fault, r.2.fault = some fault → ∃ before step rest, steps = before ++ step :: rest ∧
      (runAll w before).2.fault = none ∧ (step.run (runAll w before).1).2.fault = some fault ∧
      r.1 = (step.run (runAll w before).1).1 := by
  have steady := runAll_steady w steps
  refine ⟨⟨steady.depth_eq, ?_, fun s known => (steady.between s known).1⟩, ?_, fun header => ?_,
    runAll_of_sound, fun fault => runAll_of_fault⟩
  · obtain ⟨lines, same, _⟩ := steady.lines
    rw [same]
    rfl
  · rw [List.cons_append, List.pairwise_cons, List.pairwise_append]
    refine ⟨?_, steady.growing, List.pairwise_singleton _ _, ?_⟩
    · rw [List.forall_mem_append, List.forall_mem_singleton]
      exact ⟨fun s known => (steady.between s known).2.1, steady.grows⟩
    · intro s known t last
      rw [List.mem_singleton.mp last]
      exact (steady.between s known).2.2
  · obtain ⟨lines, written, inside⟩ := (runAll_steady (w.opened header) steps).lines
    exact ⟨lines, inside, written, Writer.block_eq (runAll · steps) written⟩

/- A program whose inner block fails, and fails with it. -/
def nestedProgram : List Instruction :=
  [.line "b", .block "c" [.blank, .fail (.unsupportedType "d"), .line "e"] false, .line "f"]

theorem nestedProgram_balanced :
    let w : Writer := ⟨"\t", 1, ""⟩
    let fault := UnitFault.unsupportedType "d"
    (runAll w nestedProgram).2.fault = some fault ∧
    (∃ before step rest, nestedProgram = before ++ step :: rest ∧
      (runAll w before).2.fault = none ∧ (step.run (runAll w before).1).2.fault = some fault ∧
      (runAll w nestedProgram).1 = (step.run (runAll w before).1).1) ∧
    (w.block "a" (runAll · nestedProgram)).1 =
      ⟨"\t", 1, "\ta\n\t\x7b\n\t\tb\n\t\tc\n\t\t\x7b\n\n\t\t\x7d\n\t\x7d\n"⟩ ∧
    (w.block "a" (runAll · nestedProgram)).2.fault = some fault := by
  intro w fault
  obtain ⟨_, _, blocks, _, failures⟩ := blocks_balanced w nestedProgram
  obtain ⟨_, _, _, closed⟩ := blocks "a"
  have failed : (runAll w nestedProgram).2.fault = some fault := by decide +kernel
  have inner : (runAll (w.opened "a") nestedProgram).2.fault = some fault := by decide +kernel
  refine ⟨failed, failures fault failed, by decide +kernel, ?_⟩
  rw [closed]
  exact inner

end RpcSharp.Code
