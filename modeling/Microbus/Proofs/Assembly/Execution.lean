import Mathlib.Logic.Function.Iterate
import Microbus.Output.Panel
import Microbus.Proofs.Assembly.Source
import Microbus.Proofs.Instruction.Correctness
import Microbus.Proofs.Memory.Loading

/-! # Assembled code is executed as written

The bytes of a source text lie in memory two for each instruction. As long as they do, the machine
carries out at each of these places the instruction that was written there, so that a run within
the code is a run of an interpreter of the list of instructions.
-/

namespace Microbus
set_option autoImplicit false

theorem getElem?_flatMap_toBytes {is : List Instruction} {k : Nat} {i : Instruction}
    (h : is[k]? = some i) :
    (is.flatMap Instruction.toBytes)[2 * k]? = some i.op.toByte ∧
      (is.flatMap Instruction.toBytes)[2 * k + 1]? =
        some (if i.op.hasOperand then i.operand else 0) := by
  induction is generalizing k with
  | nil => cases h
  | cons first is ih =>
      cases k with
      | zero =>
          cases h
          exact ⟨rfl, rfl⟩
      | succ k => exact ih h

namespace Visible

variable {δ : Type} [OutputDevice δ] {s : Visible δ} {o : UInt8} {is : List Instruction}
  {i : Instruction} {k : Nat}

def execute (s : Visible δ) (i : Instruction) : Visible δ := s.advance.effect i.op i.operand

theorem effect_of_not_hasOperand {op : Opcode} (h : op.hasOperand = false) (n n' : UInt8) :
    s.effect op n = s.effect op n' := by
  cases op with
  | halt | move | swap | display | ret | push | pop => rfl
  | alu op source =>
      cases source with
      | memory => cases h
      | b | x | memoryAtB | memoryAtX => rfl
  | unary op => cases op <;> rfl
  | loadMemory | loadImmediate | store | output | outputIndirect | jump | call | stackReset =>
      cases h

theorem effect_of_isSelfMove {op : Opcode} (h : op.IsSelfMove) (n : UInt8) : s.effect op n = s := by
  rcases h with rfl | rfl <;> rfl

theorem perform_of_holds (hCode : s.memory.Holds o (is.flatMap Instruction.toBytes))
    (hk : is[k]? = some i) (hPc : s.pc = o + UInt8.ofNat (2 * k)) : s.perform = s.execute i := by
  obtain ⟨hOpcode, hOperand⟩ := getElem?_flatMap_toBytes hk
  have hFirst : s.opcode? = Opcode.ofByte? i.op.toByte := by
    rw [opcode?, hPc, hCode _ _ hOpcode]
  have hSecond : s.operand = if i.op.hasOperand then i.operand else 0 := by
    have hNext : s.pc + 1 = o + UInt8.ofNat (2 * k + 1) := by
      rw [hPc, UInt8.ofNat_add, UInt8.add_assoc]
      rfl
    rw [operand, hNext, hCode _ _ hOperand]
  by_cases hMove : i.op.IsSelfMove
  · have hNone : Opcode.ofByte? i.op.toByte = none := by
      rcases hMove with h | h <;> rw [h] <;> rfl
    rw [perform, hFirst, hNone, execute, effect_of_isSelfMove hMove]
  · rw [perform, hFirst, Opcode.ofByte?_toByte hMove, execute]
    cases hHas : i.op.hasOperand with
    | true => simp only [hSecond, hHas, if_true]
    | false => exact effect_of_not_hasOperand hHas _ _

def written? (s : Visible δ) : Option UInt8 :=
  match s.opcode? with
  | some (.store _) => some s.operand
  | some (.push _) | some .call => some s.sp
  | _ => none

theorem read_perform {a : UInt8} (h : s.written? ≠ some a) :
    s.perform.memory.read a = s.memory.read a := by
  rw [perform]
  rw [written?] at h
  cases hOp : s.opcode? with
  | none => rfl
  | some op =>
      rw [hOp] at h
      cases op with
      | store | push | call =>
          have hApart := fun hEq => h (congrArg some hEq)
          exact (Memory.read_write _ _ _ _).trans (if_neg hApart)
      | halt | swap | display | alu | outputIndirect | ret | stackReset => rfl
      | loadMemory r | loadImmediate r | pop r => cases r <;> rfl
      | move source target => cases target <;> rfl
      | unary o => cases o <;> rfl
      | output kind => cases kind <;> rfl
      | jump condition =>
          simp only [effect]
          split <;> rfl

/-- The program counter is in front of one of the instructions from an address on, and the
instruction there writes none of their bytes. -/
structure InCode (s : Visible δ) (is : List Instruction) (o : UInt8) : Prop where
  counter : ∃ k < is.length, s.pc = o + UInt8.ofNat (2 * k)
  spares : ∀ j < 2 * is.length, s.written? ≠ some (o + UInt8.ofNat j)

/-- One step of an interpreter of a list of instructions, two addresses for each. -/
def interpret (is : List Instruction) (o : UInt8) (s : Visible δ) : Visible δ :=
  if s.halted then s
  else
    match is[(s.pc - o).toNat / 2]? with
    | some i => s.execute i
    | none => s

theorem interpret_of_pc (hRun : s.halted = false) (hFits : 2 * is.length ≤ 256)
    (hk : is[k]? = some i) (hPc : s.pc = o + UInt8.ofNat (2 * k)) :
    s.interpret is o = s.execute i := by
  have hLt : k < is.length := (List.getElem?_eq_some_iff.mp hk).1
  have hPlace : (s.pc - o).toNat / 2 = k := by
    have hOffset : s.pc - o = UInt8.ofNat (2 * k) := by
      rw [hPc]
      grind
    rw [hOffset, UInt8.toNat_ofNat', Nat.mod_eq_of_lt (by omega)]
    omega
  simp [interpret, hRun, hPlace, hk]

end Visible

namespace Machine

variable {δ : Type} [OutputDevice δ] {m m₀ : Machine δ} {is : List Instruction} {o : UInt8}

def CarriesOut (m : Machine δ) (i : Instruction) : Prop :=
  match m.stepInstruction.result with
  | .ok _ => m.stepInstruction.machine.visible = m.visible.execute i
  | .error e =>
      m.visible.Overflows m.config ∧ e = .stackOverflow m.visible.sp m.visible.stackTop

/-- Runs of instructions that succeed and stay within some code without changing it, by the number
of steps. A halted machine carries out no instruction. -/
inductive CodeRun (is : List Instruction) (o : UInt8) (m₀ : Machine δ) : Nat → Machine δ → Prop
  | start : CodeRun is o m₀ 0 m₀
  | step {n : Nat} {m : Machine δ} {cycles : Nat} : CodeRun is o m₀ n m →
      m.stepInstruction.result = .ok cycles → (m.halted = false → m.visible.InCode is o) →
      CodeRun is o m₀ (n + 1) m.stepInstruction.machine

structure KeepsCode (is : List Instruction) (o : UInt8) (m : Machine δ) : Prop where
  boundary : m.halted = false → m.AtBoundary
  code : m.memory.Holds o (is.flatMap Instruction.toBytes)

theorem KeepsCode.stepInstruction {cycles : Nat} (h : m.KeepsCode is o)
    (hFits : 2 * is.length ≤ 256) (hOk : m.stepInstruction.result = .ok cycles)
    (hInside : m.halted = false → m.visible.InCode is o) :
    m.stepInstruction.machine.KeepsCode is o ∧
      m.stepInstruction.machine.visible = m.visible.interpret is o := by
  cases hRun : m.halted with
  | true =>
      have hVisible : m.visible.halted = true := hRun
      rw [stepInstruction_of_halted hRun, Visible.interpret, if_pos hVisible]
      exact ⟨h, rfl⟩
  | false =>
      have hm := h.boundary hRun
      obtain ⟨⟨k, hk, hPc⟩, hSpares⟩ := hInside hRun
      obtain ⟨-, hVisible, -, hNext⟩ :=
        stepInstruction_of_not_overflows hm hRun (hm.not_overflows hRun hOk)
      have hInstruction : is[k]? = some is[k] := List.getElem?_eq_getElem hk
      have hPerform : m.visible.perform = m.visible.execute is[k] :=
        Visible.perform_of_holds h.code hInstruction hPc
      refine ⟨⟨hNext, ?_⟩, ?_⟩
      · intro j v hj
        have hLength := (List.getElem?_eq_some_iff.mp hj).1
        rw [Assembly.length_flatMap_toBytes] at hLength
        have hRead := Visible.read_perform (hSpares j hLength)
        rw [← hVisible] at hRead
        exact hRead.trans (h.code j v hj)
      · rw [hVisible, hPerform, Visible.interpret_of_pc hRun hFits hInstruction hPc]

theorem keepsCode_of_codeRun {n : Nat} (h : CodeRun is o m₀ n m) (hStart : m₀.KeepsCode is o)
    (hFits : 2 * is.length ≤ 256) :
    m.KeepsCode is o ∧ m.visible = (Visible.interpret is o)^[n] m₀.visible := by
  induction h with
  | start => exact ⟨hStart, rfl⟩
  | step _ hOk hInside ih =>
      obtain ⟨hKeeps, hVisible⟩ := ih
      obtain ⟨hNext, hStep⟩ := hKeeps.stepInstruction hFits hOk hInside
      refine ⟨hNext, ?_⟩
      rw [hStep, hVisible, Function.iterate_succ_apply']

theorem KeepsCode.carriesOut {k : Nat} {i : Instruction} (h : m.KeepsCode is o)
    (hRun : m.halted = false) (hk : is[k]? = some i)
    (hPc : m.visible.pc = o + UInt8.ofNat (2 * k)) : m.CarriesOut i := by
  have hm := h.boundary hRun
  unfold CarriesOut
  by_cases hOver : m.visible.Overflows m.config
  · rw [(stepInstruction_of_overflows hm hRun hOver).1]
    exact ⟨hOver, rfl⟩
  · obtain ⟨hOk, hVisible, -⟩ := stepInstruction_of_not_overflows hm hRun hOver
    rw [hOk, hVisible]
    exact Visible.perform_of_holds h.code hk hPc

theorem exists_loadProgram {bytes : List UInt8} (hm : m.AtBoundary)
    (hFits : bytes.length ≤ 256 - o.toNat) :
    ∃ loaded, m.loadProgram bytes o = .ok loaded ∧ loaded.AtBoundary ∧
      loaded.memory.Holds o bytes := by
  refine ⟨m.setMemory (m.memory.writeAll o bytes), ?_, ⟨hm.toAtRest.setMemory _, hm.counter⟩,
    Memory.holds_writeAll (by omega)⟩
  simp [loadProgram, Memory.loadAt, Memory.size, hFits, Except.map]

/-- Assembled code is executed as written. It can be loaded in front of any instruction; and where
memory holds it, the machine carries out its instructions at their places, and a run that stays
within the code without changing it agrees at each boundary with an interpreter of the list. -/
theorem executes_assembled {source : String} {bytes : List UInt8}
    (hSource : (Assembly.assemble source).result = .ok bytes)
    (hFits : bytes.length ≤ 256 - o.toNat) (hm : m.AtBoundary) :
    (∃ loaded, m.loadProgram bytes o = .ok loaded ∧ loaded.AtBoundary ∧
      loaded.memory.Holds o bytes) ∧
    (m.memory.Holds o bytes → ∀ n m',
      CodeRun (Assembly.assemble source).program.instructions o m n m' →
        m'.visible = (Visible.interpret (Assembly.assemble source).program.instructions o)^[n]
          m.visible ∧
        ∀ k i, (Assembly.assemble source).program.instructions[k]? = some i → m'.halted = false →
          m'.visible.pc = o + UInt8.ofNat (2 * k) → m'.CarriesOut i) := by
  refine ⟨exists_loadProgram hm hFits, ?_⟩
  intro hHolds n m' hCodeRun
  have hBytes := (Assembly.assembles_of_ok hSource).encoding
  rw [hBytes, Assembly.length_flatMap_toBytes] at hFits
  rw [hBytes] at hHolds
  obtain ⟨hKeeps, hVisible⟩ := keepsCode_of_codeRun hCodeRun ⟨fun _ => hm, hHolds⟩ (by omega)
  exact ⟨hVisible, fun k i hk hRun hPc => hKeeps.carriesOut hRun hk hPc⟩

theorem executes_assembled_inc :
    (loaded {} Panel.blank [0x84, 0, 0x01, 0]).stepInstruction.machine.visible =
        (Visible.interpret [⟨.unary .inc, 0⟩, ⟨.halt, 0⟩] 0)^[1]
          (loaded {} Panel.blank [0x84, 0, 0x01, 0]).visible ∧
      (loaded {} Panel.blank [0x84, 0, 0x01, 0]).stepInstruction.machine.CarriesOut ⟨.halt, 0⟩ := by
  have hSource : (Assembly.assemble "inc\nhalt").result = .ok [0x84, 0, 0x01, 0] := by
    decide +kernel
  have hCode : (Assembly.assemble "inc\nhalt").program.instructions =
      [⟨.unary .inc, 0⟩, ⟨.halt, 0⟩] := by decide +kernel
  have hBoundary := atBoundary_loaded {} Panel.blank [0x84, 0, 0x01, 0]
  have hHolds : (loaded {} Panel.blank [0x84, 0, 0x01, 0]).memory.Holds 0 [0x84, 0, 0x01, 0] :=
    Memory.holds_writeAll (by decide)
  have hOk : (loaded {} Panel.blank [0x84, 0, 0x01, 0]).stepInstruction.result = .ok 5 := rfl
  have hInside : (loaded {} Panel.blank [0x84, 0, 0x01, 0]).visible.InCode
      [⟨.unary .inc, 0⟩, ⟨.halt, 0⟩] 0 := by
    refine ⟨⟨0, by decide, rfl⟩, ?_⟩
    intro j _
    have hNone : (loaded {} Panel.blank [0x84, 0, 0x01, 0]).visible.written? = none := rfl
    rw [hNone]
    exact fun hEq => nomatch hEq
  obtain ⟨-, hRun⟩ := executes_assembled (o := 0) hSource (by decide) hBoundary
  rw [hCode] at hRun
  obtain ⟨hVisible, hNext⟩ := hRun hHolds 1 _ (.step .start hOk fun _ => hInside)
  exact ⟨hVisible, hNext 1 ⟨.halt, 0⟩ rfl rfl rfl⟩

end Machine

end Microbus
