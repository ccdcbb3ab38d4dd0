import Microbus.Output.Panel
import Microbus.Proofs.Calls
import Microbus.Proofs.Instruction.Meaning

/-! # Instructions are carried out as they are meant

From an instruction boundary the machine carries out the instruction at the program counter: it
ends in what `Visible.perform` says, at the next boundary unless it halted, or it fails because the
bounds of the stack forbid the instruction, and then the program counter has moved and nothing else
that a programmer sees.
-/

namespace Microbus
set_option autoImplicit false

variable {δ : Type}

namespace Visible

def Overflows (s : Visible δ) (config : MachineConfig) : Prop :=
  ∃ op, s.opcode? = some op ∧ s.Forbids config op

end Visible

variable [OutputDevice δ]

namespace Core

variable {s : Core δ} {config : MachineConfig}

theorem program_eq (s : Core δ) : s.program = closeProgram (match s.visible.opcode? with
    | some op => if op.applies (.ofByte s.visible.fr) then op.words.map .ofList else []
    | none => []) := rfl

theorem run_program_of_overflows (h : s.visible.Overflows config) :
    (s.fetched.run config s.program).1.visible = s.visible.advance ∧
      (s.fetched.run config s.program).2 =
        some (.stackOverflow s.visible.sp s.visible.stackTop) := by
  obtain ⟨op, hOp, hForbids⟩ := h
  have hApplies : op.applies (.ofByte s.visible.fr) = true := by
    cases op <;> first | rfl | exact hForbids.elim
  have hFetched : s.fetched.visible.Forbids config op := hForbids
  obtain ⟨hVisible, hFault⟩ := run_of_forbids hFetched
  simp only [program_eq, hOp, hApplies, if_true]
  exact ⟨hVisible.trans (visible_fetched s), hFault⟩

theorem run_program_of_not_overflows (h : ¬ s.visible.Overflows config) :
    (s.fetched.run config s.program).1.visible = s.visible.perform ∧
      (s.fetched.run config s.program).2 = none := by
  have hNothing := run_nothing s.fetched config
  rw [visible_fetched] at hNothing
  rw [program_eq]
  cases hOp : s.visible.opcode? with
  | none =>
      simp only [Visible.perform, hOp]
      exact hNothing
  | some op =>
      have hAllowed : ¬ s.fetched.visible.Forbids config op := fun hForbids => h ⟨op, hOp, hForbids⟩
      simp only [Visible.perform, hOp]
      cases hApplies : op.applies (.ofByte s.visible.fr) with
      | true =>
          have hRun := run_of_not_forbids hAllowed hApplies
          rw [visible_fetched] at hRun
          exact hRun
      | false =>
          cases op with
          | jump condition =>
              have hHolds : ¬ condition.holds (.ofByte s.visible.fr) = true := by
                simpa [Opcode.applies] using hApplies
              have hEffect : s.visible.advance.effect (.jump condition) s.visible.operand =
                  s.visible.advance := if_neg hHolds
              rw [hEffect]
              exact hNothing
          | _ => cases hApplies

end Core

namespace Machine

def visible (m : Machine δ) : Visible δ := m.core.visible

/-- The machine is at rest in front of an instruction. -/
structure AtBoundary (m : Machine δ) : Prop extends m.AtRest where
  counter : m.counter = .first

theorem atBoundary_loaded (config : MachineConfig) (device : δ) (bytes : List UInt8) :
    (loaded config device bytes).AtBoundary :=
  ⟨(atRest_powerOn config device).setMemory _, rfl⟩

variable {m : Machine δ}

theorem stepInstruction_of_halted (h : m.halted = true) : m.stepInstruction.machine = m := by
  rw [stepInstruction, cyclesToBoundary_of_halted h]

/-- An instruction that the bounds of the stack forbid fails and changes nothing visible but the
program counter. -/
theorem stepInstruction_of_overflows (hm : m.AtBoundary) (hRun : m.halted = false)
    (h : m.visible.Overflows m.config) :
    m.stepInstruction.result = .error (.stackOverflow m.visible.sp m.visible.stackTop) ∧
      m.stepInstruction.machine.visible = m.visible.advance := by
  have hEnds := ends_stepInstruction hm.toAtRest hRun hm.counter
  obtain ⟨hVisible, hFault⟩ := Core.run_program_of_overflows h
  refine ⟨?_, ?_⟩
  · rw [hEnds.result, hFault]
    rfl
  · rw [visible, hEnds.core, hVisible]
    rfl

theorem stepInstruction_of_not_overflows (hm : m.AtBoundary) (hRun : m.halted = false)
    (h : ¬ m.visible.Overflows m.config) :
    m.stepInstruction.result = .ok (4 + m.core.program.length) ∧
      m.stepInstruction.machine.visible = m.visible.perform ∧
      m.stepInstruction.machine.config = m.config ∧
      (m.stepInstruction.machine.halted = false → m.stepInstruction.machine.AtBoundary) := by
  have hEnds := ends_stepInstruction hm.toAtRest hRun hm.counter
  obtain ⟨hVisible, hFault⟩ := Core.run_program_of_not_overflows h
  refine ⟨?_, ?_, hEnds.config, fun hNext => ⟨hEnds.atRest hNext, hEnds.counter hNext hFault⟩⟩
  · rw [hEnds.result, hFault]
  · rw [visible, hEnds.core, hVisible]
    rfl

theorem AtBoundary.result_eq_error_iff (hm : m.AtBoundary) (hRun : m.halted = false) :
    m.stepInstruction.result = .error (.stackOverflow (m.register .sp) m.stackTop) ↔
      m.visible.Overflows m.config := by
  constructor
  · intro hFails
    by_contra h
    rw [(stepInstruction_of_not_overflows hm hRun h).1] at hFails
    cases hFails
  · exact fun h => (stepInstruction_of_overflows hm hRun h).1

theorem AtBoundary.not_overflows {cycles : Nat} (hm : m.AtBoundary) (hRun : m.halted = false)
    (hOk : m.stepInstruction.result = .ok cycles) : ¬ m.visible.Overflows m.config := by
  intro h
  rw [(hm.result_eq_error_iff hRun).mpr h] at hOk
  cases hOk

/-- Whatever the configuration, the memory, the registers and the device are: an instruction that
succeeds changes what a programmer sees just as the instruction at the program counter is meant to,
and leaves the machine at the next boundary unless it halted. -/
theorem visible_stepInstruction {cycles : Nat} (hm : m.AtBoundary) (hRun : m.halted = false)
    (hOk : m.stepInstruction.result = .ok cycles) :
    m.stepInstruction.machine.visible = m.visible.perform ∧
      (m.stepInstruction.machine.halted = false → m.stepInstruction.machine.AtBoundary) := by
  have hAllowed := hm.not_overflows hRun hOk
  obtain ⟨-, hVisible, -, hNext⟩ := stepInstruction_of_not_overflows hm hRun hAllowed
  exact ⟨hVisible, hNext⟩

theorem visible_stepInstruction_add :
    (loaded {} Panel.blank [0x32, 0]).stepInstruction.machine.visible =
      (loaded {} Panel.blank [0x32, 0]).visible.perform ∧
    (loaded {} Panel.blank [0x32, 0]).visible.perform.a = 0x32 := by
  have hBoundary := atBoundary_loaded {} Panel.blank [0x32, 0]
  have hOk : (loaded {} Panel.blank [0x32, 0]).stepInstruction.result = .ok 7 := rfl
  exact ⟨(visible_stepInstruction hBoundary rfl hOk).1, rfl⟩

end Machine

end Microbus
