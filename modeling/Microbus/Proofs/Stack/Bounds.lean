import Microbus.Output.Panel
import Microbus.Proofs.Instruction.Correctness
import Microbus.Proofs.Stack.Region

/-! # The bounds of the stack

What the bounds promise in every state that halves, loads and resets lead to from power-on: the
depth stays within the size, pushes and calls write into the region only, and at an instruction
boundary an instruction fails just if the stack is full or empty for it.
-/

namespace Microbus
set_option autoImplicit false

def Opcode.Raises : Opcode → Prop
  | .pop _ | .ret => True
  | _ => False

namespace Machine

variable {δ : Type} [OutputDevice δ]

def WholeCycles (_ : Machine δ) : Call → Prop
  | .cycle | .loadProgram _ _ | .loadImage _ | .reset => True
  | _ => False

/-- The depth is bounded and what the instruction at hand writes for the stack goes into the region
of the stack. Decoding never writes. -/
structure InRegion (m : Machine δ) (config : MachineConfig) : Prop where
  depth : m.stackDepth ≤ config.stackSize
  decode : m.decodeStep.machine.memory = m.memory
  execute : ∀ op w, Opcode.ofByte? (m.register .ip) = some op → op.Lowers → m.halted = false →
    m.word = some w →
      if w.has .mi then ∃ i < config.stackSize, m.executeStep.machine.memory =
        m.memory.write (m.stackTop - i) (m.contents.busValue w)
      else m.executeStep.machine.memory = m.memory

/-- The instruction at the program counter fails just if the depth does not allow it, and then
nothing is lost. -/
structure FailsByDepth (m : Machine δ) (config : MachineConfig) : Prop where
  lowers : ∀ op, m.visible.opcode? = some op → op.Lowers →
    (m.stepInstruction.result = .error (.stackOverflow (m.register .sp) m.stackTop) ↔
      m.stackDepth = config.stackSize)
  raises : ∀ op, m.visible.opcode? = some op → op.Raises →
    (m.stepInstruction.result = .error (.stackOverflow (m.register .sp) m.stackTop) ↔
      m.stackDepth = 0)
  fault : ∀ e, m.stepInstruction.result = .error e →
    e = .stackOverflow (m.register .sp) m.stackTop ∧
      (∃ op, m.visible.opcode? = some op ∧ (op.Lowers ∨ op.Raises)) ∧
      m.stepInstruction.machine.visible = m.visible.advance

variable {m : Machine δ} {config : MachineConfig}

theorem AtBoundary.failsByDepth (hm : m.AtBoundary) (hRun : m.halted = false)
    (hConfig : m.config = config) (hBounds : config.enforceBounds = true)
    (hDepth : m.stackDepth ≤ config.stackSize) : m.FailsByDepth config := by
  have hOverflows : ∀ op, m.visible.opcode? = some op →
      (m.visible.Overflows m.config ↔ m.visible.Forbids config op) := by
    intro op hOp
    rw [Visible.Overflows, hConfig, hOp]
    simp
  refine ⟨?_, ?_, ?_⟩
  · intro op hOp hLowers
    rw [hm.result_eq_error_iff hRun, hOverflows op hOp]
    have hFull : m.visible.Full config ↔ m.stackDepth = config.stackSize :=
      ⟨fun h => UInt8.le_antisymm hDepth h.2, fun h => ⟨hBounds, UInt8.le_of_eq h.symm⟩⟩
    cases op with
    | push r | call => exact hFull
    | _ => exact hLowers.elim
  · intro op hOp hRaises
    rw [hm.result_eq_error_iff hRun, hOverflows op hOp]
    have hEmpty : m.visible.Empty config ↔ m.stackDepth = 0 := by
      have hZero : m.stackTop - m.register .sp = 0 ↔ m.register .sp = m.stackTop := by grind
      exact ⟨fun h => hZero.mpr h.2, fun h => ⟨hBounds, hZero.mp h⟩⟩
    cases op with
    | pop r | ret => exact hEmpty
    | _ => exact hRaises.elim
  · intro e hFails
    by_cases h : m.visible.Overflows m.config
    · obtain ⟨hResult, hVisible⟩ := stepInstruction_of_overflows hm hRun h
      rw [hFails] at hResult
      refine ⟨Except.error.inj hResult, ?_, hVisible⟩
      obtain ⟨op, hOp, hForbids⟩ := h
      refine ⟨op, hOp, ?_⟩
      cases op with
      | push r | call => exact .inl trivial
      | pop r | ret => exact .inr trivial
      | _ => exact hForbids.elim
    · rw [(stepInstruction_of_not_overflows hm hRun h).1] at hFails
      cases hFails

theorem Sequenced.word_stepCycle (h : m.Sequenced) (hRun : m.stepCycle.machine.halted = false) :
    m.stepCycle.machine.word = none := by
  cases hFault : m.decodeStep.fault with
  | some e =>
      have hStep : m.stepCycle = m.decodeStep := by simp [stepCycle, hFault]
      rw [hStep]
      cases hHalted : m.halted with
      | true => simp [decodeStep_of_halted hHalted] at hFault
      | false =>
          rcases h.decodeStep_cases hHalted with ⟨-, hNone, -⟩ | ⟨e', -, hRefuses⟩ | ⟨-, hDecodes⟩
          · simp [hNone] at hFault
          · exact hRefuses.atRest.word
          · simp [hDecodes.fault] at hFault
  | none =>
      have hStep : m.stepCycle.machine = m.decodeStep.machine.executeStep.machine := by
        simp [stepCycle, hFault]
      rw [hStep] at hRun ⊢
      rcases h.decodeStep.executeStep_cases with ⟨hHalted | hWord, hEq⟩ | ⟨-, -, hExecutes⟩
      · rw [hEq] at hRun
        exact absurd hRun (by simp [hHalted])
      · rw [hEq]
        exact hWord
      · exact hExecutes.atRest.word

theorem Sequenced.perform_of_wholeCycles (h : m.Sequenced) {c : Call}
    (hAllowed : m.WholeCycles c) (hWord : m.halted = false → m.word = none) :
    (m.perform c).machine.Sequenced ∧
      ((m.perform c).machine.halted = false → (m.perform c).machine.word = none) := by
  have hLoad := perform_load (P := fun m => m.Sequenced ∧ (m.halted = false → m.word = none))
    ⟨h, hWord⟩ fun cells => ⟨h.setMemory cells, hWord⟩
  cases c with
  | cycle =>
      refine ⟨?_, h.word_stepCycle⟩
      change m.stepCycle.machine.Sequenced
      rcases machine_stepCycle m with hEq | hEq
      · exact hEq ▸ h.decodeStep
      · exact hEq ▸ h.decodeStep.executeStep
  | loadProgram bytes offset => exact hLoad.1 bytes offset
  | loadImage image => exact hLoad.2 image
  | reset => exact ⟨sequenced_reset m, fun _ => rfl⟩
  | _ => exact hAllowed.elim

theorem word_of_wholeCycles {device : δ} (h : Reaches WholeCycles (powerOn config device) m)
    (hRun : m.halted = false) : m.word = none := by
  have hInv : m.Sequenced ∧ (m.halted = false → m.word = none) := by
    refine h.induct (P := fun m => m.Sequenced ∧ (m.halted = false → m.word = none))
      ⟨sequenced_powerOn config device, fun _ => rfl⟩ ?_
    rintro m c ⟨hSequenced, hWord⟩ hAllowed
    exact hSequenced.perform_of_wholeCycles hAllowed hWord
  exact hInv.2 hRun

/-- With enforced bounds, whatever the stack's place and size are, whatever is loaded and in
whatever order halves and resets follow each other: the stack stays in its region, and at an
instruction boundary an instruction fails just if its depth does not allow it. Between whole cycles
every first micro-step is such a boundary. -/
theorem inRegion_of_reaches (hBounds : config.enforceBounds = true) {device : δ}
    (h : Reaches NoEdits (powerOn config device) m) :
    m.InRegion config ∧
      (m.halted = false → m.counter = .first → m.word = none → m.FailsByDepth config) ∧
      (Reaches WholeCycles (powerOn config device) m → m.halted = false → m.word = none) := by
  have hKept := stackKept_of_reaches hBounds h
  have hSequenced := hKept.sequenced
  refine ⟨⟨hKept.depth, memory_decodeStep hSequenced, ?_⟩, ?_, word_of_wholeCycles⟩
  · intro op w hOp hLowers hRun hWord
    exact hKept.memory_executeStep hOp hLowers hRun hWord
  · intro hRun hCounter hWord
    rcases hSequenced.condition with hHalted | hRest | hAwaits
    · rw [hRun] at hHalted
      cases hHalted
    · exact AtBoundary.failsByDepth ⟨hRest, hCounter⟩ hRun hKept.config hBounds hKept.depth
    · rw [hAwaits.holds.word] at hWord
      cases hWord

def beforeWrite : Machine Panel :=
  (loaded {} Panel.blank [0xb0, 0]).performAll
    [.cycle, .cycle, .cycle, .cycle, .cycle, .decode]

theorem inRegion_beforeWrite :
    (∃ i < 16, beforeWrite.executeStep.machine.memory = beforeWrite.memory.write (0xff - i) 0) ∧
      (loaded { stackSize := 0 } Panel.blank [0xb0, 0]).stepInstruction.result =
        .error (.stackOverflow 0xff 0xff) := by
  constructor
  · have hLoaded : Reaches NoEdits (powerOn {} Panel.blank) (loaded {} Panel.blank [0xb0, 0]) :=
      reaches_loaded trivial (by decide)
    have hReaches : Reaches NoEdits (powerOn {} Panel.blank) beforeWrite :=
      hLoaded.performAll (by simp [NoEdits])
    exact (inRegion_of_reaches rfl hReaches).1.execute (.push .a)
      (.ofList [.ao, .mi, .sm1, .msr]) rfl trivial rfl rfl
  · have hReaches : Reaches NoEdits (powerOn { stackSize := 0 } Panel.blank)
        (loaded { stackSize := 0 } Panel.blank [0xb0, 0]) := reaches_loaded trivial (by decide)
    have hFails := (inRegion_of_reaches rfl hReaches).2.1 rfl rfl rfl
    exact (hFails.lowers (.push .a) rfl trivial).mpr rfl

end Machine

end Microbus
