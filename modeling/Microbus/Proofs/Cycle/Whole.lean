import Microbus.Proofs.Cycle.Halves

/-! # Whole cycles

A cycle from rest decodes the word of the current micro-step and executes it. It ends in one of
three ways: the word was carried out, it was refused by the bounds of the stack, or it halted the
machine.
-/

namespace Microbus
set_option autoImplicit false

namespace Machine

variable {δ : Type}

@[simp] theorem contents_refreshProgram (m : Machine δ) :
    m.refreshProgram.contents = m.contents := by
  unfold refreshProgram
  split <;> rfl

@[simp] theorem stackTop_refreshProgram (m : Machine δ) :
    m.refreshProgram.stackTop = m.stackTop := by
  unfold refreshProgram
  split <;> rfl

@[simp] theorem config_refreshProgram (m : Machine δ) : m.refreshProgram.config = m.config := by
  unfold refreshProgram
  split <;> rfl

@[simp] theorem counter_refreshProgram (m : Machine δ) : m.refreshProgram.counter = m.counter := by
  unfold refreshProgram
  split <;> rfl

@[simp] theorem halted_refreshProgram (m : Machine δ) : m.refreshProgram.halted = m.halted := by
  unfold refreshProgram
  split <;> rfl

@[simp] theorem core_refreshProgram (m : Machine δ) : m.refreshProgram.core = m.core := by
  simp [core]

theorem refreshProgram_of_ne {m : Machine δ} (h : m.counter ≠ .dispatch) :
    m.refreshProgram = m := if_neg h

theorem selectWord_of_drop {m : Machine δ} {w : ControlWord} {ws : List ControlWord}
    (h : (fetchCycle ++ m.program).drop m.counter.val = w :: ws) : m.selectWord = w := by
  have hGet := congrArg (fun l => l[0]?) h
  simp only [List.getElem?_drop, List.getElem?_cons_zero, Nat.add_zero] at hGet
  simp only [selectWord, hGet, Option.getD_some]

variable [OutputDevice δ]

theorem AtRest.refreshProgram {m : Machine δ} (hm : m.AtRest) : m.refreshProgram.AtRest := by
  unfold Machine.refreshProgram
  split
  · exact ⟨hm.word, hm.transfer, hm.bus, hm.mark, hm.pending⟩
  · exact hm

theorem atRest_powerOn (config : MachineConfig) (device : δ) :
    (powerOn config device).AtRest := by
  refine ⟨rfl, rfl, rfl, ?_, rfl⟩
  intro n
  cases n with
  | register r => cases r <;> rfl
  | memory | outputData => rfl

theorem atRest_reset (m : Machine δ) : m.reset.AtRest := by
  refine ⟨rfl, rfl, rfl, ?_, rfl⟩
  intro n
  cases n with
  | register r => cases r <;> rfl
  | memory | outputData => rfl

theorem mark_setMemory (m : Machine δ) (cells : Memory) (n : Node) :
    (m.setMemory cells).datapath.mark n = m.datapath.mark n := by
  cases n with
  | register r => cases r <;> rfl
  | memory | outputData => rfl

theorem AtRest.setMemory {m : Machine δ} (hm : m.AtRest) (cells : Memory) :
    (m.setMemory cells).AtRest :=
  ⟨hm.word, hm.transfer, hm.bus, fun n => (mark_setMemory m cells n).trans (hm.mark n), hm.pending⟩

/-- A cycle that neither halts nor fails, as seen from outside. -/
structure Cycles (m : Machine δ) (w : ControlWord) (t : Transition δ) : Prop where
  fault : t.fault = none
  atRest : t.machine.AtRest
  core : t.machine.core = m.core.cycle w
  counter : t.machine.counter = if w.has .msr then .first else m.counter.next
  program : t.machine.program = m.refreshProgram.program
  config : t.machine.config = m.config

variable {m : Machine δ} {w : ControlWord}

theorem decodeStep_eq (hRun : m.halted = false) :
    m.decodeStep = m.refreshProgram.issue m.refreshProgram.selectWord := by
  simp [decodeStep, hRun]

theorem cycles_stepCycle (hm : m.AtRest) (hRun : m.halted = false)
    (hWord : m.refreshProgram.selectWord = w) (hw : w.Orderly) (hHlt : w.has .hlt = false)
    (hFault : m.core.stackFault? m.config w = none) : m.Cycles w m.stepCycle := by
  have hDecode : m.refreshProgram.Decodes w m.decodeStep := by
    rw [decodeStep_eq hRun, hWord]
    refine decodes_issue (.inl hm.refreshProgram) hw.canDrive ?_ hHlt ?_
    · rw [halted_refreshProgram, hRun]
    · rw [core_refreshProgram, config_refreshProgram, hFault]
  have hControl := hDecode.control
  have hExecute := executes_executeStep hDecode.holds hw.transferable (by simp [hControl.halted, hRun])
  have hStep : m.stepCycle.machine = m.decodeStep.machine.executeStep.machine ∧
      m.stepCycle.fault = m.decodeStep.machine.executeStep.fault := by
    simp [stepCycle, hDecode.fault]
  have hContents : m.stepCycle.machine.contents = m.contents.cycle w := by
    rw [hStep.1, hExecute.contents, hDecode.contents, contents_refreshProgram, Contents.cycle]
  have hTop : m.stepCycle.machine.stackTop =
      if w.has .si then (m.contents.cycle w).register .sp else m.stackTop := by
    rw [← hContents, hStep.1, hExecute.stackTop, hControl.stackTop, stackTop_refreshProgram]
  have hHalted : m.stepCycle.machine.halted = m.halted := by
    rw [hStep.1, hExecute.halted, hControl.halted, halted_refreshProgram]
  refine ⟨?_, ?_, ?_, ?_, ?_, ?_⟩
  · rw [hStep.2, hExecute.fault]
  · rw [hStep.1]
    exact hExecute.atRest
  · rw [core, hContents, hTop, hHalted]
    rfl
  · rw [hStep.1, hExecute.counter, hControl.counter, counter_refreshProgram]
  · rw [hStep.1, hExecute.program, hControl.program]
  · rw [hStep.1, hExecute.config, hControl.config, config_refreshProgram]

theorem refuses_stepCycle {e : Fault} (hm : m.AtRest) (hRun : m.halted = false)
    (hWord : m.refreshProgram.selectWord = w) (hw : w.Orderly) (hHlt : w.has .hlt = false)
    (hFault : m.core.stackFault? m.config w = some e) :
    m.refreshProgram.Refuses e m.stepCycle := by
  have hDecode : m.refreshProgram.Refuses e m.decodeStep := by
    rw [decodeStep_eq hRun, hWord]
    refine refuses_issue (.inl hm.refreshProgram) hw ?_ hHlt ?_
    · rw [halted_refreshProgram, hRun]
    · rw [core_refreshProgram, config_refreshProgram, hFault]
  have hStep : m.stepCycle = m.decodeStep := by
    simp [stepCycle, hDecode.fault]
  rwa [hStep]

theorem stepCycle_of_halt (hRun : m.halted = false) (hWord : m.refreshProgram.selectWord = w)
    (hHlt : w.has .hlt = true) :
    m.stepCycle.fault = none ∧ m.stepCycle.machine.core = { m.core with halted := true } ∧
      m.stepCycle.machine.config = m.config := by
  have hIssue : m.decodeStep.fault = none ∧ m.decodeStep.machine =
      { m.refreshProgram with word := some w, halted := true } := by
    simp [decodeStep_eq hRun, hWord, issue, hRun, hHlt]
  have hStep : m.stepCycle.machine = m.decodeStep.machine ∧ m.stepCycle.fault = none := by
    simp [stepCycle, hIssue, executeStep]
  rw [hStep.1, hStep.2, hIssue.2]
  refine ⟨rfl, ?_, config_refreshProgram m⟩
  exact congrArg₂ (fun c top => (⟨c, top, true⟩ : Core δ)) (contents_refreshProgram m)
    (stackTop_refreshProgram m)

end Machine

end Microbus
