import Microbus.Proofs.Cycle.Outcomes

/-! # What a cycle does to the counter

In any state whatever, a cycle that goes well halts the machine, starts an instruction or takes the
next micro-step. A quiet machine in front of an instruction may still have flags queued; its first
cycle stores them, and is otherwise the first cycle of the machine with those flags stored.
-/

namespace Microbus
set_option autoImplicit false

theorem MicroStep.next_cases (s : MicroStep) : s.next = .first ∨ s.next.val = s.val + 1 := by
  revert s
  decide

namespace Machine

variable {δ : Type}

def settled (m : Machine δ) : Machine δ := { m with datapath := m.datapath.clock }

variable [OutputDevice δ] {m : Machine δ} {w : ControlWord}

def prepared (m : Machine δ) : Machine δ := m.refreshProgram.noted m.refreshProgram.selectWord

theorem stepCycle_of_fault_eq_none (hRun : m.halted = false) (hFault : m.stepCycle.fault = none) :
    m.stepCycle.machine.halted = true ∨
      m.prepared.executeStep.fault = none ∧
        m.stepCycle.machine = m.prepared.executeStep.machine := by
  have hDecode := decodeStep_eq hRun
  have hRun' : m.refreshProgram.halted = false := (halted_refreshProgram m).trans hRun
  rcases issue_cases m.refreshProgram.selectWord hRun' with ⟨-, hIssue⟩ | ⟨-, e, -, hIssue⟩ |
    ⟨-, -, hIssue⟩
  · refine .inl ?_
    simp [stepCycle, hDecode, hIssue, executeStep]
  · simp [stepCycle, hDecode, hIssue] at hFault
  · have hStep : m.stepCycle.fault = m.prepared.executeStep.fault ∧
        m.stepCycle.machine = m.prepared.executeStep.machine := by
      simp [stepCycle, hDecode, hIssue, prepared]
    exact .inr ⟨hStep.1 ▸ hFault, hStep.2⟩

/-- Whatever the state of the machine is, a cycle that goes well halts it, starts an instruction or
takes the next micro-step. -/
theorem counter_stepCycle (hRun : m.halted = false) (hFault : m.stepCycle.fault = none) :
    m.stepCycle.machine.halted = true ∨ m.stepCycle.machine.counter = .first ∨
      m.stepCycle.machine.counter.val = m.counter.val + 1 := by
  rcases stepCycle_of_fault_eq_none hRun hFault with hHalted | ⟨hExecute, hStep⟩
  · exact .inl hHalted
  · have hRun' : m.prepared.halted = false := (halted_refreshProgram m).trans hRun
    rcases executeStep_cases hRun' rfl with ⟨e, -, hFails, -⟩ | ⟨-, -, hMachine⟩
    · rw [hExecute] at hFails
      cases hFails
    · have hCounter : m.stepCycle.machine.counter =
          if m.refreshProgram.selectWord.has .msr then .first else m.counter.next := by
        rw [hStep, hMachine, ← counter_refreshProgram m]
        rfl
      refine .inr ?_
      rw [hCounter]
      split
      · exact .inl rfl
      · exact m.counter.next_cases

theorem Quiet.refreshProgram (hm : m.Quiet) : m.refreshProgram.Quiet := by
  unfold Machine.refreshProgram
  split
  · exact ⟨hm.word, hm.transfer, hm.bus, hm.mark⟩
  · exact hm

theorem Quiet.atRest_stepCycle (hm : m.Quiet) (hRun : m.halted = false)
    (hFault : m.stepCycle.fault = none) :
    m.stepCycle.machine.halted = true ∨ m.stepCycle.machine.AtRest := by
  rcases stepCycle_of_fault_eq_none hRun hFault with hHalted | ⟨-, hStep⟩
  · exact .inl hHalted
  · refine .inr ?_
    rw [hStep]
    exact atRest_executeStep ((halted_refreshProgram m).trans hRun) rfl
      (hm.refreshProgram.mark_noted_of_not_mem _)

omit [OutputDevice δ] in
theorem contents_settled (m : Machine δ) : m.settled.contents = match m.queued with
    | some f => m.contents.set .fr f.toByte
    | none => m.contents :=
  Datapath.contents_clock m.datapath

theorem Quiet.executeStep_noted (hm : m.Quiet) (hRun : m.halted = false) (hw : w.Transferable)
    (hEo : w.has .eo = false) (hOci : w.has .oci = false) :
    (m.noted w).executeStep.fault = none ∧
      (m.noted w).executeStep.machine = (m.noted w).carried.complete w ∧
      ((m.noted w).carried.complete w).contents =
        (let moved := (m.contents.immediate w).latchAll ((m.contents.immediate w).busValue w)
          w.listeners
        match m.queued with
        | some f => moved.set .fr f.toByte
        | none => moved) := by
  have hNotes : (m.noted w).transfer.NotesWord w := by
    have hTransfer : (m.noted w).transfer =
        ⟨m.transfer.drivers ++ w.drivers, m.transfer.listeners ++ w.listeners⟩ := rfl
    rw [hTransfer, hm.transfer]
    exact Transfer.notesWord_none w
  have hBus : (m.noted w).bus.held = none := hm.bus
  obtain ⟨after, -, hCarries⟩ := hNotes.carries hw (hm.mark_noted w) hBus
  rcases executeStep_cases (m := m.noted w) hRun rfl with ⟨e, hFails, -, -⟩ |
    ⟨-, hFault, hMachine⟩
  · rw [resolution, hCarries.fault] at hFails
    cases hFails
  · refine ⟨hFault, hMachine, ?_⟩
    have hContents := contents_complete (m.noted w).carried w
    have hPending : (m.noted w).carried.datapath.fr.pending = m.queued := by
      have hQueued := queued_noted m w
      rw [hEo] at hQueued
      exact (queued_carried (m.noted w)).trans hQueued
    have hNoted : (m.noted w).datapath.contents = m.contents.immediate w := contents_noted m w
    rw [hOci, hPending, contents_carried, resolution, hCarries.contents, hNoted] at hContents
    exact hContents

theorem decodeStep_of_first (hRun : m.halted = false) (hCounter : m.counter = .first) :
    m.decodeStep = ⟨m.noted (.ofList [.co, .mai]), none,
      [.cycleStart m.counter (.ofList [.co, .mai])]⟩ := by
  have hReady : m.refreshProgram = m := by
    apply refreshProgram_of_ne
    rw [hCounter]
    decide
  have hSelect : m.selectWord = .ofList [.co, .mai] := by
    rw [selectWord, hCounter]
    rfl
  rw [decodeStep_eq hRun, hReady, hSelect]
  rcases issue_cases (m := m) (.ofList [.co, .mai]) hRun with
    ⟨hHlt, -⟩ | ⟨-, e, hRefusal, -⟩ | ⟨-, -, hIssue⟩
  · cases hHlt
  · simp [refusal?] at hRefusal
  · exact hIssue

theorem cycle_settled (m : Machine δ) : m.settled.contents.cycle (.ofList [.co, .mai]) =
    match m.queued with
    | some f => ((m.contents.immediate (.ofList [.co, .mai])).latch (.register .ma)
        (m.contents.register .pc)).set .fr f.toByte
    | none => (m.contents.immediate (.ofList [.co, .mai])).latch (.register .ma)
        (m.contents.register .pc) := by
  rw [contents_settled]
  cases m.queued with
  | none => rfl
  | some f =>
      have hRegister : ((m.contents.set .fr f.toByte).cycle (.ofList [.co, .mai])).register =
          (((m.contents.immediate (.ofList [.co, .mai])).latch (.register .ma)
            (m.contents.register .pc)).set .fr f.toByte).register := by
        funext r
        cases r <;> rfl
      exact congrArg (fun r => (⟨r, m.contents.memory, m.contents.device⟩ : Contents δ)) hRegister

/-- The first cycle of an instruction stores the queued flags, and goes as it would with them stored
before. -/
theorem Quiet.cycles_settled (hm : m.Quiet) (hRun : m.halted = false)
    (hCounter : m.counter = .first) : m.settled.Cycles (.ofList [.co, .mai]) m.stepCycle := by
  have hDecode := decodeStep_of_first hRun hCounter
  have hTransferable := (orderly_of_mem_fetchCycle _ List.mem_cons_self).transferable
  obtain ⟨hFault, hMachine, hContents⟩ := hm.executeStep_noted hRun hTransferable rfl rfl
  have hRest : m.stepCycle.machine.AtRest := by
    have hAtRest := atRest_executeStep (m := m.noted (.ofList [.co, .mai])) hRun rfl
      (hm.mark_noted_of_not_mem _)
    simpa [stepCycle, hDecode] using hAtRest
  have hStep : m.stepCycle.fault = none ∧ m.stepCycle.machine =
      (m.noted (.ofList [.co, .mai])).carried.complete (.ofList [.co, .mai]) := by
    simp [stepCycle, hDecode, hFault, hMachine]
  have hCore : m.stepCycle.machine.contents =
      m.settled.contents.cycle (.ofList [.co, .mai]) := by
    rw [hStep.2, hContents, cycle_settled]
    rfl
  refine ⟨hStep.1, hRest, ?_, ?_, ?_, ?_⟩
  · rw [core, hCore, hStep.2]
    rfl
  · rw [hStep.2]
    rfl
  · rw [hStep.2, refreshProgram_of_ne]
    · rfl
    · exact fun h => absurd (hCounter.symm.trans h) (by decide)
  · rw [hStep.2]
    rfl

end Machine

end Microbus
