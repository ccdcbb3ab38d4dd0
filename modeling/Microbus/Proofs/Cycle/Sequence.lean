import Microbus.Proofs.Cycle.Outcomes

/-! # The machine in sequence

A machine is in sequence if its micro-program is in order and it halted, is at rest, or holds the
word of its current micro-step. Decoding, executing, loading and resetting keep the machine in
sequence in any order, and so does overwriting a register while no word waits. In sequence, a
decoding half has three outcomes and an executing half two.
-/

namespace Microbus.Machine
set_option autoImplicit false

section

variable {δ : Type} {m m' : Machine δ}

theorem orderly_refreshProgram (h : ∀ w ∈ m.program, w.Orderly) :
    ∀ w ∈ m.refreshProgram.program, w.Orderly := by
  unfold refreshProgram
  split
  · exact orderly_of_mem_microProgram
  · exact h

theorem orderly_selectWord (h : ∀ w ∈ m.program, w.Orderly) : m.selectWord.Orderly := by
  unfold selectWord
  cases hGet : (fetchCycle ++ m.program)[m.counter.val]? with
  | none => exact orderly_msr
  | some w =>
      rcases List.mem_append.mp (List.mem_of_getElem? hGet) with hFetch | hProgram
      · exact orderly_of_mem_fetchCycle w hFetch
      · exact h w hProgram

def fetchedProgram (m : Machine δ) : List ControlWord :=
  microProgram (m.contents.register .ip) (.ofByte (m.contents.register .fr))

theorem refreshProgram_eq_self_iff :
    m.refreshProgram = m ↔ (m.counter = .dispatch → m.program = m.fetchedProgram) := by
  unfold refreshProgram
  split
  · next hDispatch =>
      constructor
      · exact fun h _ => (congrArg Machine.program h).symm
      · intro h
        rw [show microProgram (m.register .ip) m.flags = m.program from (h hDispatch).symm]
  · next hOther => exact ⟨fun _ h => absurd h hOther, fun _ => rfl⟩

theorem refreshProgram_refreshProgram (m : Machine δ) :
    m.refreshProgram.refreshProgram = m.refreshProgram := by
  rw [refreshProgram_eq_self_iff, counter_refreshProgram, fetchedProgram, contents_refreshProgram]
  intro hDispatch
  rw [refreshProgram, if_pos hDispatch]
  rfl

theorem SameControl.selectWord (h : m.SameControl m') : m'.selectWord = m.selectWord := by
  simp only [Machine.selectWord, h.program, h.counter]

theorem SameControl.fresh (h : m.SameControl m')
    (hIp : m'.contents.register .ip = m.contents.register .ip)
    (hFr : m'.contents.register .fr = m.contents.register .fr) (hFresh : m.refreshProgram = m) :
    m'.refreshProgram = m' := by
  rw [refreshProgram_eq_self_iff] at hFresh ⊢
  rwa [h.counter, h.program, fetchedProgram, hIp, hFr]

end

variable {δ : Type} [OutputDevice δ] {m : Machine δ}

structure Awaits (m : Machine δ) : Prop where
  holds : m.Holds m.selectWord
  fresh : m.refreshProgram = m

/-- The control unit follows its micro-program. -/
structure Sequenced (m : Machine δ) : Prop where
  program : ∀ w ∈ m.program, w.Orderly
  condition : m.halted = true ∨ m.AtRest ∨ m.Awaits

/-- The outcomes of decoding: halt, refusal, or a word that waits. -/
theorem Sequenced.decodeStep_cases (h : m.Sequenced) (hRun : m.halted = false) :
    (m.refreshProgram.selectWord.has .hlt = true ∧ m.decodeStep.fault = none ∧
      m.decodeStep.machine =
        { m.refreshProgram with word := some m.refreshProgram.selectWord, halted := true }) ∨
    (∃ e, m.core.stackFault? m.config m.refreshProgram.selectWord = some e ∧
      m.refreshProgram.Refuses e m.decodeStep) ∨
    (m.core.stackFault? m.config m.refreshProgram.selectWord = none ∧
      m.refreshProgram.Decodes m.refreshProgram.selectWord m.decodeStep) := by
  have hReady : m.refreshProgram.AtRest ∨ m.refreshProgram.Holds m.refreshProgram.selectWord := by
    rcases h.condition with hHalted | hRest | hAwaits
    · rw [hRun] at hHalted
      cases hHalted
    · exact .inl hRest.refreshProgram
    · rw [hAwaits.fresh]
      exact .inr hAwaits.holds
  have hw := orderly_selectWord (orderly_refreshProgram h.program)
  have hRun' : m.refreshProgram.halted = false := (halted_refreshProgram m).trans hRun
  have hCore : m.refreshProgram.core.stackFault? m.refreshProgram.config =
      m.core.stackFault? m.config := by
    rw [core_refreshProgram, config_refreshProgram]
  rw [decodeStep_eq hRun]
  cases hHlt : m.refreshProgram.selectWord.has .hlt with
  | true => exact .inl ⟨rfl, by simp [issue, hRun, hHlt]⟩
  | false =>
      refine .inr ?_
      cases hFault : m.core.stackFault? m.config m.refreshProgram.selectWord with
      | some e => exact .inl ⟨e, rfl, refuses_issue hReady hw hRun' hHlt (by rw [hCore, hFault])⟩
      | none => exact .inr ⟨rfl, decodes_issue hReady hw.canDrive hRun' hHlt (by rw [hCore, hFault])⟩

theorem Sequenced.executeStep_cases (h : m.Sequenced) :
    (m.halted = true ∨ m.word = none) ∧ m.executeStep = ⟨m, none, []⟩ ∨
      m.halted = false ∧ m.Awaits ∧ m.Executes m.selectWord m.executeStep := by
  cases hRun : m.halted with
  | true => exact .inl ⟨.inl rfl, by simp [executeStep, hRun]⟩
  | false =>
      rcases h.condition with hHalted | hRest | hAwaits
      · rw [hRun] at hHalted
        cases hHalted
      · exact .inl ⟨.inr hRest.word, by simp [executeStep, hRun, hRest.word]⟩
      · exact .inr ⟨rfl, hAwaits,
          executes_executeStep hAwaits.holds (orderly_selectWord h.program).transferable hRun⟩

theorem Sequenced.decodeStep (h : m.Sequenced) : m.decodeStep.machine.Sequenced := by
  cases hRun : m.halted with
  | true =>
      rw [decodeStep_of_halted hRun]
      exact h
  | false =>
      have hProgram := orderly_refreshProgram h.program
      rcases h.decodeStep_cases hRun with ⟨-, -, hEq⟩ | ⟨e, -, hRefuses⟩ | ⟨-, hDecodes⟩
      · rw [hEq]
        exact ⟨hProgram, .inl rfl⟩
      · exact ⟨by rwa [hRefuses.control.program], .inr (.inl hRefuses.atRest)⟩
      · refine ⟨by rwa [hDecodes.control.program], .inr (.inr ⟨?_, ?_⟩)⟩
        · rw [hDecodes.control.selectWord]
          exact hDecodes.holds
        · have hIp : m.decodeStep.machine.contents.register .ip =
              m.refreshProgram.contents.register .ip := by rw [hDecodes.contents]; rfl
          have hFr : m.decodeStep.machine.contents.register .fr =
              m.refreshProgram.contents.register .fr := by rw [hDecodes.contents]; rfl
          exact hDecodes.control.fresh hIp hFr (refreshProgram_refreshProgram m)

theorem Sequenced.executeStep (h : m.Sequenced) : m.executeStep.machine.Sequenced := by
  rcases h.executeStep_cases with ⟨-, hEq⟩ | ⟨-, -, hExecutes⟩
  · rw [hEq]
    exact h
  · exact ⟨by rw [hExecutes.program]; exact h.program, .inr (.inl hExecutes.atRest)⟩

theorem sequenced_powerOn (config : MachineConfig) (device : δ) :
    (powerOn config device).Sequenced :=
  ⟨by simp [powerOn], .inr (.inl (atRest_powerOn config device))⟩

theorem sequenced_reset (m : Machine δ) : m.reset.Sequenced :=
  ⟨by simp [reset], .inr (.inl (atRest_reset m))⟩

theorem Sequenced.setRegister (h : m.Sequenced) (hWord : m.word = none) (r : RegName)
    (v : UInt8) : (m.setRegister r v).Sequenced := by
  refine ⟨h.program, ?_⟩
  rcases h.condition with hHalted | hRest | hAwaits
  · exact .inl hHalted
  · refine .inr (.inl ⟨hRest.word, hRest.transfer, hRest.bus, ?_, ?_⟩)
    · intro n
      exact (Datapath.mark_set m.datapath r v n).trans (hRest.mark n)
    · exact (Datapath.pending_set m.datapath r v).trans hRest.pending
  · rw [hAwaits.holds.word] at hWord
    cases hWord

theorem Sequenced.setMemory (h : m.Sequenced) (cells : Memory) :
    (m.setMemory cells).Sequenced := by
  refine ⟨h.program, ?_⟩
  rcases h.condition with hHalted | hRest | hAwaits
  · exact .inl hHalted
  · exact .inr (.inl (hRest.setMemory cells))
  · obtain ⟨hHolds, hFresh⟩ := hAwaits
    refine .inr (.inr ⟨⟨hHolds.word, hHolds.notes, hHolds.bus,
      fun n => (mark_setMemory m cells n).trans (hHolds.mark n), hHolds.pending⟩, ?_⟩)
    rw [refreshProgram_eq_self_iff] at hFresh ⊢
    exact hFresh

end Microbus.Machine
