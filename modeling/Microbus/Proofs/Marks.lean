import Microbus.Proofs.Cycle.Outcomes
import Microbus.Proofs.Cycle.Sequence

/-! # Marks and notes

What is to happen on the bus is written down twice: each node carries a mark, and the transfer lists
the nodes that were noted. The two agree behind every call, whatever was called before and whether
it failed, halted the machine or was a word on top of another.
-/

namespace Microbus.Machine
set_option autoImplicit false

variable {δ : Type} [OutputDevice δ]

/-- The marked nodes are the noted ones, nothing is noted unless a word waits, the bus is free, and
no node is to drive it that cannot. -/
structure WellMarked (m : Machine δ) : Prop where
  marked : ∀ n, m.datapath.mark n ≠ .idle ↔ n ∈ m.transfer.nodes
  waiting : m.word = none → m.transfer = .none
  bus : m.bus.held = none
  mute : ∀ n, n.canDrive = false → m.datapath.mark n ≠ .transmit

variable {m : Machine δ} {w : ControlWord}

theorem Quiet.wellMarked (hm : m.Quiet) : m.WellMarked := by
  refine ⟨?_, fun _ => hm.transfer, hm.bus, ?_⟩
  · intro n
    simp [hm.mark, hm.transfer, Transfer.none, Transfer.nodes]
  · intro n _
    rw [hm.mark]
    decide

namespace WellMarked

theorem mark_of_not_mem (h : m.WellMarked) (n : Node) (hn : n ∉ m.transfer.nodes) :
    m.datapath.mark n = .idle :=
  Decidable.not_not.mp (mt (h.marked n).mp hn)

theorem quiet (h : m.WellMarked) (hWord : m.word = none) : m.Quiet := by
  have hTransfer := h.waiting hWord
  refine ⟨hWord, hTransfer, h.bus, fun n => h.mark_of_not_mem n ?_⟩
  rw [hTransfer]
  exact List.not_mem_nil

theorem of_same (h : m.WellMarked) {m' : Machine δ}
    (hMark : ∀ n, m'.datapath.mark n = m.datapath.mark n) (hTransfer : m'.transfer = m.transfer)
    (hWord : m'.word = none → m.word = none) (hBus : m'.bus = m.bus) : m'.WellMarked := by
  refine ⟨?_, fun hNone => hTransfer.trans (h.waiting (hWord hNone)), hBus ▸ h.bus, ?_⟩
  · intro n
    rw [hMark, hTransfer]
    exact h.marked n
  · intro n hn
    rw [hMark]
    exact h.mute n hn

theorem noted (h : m.WellMarked) (hIo : w.has .io = false) : (m.noted w).WellMarked := by
  have hCan := ControlWord.canDrive_of_mem_drivers hIo
  refine ⟨?_, nofun, h.bus, ?_⟩
  · intro n
    have hNodes : n ∈ (m.noted w).transfer.nodes ↔
        n ∈ w.listeners ∨ n ∈ w.drivers ∨ n ∈ m.transfer.nodes := by
      simp only [Machine.noted, Transfer.nodes, List.mem_append]
      grind
    rw [hNodes, mark_noted]
    by_cases hL : n ∈ w.listeners
    · simp [hL]
    · by_cases hD : n ∈ w.drivers
      · simp [hL, hD]
      · simpa [hL, hD] using h.marked n
  · intro n hn
    have hD : n ∉ w.drivers := fun hMem => by simp [hCan n hMem] at hn
    rw [mark_noted, if_neg hD]
    split
    · decide
    · exact h.mute n hn

theorem issue (h : m.WellMarked) (w : ControlWord) : (m.issue w).machine.WellMarked := by
  cases hRun : m.halted with
  | true => rwa [issue_of_halted hRun]
  | false =>
      rcases issue_cases (m := m) w hRun with ⟨-, hIssue⟩ | ⟨-, e, -, hIssue⟩ |
        ⟨-, hRefusal, hIssue⟩
      · rw [hIssue]
        exact h.of_same (fun _ => rfl) rfl nofun rfl
      · rw [hIssue]
        exact (quiet_dropped m h.bus h.mark_of_not_mem).wellMarked
      · rw [hIssue]
        exact h.noted (refusal?_eq_none_iff.mp hRefusal).2

theorem refreshProgram (h : m.WellMarked) : m.refreshProgram.WellMarked := by
  unfold Machine.refreshProgram
  split
  · exact h.of_same (fun _ => rfl) rfl id rfl
  · exact h

theorem decodeStep (h : m.WellMarked) : m.decodeStep.machine.WellMarked := by
  cases hRun : m.halted with
  | true => rwa [decodeStep_of_halted hRun]
  | false =>
      rw [decodeStep_eq hRun]
      exact h.refreshProgram.issue _

theorem executeStep (h : m.WellMarked) : m.executeStep.machine.WellMarked := by
  cases hRun : m.halted with
  | true => rwa [executeStep_of_nothing (.inl hRun)]
  | false =>
      cases hWord : m.word with
      | none => rwa [executeStep_of_nothing (.inr hWord)]
      | some w => exact (atRest_executeStep hRun hWord h.mark_of_not_mem).quiet.wellMarked

theorem setMemory (h : m.WellMarked) (cells : Memory) : (m.setMemory cells).WellMarked :=
  h.of_same (mark_setMemory m cells) rfl id rfl

theorem perform (h : m.WellMarked) (c : Call) : (m.perform c).machine.WellMarked := by
  obtain ⟨hCycle, hInstruction, hRuns⟩ :=
    perform_halves h (fun _ => decodeStep) (fun _ => executeStep)
  cases c with
  | decode => exact h.decodeStep
  | execute => exact h.executeStep
  | issue w => exact h.issue w
  | cycle => exact hCycle
  | instruction => exact hInstruction
  | run maxCycles => exact hRuns maxCycles
  | setRegister r v => exact h.of_same (Datapath.mark_set m.datapath r v) rfl id rfl
  | loadProgram bytes offset => exact (perform_load h h.setMemory).1 bytes offset
  | loadImage image => exact (perform_load h h.setMemory).2 image
  | reset => exact (atRest_reset m).quiet.wellMarked

theorem performAll (h : m.WellMarked) (cs : List Call) : (m.performAll cs).WellMarked := by
  induction cs generalizing m with
  | nil => exact h
  | cons c cs ih => exact ih (h.perform c)

end WellMarked

theorem wellMarked_powerOn (config : MachineConfig) (device : δ) :
    (powerOn config device).WellMarked :=
  (atRest_powerOn config device).quiet.wellMarked

/-- Behind any calls, in any order and whatever comes of them, exactly the noted nodes are marked;
if no word waits there are none; the bus is free; the instruction register, the flags, the output
register and the data input never are to drive it; and the counter stays in range. -/
theorem marks_performAll (config : MachineConfig) (device : δ) (cs : List Call) :
    let m := (powerOn config device).performAll cs
    (∀ n, m.datapath.isActing n = true ↔ n ∈ m.transfer.drivers ∨ n ∈ m.transfer.listeners) ∧
      (m.word = none → m.transfer.isIdle = true ∧ ∀ n, m.datapath.isActing n = false) ∧
      m.bus.held = none ∧
      (∀ n ∈ [Node.register .ip, .register .fr, .register .out, .outputData],
        m.datapath.mark n ≠ .transmit) ∧
      m.counter.val < 8 := by
  intro m
  have hm : m.WellMarked := (wellMarked_powerOn config device).performAll cs
  have hActing : ∀ n, m.datapath.isActing n = true ↔ n ∈ m.transfer.nodes :=
    fun n => (Datapath.isActing_iff m.datapath n).trans (hm.marked n)
  have hMute : ∀ n ∈ [Node.register .ip, .register .fr, .register .out, .outputData],
      n.canDrive = false := by decide
  refine ⟨?_, ?_, hm.bus, fun n hn => hm.mute n (hMute n hn), m.counter.isLt⟩
  · intro n
    rw [hActing, Transfer.nodes, List.mem_append]
  · intro hNone
    have hTransfer := hm.waiting hNone
    refine ⟨by rw [hTransfer]; rfl, ?_⟩
    intro n
    rw [← Bool.not_eq_true, hActing, hTransfer]
    exact List.not_mem_nil

end Microbus.Machine
