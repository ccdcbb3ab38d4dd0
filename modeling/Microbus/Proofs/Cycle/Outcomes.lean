import Microbus.Proofs.Calls
import Microbus.Proofs.Cycle.AnyWord
import Microbus.Proofs.Datapath.Resolution

/-! # The outcomes of a half in any state

A word may be issued on top of one that still waits, so that the notes of several words gather and
flags of an earlier word are queued. This module says once what the two halves can do in any state
whatever: issuing has three outcomes and executing has two, each an explicit machine. Invariants of
arbitrary sequences of calls are checked on these.
-/

namespace Microbus
set_option autoImplicit false

variable {δ : Type}

namespace Datapath

theorem contents_giveUp (d : Datapath δ) : d.giveUp.contents = d.contents := by
  have hGet : d.giveUp.get = d.get := by
    funext r
    cases r <;> rfl
  simp only [contents, hGet]
  rfl

theorem mark_giveUp [OutputDevice δ] (d : Datapath δ) (n : Node) :
    d.giveUp.mark n = d.mark n := by
  cases n with
  | register r => cases r <;> rfl
  | memory | outputData => rfl

end Datapath

namespace ControlWord

theorem fr_not_mem_nodes (w : ControlWord) : .register .fr ∉ w.drivers ++ w.listeners := by
  simp [drivers, listeners, driveLines, latchLines]

end ControlWord

namespace Machine

def queued (m : Machine δ) : Option Flags := m.datapath.fr.pending

variable [OutputDevice δ]

/-- No word waits, nothing is noted or marked, and the bus is free. Flags may be queued. -/
structure Quiet (m : Machine δ) : Prop where
  word : m.word = none
  transfer : m.transfer = .none
  bus : m.bus.held = none
  mark : ∀ n, m.datapath.mark n = .idle

theorem AtRest.quiet {m : Machine δ} (h : m.AtRest) : m.Quiet :=
  ⟨h.word, h.transfer, h.bus, h.mark⟩

def noted (m : Machine δ) (w : ControlWord) : Machine δ :=
  { m with
    transfer := ⟨m.transfer.drivers ++ w.drivers, m.transfer.listeners ++ w.listeners⟩
    datapath := (((m.datapath.markAll .transmit w.drivers).markAll .receive
      w.listeners).applyDirect w).applyAlu w
    word := some w }

def dropped (m : Machine δ) : Machine δ :=
  { m with datapath := m.transfer.abort m.datapath, transfer := .none, word := none }

def resolution (m : Machine δ) : Resolution (Datapath δ) :=
  Transfer.resolveAll m.datapath m.bus m.transfer.nodes

def carried (m : Machine δ) : Machine δ :=
  { m with
    transfer := .none
    word := none
    datapath := m.transfer.abort m.resolution.part
    bus := m.resolution.bus
    lastBus := m.resolution.bus.held.getD 0 }

def abandoned (m : Machine δ) : Machine δ :=
  { m.carried with
    datapath := m.carried.datapath.giveUp
    bus := m.carried.bus.clockReset
    lastBus := 0 }

variable {m : Machine δ} {w : ControlWord}

theorem apply_of_refusal?_eq_none (h : m.refusal? w = none) :
    m.apply w = .ok { m.noted w with word := m.word } := by
  obtain ⟨hStack, hIo⟩ := refusal?_eq_none_iff.mp h
  exact apply_eq_ok (ControlWord.canDrive_of_mem_drivers hIo) hStack

/-- Issuing a word halts the machine, is refused and drops what was noted before, or notes the
word. -/
theorem issue_cases (w : ControlWord) (hRun : m.halted = false) :
    (w.has .hlt = true ∧ m.issue w =
      ⟨{ m with word := some w, halted := true }, none, [.cycleStart m.counter w, .halted]⟩) ∨
    (w.has .hlt = false ∧ ∃ e, m.refusal? w = some e ∧
      m.issue w = ⟨m.dropped, some e, [.cycleStart m.counter w, .failure e]⟩) ∨
    (w.has .hlt = false ∧ m.refusal? w = none ∧
      m.issue w = ⟨m.noted w, none, [.cycleStart m.counter w]⟩) := by
  cases hHlt : w.has .hlt with
  | true => exact .inl ⟨rfl, by simp [issue, hRun, hHlt]⟩
  | false =>
      refine .inr ?_
      cases hRefusal : m.refusal? w with
      | some e =>
          refine .inl ⟨rfl, e, rfl, ?_⟩
          simp [issue, hRun, hHlt, apply_of_refusal? hRefusal, dropped]
      | none =>
          refine .inr ⟨rfl, rfl, ?_⟩
          simp [issue, hRun, hHlt, apply_of_refusal?_eq_none hRefusal, noted]

theorem issue_of_halted (h : m.halted = true) (w : ControlWord) : m.issue w = ⟨m, none, []⟩ := by
  simp [issue, h]

theorem decodeStep_of_halted (h : m.halted = true) : m.decodeStep = ⟨m, none, []⟩ := by
  simp [decodeStep, h]

theorem executeStep_of_nothing (h : m.halted = true ∨ m.word = none) :
    m.executeStep = ⟨m, none, []⟩ := by
  cases hRun : m.halted with
  | true => simp [executeStep, hRun]
  | false => simp [executeStep, hRun, h.resolve_left (by simp [hRun])]

theorem executeStep_cases (hRun : m.halted = false) (hWord : m.word = some w) :
    (∃ e, m.resolution.fault = some e ∧ m.executeStep.fault = some e ∧
      m.executeStep.machine = m.abandoned) ∨
    (m.resolution.fault = none ∧ m.executeStep.fault = none ∧
      m.executeStep.machine = m.carried.complete w) := by
  cases hFault : m.resolution.fault with
  | some e =>
      refine .inl ⟨e, rfl, ?_⟩
      rw [resolution] at hFault
      simp [executeStep, hRun, hWord, Transfer.execute, hFault, abandoned, carried, resolution]
  | none =>
      refine .inr ⟨rfl, ?_⟩
      rw [resolution] at hFault
      simp [executeStep, hRun, hWord, Transfer.execute, hFault, carried, resolution]

section

variable (m)

theorem config_issue (w : ControlWord) : (m.issue w).machine.config = m.config := by
  cases hRun : m.halted with
  | true => rw [issue_of_halted hRun]
  | false =>
      rcases issue_cases (m := m) w hRun with ⟨-, hEq⟩ | ⟨-, e, -, hEq⟩ | ⟨-, -, hEq⟩
      · rw [hEq]
      · rw [hEq]
        rfl
      · rw [hEq]
        rfl

theorem config_decode : m.decodeStep.machine.config = m.config := by
  cases hRun : m.halted with
  | true => rw [decodeStep_of_halted hRun]
  | false => rw [decodeStep_eq hRun, config_issue, config_refreshProgram]

theorem config_execute : m.executeStep.machine.config = m.config := by
  by_cases hNothing : m.halted = true ∨ m.word = none
  · rw [executeStep_of_nothing hNothing]
  · obtain ⟨hRun, hWord⟩ := not_or.mp hNothing
    obtain ⟨w, hWord⟩ := Option.ne_none_iff_exists'.mp hWord
    rcases executeStep_cases ((Bool.not_eq_true _).mp hRun) hWord with
      ⟨e, -, -, hEq⟩ | ⟨-, -, hEq⟩
    · rw [hEq]
      rfl
    · rw [hEq]
      rfl

theorem config_call (c : Call) : (m.perform c).machine.config = m.config := by
  have hRuns := perform_halves (P := fun m' => m'.config = m.config) rfl
    (fun m' h => (config_decode m').trans h) fun m' h => (config_execute m').trans h
  have hLoads := perform_load (P := fun m' => m'.config = m.config) rfl fun _ => rfl
  cases c with
  | decode => exact config_decode m
  | execute => exact config_execute m
  | issue w => exact config_issue m w
  | cycle => exact hRuns.1
  | instruction => exact hRuns.2.1
  | run maxCycles => exact hRuns.2.2 maxCycles
  | setRegister r v => rfl
  | loadProgram bytes offset => exact hLoads.1 bytes offset
  | loadImage image => exact hLoads.2 image
  | reset => rfl

theorem config_performAll (cs : List Call) : (m.performAll cs).config = m.config := by
  induction cs generalizing m with
  | nil => rfl
  | cons c cs ih => exact (ih _).trans (config_call m c)

end

section

variable (m w)

theorem contents_noted : (m.noted w).contents = m.contents.immediate w := by
  simp only [noted, contents, Datapath.contents_prepare, Datapath.contents_markAll]

theorem mark_noted (n : Node) : (m.noted w).datapath.mark n =
    if n ∈ w.listeners then .receive else if n ∈ w.drivers then .transmit
      else m.datapath.mark n := by
  simp only [noted, Datapath.mark_prepare, Datapath.mark_markAll]

theorem queued_noted : (m.noted w).queued =
    if w.has .eo then some ((m.contents.immediate w).arithmetic w).2 else m.queued := by
  simp only [queued, noted, Datapath.pending_prepare, Datapath.contents_markAll,
    Datapath.pending_markAll, contents]

theorem contents_dropped : m.dropped.contents = m.contents := by
  simp only [dropped, contents, Transfer.abort_eq, Datapath.contents_markAll]

theorem queued_dropped : m.dropped.queued = m.queued := by
  simp only [queued, dropped, Transfer.abort_eq, Datapath.pending_markAll]

theorem contents_carried : m.carried.contents = m.resolution.part.contents := by
  simp only [carried, contents, Transfer.abort_eq, Datapath.contents_markAll]

theorem queued_carried : m.carried.queued = m.queued := by
  simp only [queued, carried, Transfer.abort_eq, Datapath.pending_markAll, resolution,
    Transfer.pending_resolveAll]

theorem contents_abandoned : m.abandoned.contents = m.resolution.part.contents :=
  (Datapath.contents_giveUp m.carried.datapath).trans (contents_carried m)

theorem quiet_dropped (hBus : m.bus.held = none)
    (hMark : ∀ n, n ∉ m.transfer.nodes → m.datapath.mark n = .idle) : m.dropped.Quiet := by
  refine ⟨rfl, rfl, hBus, ?_⟩
  intro n
  simp only [dropped, Transfer.abort_eq, Datapath.mark_markAll]
  split
  · rfl
  · exact hMark n ‹_›

theorem mark_carried (hMark : ∀ n, n ∉ m.transfer.nodes → m.datapath.mark n = .idle) (n : Node) :
    m.carried.datapath.mark n = .idle := by
  simp only [carried, Transfer.abort_eq, Datapath.mark_markAll]
  split
  · rfl
  · next hn => rw [resolution, Transfer.mark_resolveAll_of_not_mem hn, hMark n hn]

end

/-- Whatever comes of it, a word that is executed leaves nothing behind: no mark, no note, no
value on the bus and no queued flags. -/
theorem atRest_executeStep (hRun : m.halted = false) (hWord : m.word = some w)
    (hMark : ∀ n, n ∉ m.transfer.nodes → m.datapath.mark n = .idle) :
    m.executeStep.machine.AtRest := by
  have hCarried := mark_carried m hMark
  rcases executeStep_cases hRun hWord with ⟨e, -, -, hMachine⟩ | ⟨-, -, hMachine⟩
  · rw [hMachine]
    exact ⟨rfl, rfl, rfl, fun n => (Datapath.mark_giveUp _ n).trans (hCarried n), rfl⟩
  · rw [hMachine]
    exact ⟨rfl, rfl, rfl, fun n => (mark_complete m.carried w n).trans (hCarried n),
      Datapath.pending_clock _⟩

/-- Executing stores the queued flags if the cycle is completed; nothing else writes flags. -/
theorem flags_executeStep (hRun : m.halted = false) (hWord : m.word = some w)
    (hFr : .register .fr ∉ m.transfer.nodes) : m.executeStep.machine.register .fr =
      match m.executeStep.fault, m.queued with
      | none, some f => f.toByte
      | _, _ => m.register .fr := by
  have hKept : m.resolution.part.contents.register .fr = m.register .fr :=
    Transfer.register_resolveAll_of_not_mem hFr m.datapath m.bus
  rcases executeStep_cases hRun hWord with ⟨e, -, hFault, hMachine⟩ | ⟨-, hFault, hMachine⟩
  · have hContents := congrArg (Contents.register · .fr) (contents_abandoned m)
    rw [hMachine, hFault]
    exact hContents.trans hKept
  · have hContents := contents_complete m.carried w
    have hQueued : m.carried.datapath.fr.pending = m.queued := queued_carried m
    rw [hQueued, contents_carried] at hContents
    have hRegister : m.executeStep.machine.register .fr =
        (m.carried.complete w).contents.register .fr := by
      rw [hMachine]
      rfl
    rw [hRegister, hContents, hFault]
    cases hCase : m.queued with
    | none => cases w.has .oci <;> exact hKept
    | some f => cases w.has .oci <;> simp [Contents.set]

section

variable (hm : m.Quiet) (w)

include hm

theorem Quiet.nodes_noted : (m.noted w).transfer.nodes = w.drivers ++ w.listeners := by
  simp [noted, hm.transfer, Transfer.none, Transfer.nodes]

theorem Quiet.mark_noted (n : Node) : (m.noted w).datapath.mark n = w.markOf n := by
  rw [Machine.mark_noted, hm.mark]
  rfl

theorem Quiet.mark_noted_of_not_mem (n : Node) (hn : n ∉ (m.noted w).transfer.nodes) :
    (m.noted w).datapath.mark n = .idle := by
  rw [hm.nodes_noted, List.mem_append, not_or] at hn
  rw [hm.mark_noted, ControlWord.markOf, if_neg hn.2, if_neg hn.1]

theorem Quiet.flags_cycle (hRun : m.halted = false) (hEo : w.has .eo = false) :
    (m.noted w).executeStep.machine.register .fr =
      match (m.noted w).executeStep.fault, m.queued with
      | none, some f => f.toByte
      | _, _ => m.register .fr := by
  have hFr : .register .fr ∉ (m.noted w).transfer.nodes := by
    rw [hm.nodes_noted]
    exact w.fr_not_mem_nodes
  have hFlags := flags_executeStep (m := m.noted w) hRun rfl hFr
  have hSame : (m.noted w).register .fr = m.register .fr :=
    congrArg (Contents.register · .fr) (contents_noted m w)
  rwa [queued_noted, hEo, hSame] at hFlags

end

theorem AtRest.cycle (hm : m.AtRest) (hRun : m.halted = false) (hEo : w.has .eo = false) :
    ((m.issue w).machine.executeStep.machine.halted = true ∨
        (m.issue w).machine.executeStep.machine.AtRest) ∧
      (m.issue w).machine.executeStep.machine.register .fr = m.register .fr := by
  rcases issue_cases (m := m) w hRun with ⟨-, hIssue⟩ | ⟨hHlt, e, hRefusal, hIssue⟩ |
    ⟨-, -, hIssue⟩
  · rw [hIssue, executeStep_of_nothing (.inl rfl)]
    exact ⟨.inl rfl, rfl⟩
  · have hRefuses := refuses_issue_of_atRest hm hRun hHlt (apply_of_refusal? hRefusal)
    rw [executeStep_of_nothing (.inr hRefuses.atRest.word)]
    exact ⟨.inr hRefuses.atRest, congrArg (Contents.register · .fr) hRefuses.contents⟩
  · have hFlags := hm.quiet.flags_cycle w hRun hEo
    have hQueued : m.queued = none := hm.pending
    rw [hIssue]
    refine ⟨.inr (atRest_executeStep hRun rfl (hm.quiet.mark_noted_of_not_mem w)), ?_⟩
    rw [hFlags, hQueued]
    cases (m.noted w).executeStep.fault <;> rfl

def cycleAll (m : Machine δ) (ws : List ControlWord) : Machine δ :=
  ws.foldl (fun m w => (m.issue w).machine.executeStep.machine) m

theorem flags_cycleAll (hm : m.halted = true ∨ m.AtRest) {ws : List ControlWord}
    (hEo : ∀ w ∈ ws, w.has .eo = false) : (m.cycleAll ws).register .fr = m.register .fr := by
  induction ws generalizing m with
  | nil => rfl
  | cons w ws ih =>
      have hRest : ∀ v ∈ ws, v.has .eo = false := fun v hv => hEo v (List.mem_cons_of_mem w hv)
      cases hRun : m.halted with
      | true =>
          have hStill : (m.issue w).machine.executeStep.machine = m := by
            rw [issue_of_halted hRun, executeStep_of_nothing (.inl hRun)]
          have hCons : m.cycleAll (w :: ws) = m.cycleAll ws := by
            rw [cycleAll, List.foldl_cons, hStill, ← cycleAll]
          rw [hCons]
          exact ih (.inl hRun) hRest
      | false =>
          have hRestful : m.AtRest := hm.resolve_left (by simp [hRun])
          obtain ⟨hNext, hFlags⟩ := hRestful.cycle hRun (hEo w List.mem_cons_self)
          exact (ih hNext hRest).trans hFlags

end Machine

end Microbus
