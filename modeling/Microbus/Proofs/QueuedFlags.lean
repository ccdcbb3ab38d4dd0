import Microbus.Proofs.Marks

/-! # Flags that outlive their word

A word that asks for flags queues them when it is decoded, and they are stored when it is executed.
If it is never executed, because the next half that decodes is refused, its notes are dropped but
its flags stay in the queue, and the next cycle that is carried out stores them. As long as decoding
and executing take turns the queue is empty whenever a half decodes, and nothing of the kind can
happen.
-/

namespace Microbus
set_option autoImplicit false

def Call.IsDecoding : Call → Prop
  | .decode | .issue _ => True
  | _ => False

namespace Machine

variable {δ : Type} [OutputDevice δ]

def HalvesAndLoads (_ : Machine δ) : Call → Prop
  | .decode | .execute | .issue _ | .loadProgram _ _ | .loadImage _ => True
  | _ => False

/-- The same, but nothing is decoded while a word waits. -/
def TakingTurns (m : Machine δ) : Call → Prop
  | .decode | .issue _ => m.word = none
  | .execute | .loadProgram _ _ | .loadImage _ => True
  | _ => False

/-- Calls that decode no word: halves that are refused, executing halves, and loads. -/
def Fruitless (m : Machine δ) : Call → Prop
  | .decode => m.decodeStep.fault ≠ none
  | .issue w => (m.issue w).fault ≠ none
  | .execute | .loadProgram _ _ | .loadImage _ => True
  | _ => False

structure Drops (m m' : Machine δ) : Prop where
  quiet : m'.Quiet
  running : m'.halted = false
  contents : m'.contents = m.contents
  queued : m'.queued = m.queued

/-- No word waits; the given flags are queued, and the flag register holds the given byte. -/
structure Idles (queue : Option Flags) (byte : UInt8) (m : Machine δ) : Prop where
  quiet : m.Quiet
  running : m.halted = false
  queued : m.queued = queue
  flags : m.register .fr = byte

variable {m : Machine δ} {c : Call} {w : ControlWord} {queue : Option Flags} {byte : UInt8}

theorem Quiet.setMemory (h : m.Quiet) (cells : Memory) : (m.setMemory cells).Quiet :=
  ⟨h.word, h.transfer, h.bus, fun n => (mark_setMemory m cells n).trans (h.mark n)⟩

theorem WellMarked.drops_issue (h : m.WellMarked) (hFault : (m.issue w).fault ≠ none) :
    m.Drops (m.issue w).machine := by
  cases hRun : m.halted with
  | true =>
      rw [issue_of_halted hRun] at hFault
      exact absurd rfl hFault
  | false =>
      rcases issue_cases (m := m) w hRun with ⟨-, hIssue⟩ | ⟨-, e, -, hIssue⟩ | ⟨-, -, hIssue⟩
      · rw [hIssue] at hFault
        exact absurd rfl hFault
      · rw [hIssue]
        exact ⟨quiet_dropped m h.bus h.mark_of_not_mem, hRun, contents_dropped m,
          queued_dropped m⟩
      · rw [hIssue] at hFault
        exact absurd rfl hFault

omit [OutputDevice δ] in
theorem queued_refreshProgram (m : Machine δ) : m.refreshProgram.queued = m.queued := by
  unfold refreshProgram
  split <;> rfl

theorem WellMarked.drops (h : m.WellMarked) (hHalf : c.IsDecoding)
    (hFault : (m.perform c).fault ≠ none) : m.Drops (m.perform c).machine := by
  cases c with
  | issue w => exact h.drops_issue hFault
  | decode =>
      change m.decodeStep.fault ≠ none at hFault
      change m.Drops m.decodeStep.machine
      cases hRun : m.halted with
      | true =>
          rw [decodeStep_of_halted hRun] at hFault
          exact absurd rfl hFault
      | false =>
          rw [decodeStep_eq hRun] at hFault ⊢
          have hReady := h.refreshProgram.drops_issue hFault
          exact ⟨hReady.quiet, hReady.running,
            hReady.contents.trans (contents_refreshProgram m),
            hReady.queued.trans (queued_refreshProgram m)⟩
  | _ => exact hHalf.elim

theorem Drops.flags {m' : Machine δ} (h : m.Drops m') : m'.register .fr = m.register .fr :=
  congrArg (Contents.register · .fr) h.contents

theorem Drops.idles {m' : Machine δ} (h : m.Drops m') : m'.Idles m.queued (m.register .fr) :=
  ⟨h.quiet, h.running, h.queued, h.flags⟩

theorem Idles.perform (h : m.Idles queue byte) (hFruitless : m.Fruitless c) :
    (m.perform c).machine.Idles queue byte := by
  have hDrops : c.IsDecoding → (m.perform c).fault ≠ none →
      (m.perform c).machine.Idles queue byte := by
    intro hHalf hFault
    have hIdles := (h.quiet.wellMarked.drops hHalf hFault).idles
    rwa [h.queued, h.flags] at hIdles
  have hCells : ∀ cells, (m.setMemory cells).Idles queue byte :=
    fun cells => ⟨h.quiet.setMemory cells, h.running, h.queued, h.flags⟩
  cases c with
  | decode => exact hDrops trivial hFruitless
  | issue w => exact hDrops trivial hFruitless
  | execute =>
      change m.executeStep.machine.Idles queue byte
      rwa [executeStep_of_nothing (.inr h.quiet.word)]
  | loadProgram bytes offset => exact (perform_load h hCells).1 bytes offset
  | loadImage image => exact (perform_load h hCells).2 image
  | _ => exact hFruitless.elim

theorem Idles.of_reaches {m' : Machine δ} (h : m.Idles queue byte)
    (hReaches : Reaches Fruitless m m') : m'.Idles queue byte :=
  hReaches.induct h fun _ _ hIdles hFruitless => hIdles.perform hFruitless

theorem Idles.flags_cycle (h : m.Idles queue byte) (hEo : w.has .eo = false)
    (hIssue : (m.issue w).fault = none) :
    (m.issue w).machine.executeStep.machine.register .fr =
      if w.has .hlt = false ∧ (m.issue w).machine.executeStep.fault = none then
        (queue.map Flags.toByte).getD byte
      else byte := by
  rcases issue_cases (m := m) w h.running with ⟨hHlt, hEq⟩ | ⟨-, e, -, hEq⟩ | ⟨hHlt, -, hEq⟩
  · rw [hEq, executeStep_of_nothing (.inl rfl), if_neg (by simp [hHlt])]
    exact h.flags
  · rw [hEq] at hIssue
    cases hIssue
  · have hFlags := h.quiet.flags_cycle w h.running hEo
    rw [h.queued, h.flags] at hFlags
    rw [hEq, hFlags]
    cases hCase : (m.noted w).executeStep.fault with
    | some e => simp
    | none => cases queue <;> simp [hHlt]

theorem wellMarked_of_reaches {Allowed : Machine δ → Call → Prop} {config : MachineConfig}
    {device : δ} (h : Reaches Allowed (powerOn config device) m) : m.WellMarked :=
  h.induct (wellMarked_powerOn config device) fun _ c hMarked _ => hMarked.perform c

/-- A refused half gives up all that was noted and changes no register and no cell, but what was
queued stays queued: the next cycle whose word does not ask for flags stores it if it is carried
out, and else leaves the flags as they are. -/
theorem flags_of_refusal {config : MachineConfig} {device : δ}
    (h : Reaches HalvesAndLoads (powerOn config device) m) (hHalf : c.IsDecoding)
    (hFault : (m.perform c).fault ≠ none) :
    (m.perform c).machine.Quiet ∧ (m.perform c).machine.contents = m.contents ∧
      ∀ r : Machine δ, Reaches Fruitless (m.perform c).machine r → ∀ w : ControlWord,
        w.has .eo = false → (r.issue w).fault = none →
          (r.issue w).machine.executeStep.machine.register .fr =
            if w.has .hlt = false ∧ (r.issue w).machine.executeStep.fault = none then
              (m.queued.map Flags.toByte).getD ((m.perform c).machine.register .fr)
            else (m.perform c).machine.register .fr := by
  have hDrops := (wellMarked_of_reaches h).drops hHalf hFault
  refine ⟨hDrops.quiet, hDrops.contents, ?_⟩
  intro r hReaches w hEo hIssue
  rw [hDrops.flags]
  exact (hDrops.idles.of_reaches hReaches).flags_cycle hEo hIssue

def leftQueued : Machine Panel :=
  (powerOn {} Panel.blank).performAll [.issue (.ofList [.eo, .sub])]

theorem reaches_leftQueued : Reaches HalvesAndLoads (powerOn {} Panel.blank) leftQueued := by
  have hStart : Reaches HalvesAndLoads (powerOn {} Panel.blank) (powerOn {} Panel.blank) := .start
  exact hStart.performAll (by simp [HalvesAndLoads])

theorem flags_of_refusal_leftQueued :
    (leftQueued.perform (.issue (.ofList [.io]))).fault = some (.readForbidden "IP") ∧
      (leftQueued.perform (.issue (.ofList [.io]))).machine.register .fr = 0 ∧
      (((leftQueued.perform (.issue (.ofList [.io]))).machine.issue
        (.ofList [.co, .mai])).machine.executeStep.machine.register .fr = 1) := by
  have hLaw := (flags_of_refusal reaches_leftQueued (c := .issue (.ofList [.io])) trivial
    (by decide)).2.2
  have hStored := hLaw _ .start (.ofList [.co, .mai]) rfl rfl
  exact ⟨rfl, rfl, hStored.trans rfl⟩

/-- So a refused half does not undo what the word in front of it was to do. -/
theorem not_forall_flags_kept : ¬ ∀ (m : Machine Panel) (c : Call) (w : ControlWord),
    Reaches HalvesAndLoads (powerOn {} Panel.blank) m → c.IsDecoding →
      (m.perform c).fault ≠ none → w.has .eo = false →
        ((m.perform c).machine.issue w).fault = none →
          ((m.perform c).machine.issue w).machine.executeStep.machine.register .fr =
            (m.perform c).machine.register .fr := by
  intro h
  have hSame := h leftQueued (.issue (.ofList [.io])) (.ofList [.co, .mai]) reaches_leftQueued
    trivial (by decide) rfl rfl
  exact absurd hSame (by decide)

theorem word_issue (hRun : m.halted = false) (hFault : (m.issue w).fault = none) :
    (m.issue w).machine.word = some w := by
  rcases issue_cases (m := m) w hRun with ⟨-, hEq⟩ | ⟨-, e, -, hEq⟩ | ⟨-, -, hEq⟩
  · rw [hEq]
  · rw [hEq] at hFault
    cases hFault
  · rw [hEq]
    rfl

theorem word_of_decoding (hHalf : c.IsDecoding) (hRun : m.halted = false)
    (hFault : (m.perform c).fault = none) : (m.perform c).machine.word ≠ none := by
  cases c with
  | issue w =>
      change (m.issue w).machine.word ≠ none
      rw [word_issue hRun hFault]
      exact nofun
  | decode =>
      change m.decodeStep.fault = none at hFault
      change m.decodeStep.machine.word ≠ none
      rw [decodeStep_eq hRun] at hFault ⊢
      rw [word_issue ((halted_refreshProgram m).trans hRun) hFault]
      exact nofun
  | _ => exact hHalf.elim

def QueueCleared (m : Machine δ) : Prop := m.word = none → m.queued = none

theorem QueueCleared.decoding (h : m.QueueCleared) (hMarked : m.WellMarked) (hWord : m.word = none)
    (hHalf : c.IsDecoding) : (m.perform c).machine.QueueCleared := by
  cases hRun : m.halted with
  | true =>
      have hSame : (m.perform c).machine = m := by
        cases c with
        | issue w => exact congrArg Transition.machine (issue_of_halted hRun w)
        | decode => exact congrArg Transition.machine (decodeStep_of_halted hRun)
        | _ => exact hHalf.elim
      rwa [hSame]
  | false =>
      intro hNone
      have hFault : (m.perform c).fault ≠ none :=
        fun hFault => word_of_decoding hHalf hRun hFault hNone
      exact (hMarked.drops hHalf hFault).queued.trans (h hWord)

theorem QueueCleared.executeStep (h : m.QueueCleared) (hMarked : m.WellMarked) :
    m.executeStep.machine.QueueCleared := by
  by_cases hNothing : m.halted = true ∨ m.word = none
  · rwa [executeStep_of_nothing hNothing]
  · obtain ⟨hRun, hWord⟩ := not_or.mp hNothing
    obtain ⟨w, hWord⟩ := Option.ne_none_iff_exists'.mp hWord
    exact fun _ => (atRest_executeStep ((Bool.not_eq_true _).mp hRun) hWord
      hMarked.mark_of_not_mem).pending

theorem QueueCleared.perform (h : m.QueueCleared) (hMarked : m.WellMarked)
    (hAllowed : m.TakingTurns c) : (m.perform c).machine.QueueCleared := by
  cases c with
  | decode => exact h.decoding hMarked hAllowed trivial
  | issue w => exact h.decoding hMarked hAllowed trivial
  | execute => exact h.executeStep hMarked
  | loadProgram bytes offset => exact (perform_load h fun _ => h).1 bytes offset
  | loadImage image => exact (perform_load h fun _ => h).2 image
  | _ => exact hAllowed.elim

theorem queueCleared_of_takingTurns {config : MachineConfig} {device : δ}
    (h : Reaches TakingTurns (powerOn config device) m) : m.QueueCleared := by
  have hBoth : m.WellMarked ∧ m.QueueCleared := by
    refine h.induct (P := fun m => m.WellMarked ∧ m.QueueCleared)
      ⟨wellMarked_powerOn config device, fun _ => (atRest_powerOn config device).pending⟩ ?_
    rintro m c ⟨hMarked, hCleared⟩ hAllowed
    exact ⟨hMarked.perform c, hCleared.perform hMarked hAllowed⟩
  exact hBoth.2

/-- As long as decoding and executing take turns, nothing of a refused half is left: a later cycle
whose word does not ask for flags leaves them as they are. -/
theorem flags_of_takingTurns {config : MachineConfig} {device : δ}
    (h : Reaches TakingTurns (powerOn config device) m) (hHalf : c.IsDecoding)
    (hAllowed : m.TakingTurns c) (hFault : (m.perform c).fault ≠ none) {r : Machine δ}
    (hReaches : Reaches Fruitless (m.perform c).machine r) (hEo : w.has .eo = false)
    (hIssue : (r.issue w).fault = none) :
    (r.issue w).machine.executeStep.machine.register .fr =
      (m.perform c).machine.register .fr := by
  have hWord : m.word = none := by
    cases c with
    | decode | issue w => exact hAllowed
    | _ => exact hHalf.elim
  have hDrops := (wellMarked_of_reaches h).drops hHalf hFault
  have hIdles := hDrops.idles.of_reaches hReaches
  rw [queueCleared_of_takingTurns h hWord] at hIdles
  rw [hIdles.flags_cycle hEo hIssue, hDrops.flags]
  exact ite_self _

end Machine

end Microbus
