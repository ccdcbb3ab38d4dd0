import Microbus.Output.Panel
import Microbus.Proofs.Calls
import Microbus.Proofs.Instruction.Fetch
import Microbus.Proofs.Marks

/-! # The history of instructions

Which instructions the history holds is stated on the trajectory of the machine: those whose fetch
began four cycles or more ago, as memory and program counter were when it began. The entry is put
together in the middle of the instruction, from registers, and can be trusted because a cycle comes
to the dispatch step only behind a whole fetch. However an emulator is driven, its history is the
last part of that list.
-/

namespace Microbus
set_option autoImplicit false

namespace History

theorem size_eq_length (h : History) : h.size = h.toList.length := Array.length_toList.symm

theorem toList_push_of_drop {h : History} {l : List HistoryEntry}
    (hLast : h.toList = l.drop (l.length - capacity)) (x : HistoryEntry) :
    (h.push x).toList = (l ++ [x]).drop ((l ++ [x]).length - capacity) := by
  have hSize : h.size = l.length - (l.length - capacity) := by
    rw [size_eq_length, hLast, List.length_drop]
  have hPos : 0 < capacity := by decide
  rw [toList_push, hLast]
  generalize capacity = c at hSize hPos ⊢
  simp only [List.length_append, List.length_singleton]
  rw [List.drop_append_of_le_length (by omega)]
  split
  · rw [List.drop_drop, show l.length - c + 1 = l.length + 1 - c by omega]
  · rw [show l.length - c = 0 by omega, show l.length + 1 - c = 0 by omega]

end History

variable {δ : Type} [OutputDevice δ]

namespace Machine

def dispatched (m : Machine δ) (cycles : Nat) : List HistoryEntry :=
  (List.range (cycles - 4)).filterMap fun k =>
    if (next^[k] m).Fetches then some (next^[k] m).instructionAt else none

theorem dispatched_succ (m : Machine δ) (n : Nat) : m.dispatched (n + 1) = m.dispatched n ++
    if 4 ≤ n ∧ (next^[n - 4] m).Fetches then [(next^[n - 4] m).instructionAt] else [] := by
  rw [dispatched, dispatched]
  by_cases hFour : 4 ≤ n
  · rw [show n + 1 - 4 = n - 4 + 1 by omega, List.range_succ, List.filterMap_append]
    congr 1
    by_cases hFetches : (next^[n - 4] m).Fetches
    · simp [hFour, hFetches]
    · simp [hFetches]
  · rw [show n + 1 - 4 = 0 by omega, show n - 4 = 0 by omega]
    simp [hFour]

variable {m m' : Machine δ} {n k : Nat}

theorem next_of_halted (h : m.halted = true) : m.next = m := by
  rw [next, stepCycle_of_halted h]

theorem Walks.of_succ (h : m.Walks (n + 1) m') :
    m.Walks n (Machine.next^[n] m) ∧ m' = (Machine.next^[n] m).next ∧
      (Machine.next^[n] m).stepCycle.fault = none :=
  ⟨⟨rfl, fun k hk => h.fault k (Nat.lt_succ_of_lt hk)⟩,
    h.machine.trans (Function.iterate_succ_apply' Machine.next n m), h.fault n (Nat.lt_succ_self n)⟩

theorem Walks.take (h : m.Walks n m') (hk : k ≤ n) : m.Walks k (Machine.next^[k] m) :=
  ⟨rfl, fun j hj => h.fault j (Nat.lt_of_lt_of_le hj hk)⟩

theorem awake_iterate (hk : k ≤ n) (hRun : (next^[n] m).halted = false) :
    (next^[k] m).halted = false := by
  induction hk with
  | refl => exact hRun
  | @step n _ ih =>
      apply ih
      rw [Function.iterate_succ_apply'] at hRun
      cases hHalted : (next^[n] m).halted with
      | false => rfl
      | true =>
          rw [next_of_halted hHalted, hHalted] at hRun
          cases hRun

theorem Walks.quiet (hm : m.Quiet) (h : m.Walks n m') (hRun : m'.halted = false) : m'.Quiet := by
  induction n generalizing m' with
  | zero => exact h.machine ▸ hm
  | succ n ih =>
      obtain ⟨hWalks, rfl, hFault⟩ := h.of_succ
      have hBefore : (Machine.next^[n] m).halted = false := by
        apply awake_iterate (Nat.le_succ n)
        rwa [Function.iterate_succ_apply']
      rcases (ih hWalks hBefore).atRest_stepCycle hBefore hFault with hHalted | hRest
      · rw [Machine.next, hHalted] at hRun
        cases hRun
      · exact hRest.quiet

theorem Walks.exists_fetch (hCounter : m.counter = .first) (h : m.Walks n m')
    (hRun : m'.halted = false) :
    m'.counter.val ≤ n ∧ (Machine.next^[n - m'.counter.val] m).Fetches := by
  induction n generalizing m' with
  | zero =>
      obtain rfl := h.machine
      rw [hCounter]
      exact ⟨Nat.le_refl 0, hRun, hCounter⟩
  | succ n ih =>
      obtain ⟨hWalks, rfl, hFault⟩ := h.of_succ
      have hBefore : (Machine.next^[n] m).halted = false := by
        apply awake_iterate (Nat.le_succ n)
        rwa [Function.iterate_succ_apply']
      rcases counter_stepCycle hBefore hFault with hHalted | hFirst | hNext
      · rw [Machine.next, hHalted] at hRun
        cases hRun
      · rw [Machine.next, hFirst]
        refine ⟨Nat.zero_le _, ?_⟩
        rw [show n + 1 - MicroStep.first.val = n + 1 from rfl, Function.iterate_succ_apply']
        exact ⟨hRun, hFirst⟩
      · obtain ⟨hLate, hFetches⟩ := ih hWalks hBefore
        rw [Machine.next, hNext, Nat.add_sub_add_right]
        exact ⟨Nat.add_le_add_right hLate 1, hFetches⟩

/-- The dispatch step is reached four cycles behind the beginning of a fetch and at no other time,
and the registers then tell which instruction was fetched. -/
theorem Walks.dispatch_iff (hm : m.Quiet) (hCounter : m.counter = .first) (h : m.Walks n m')
    (hRun : m'.halted = false) :
    (m'.counter = .dispatch ↔ 4 ≤ n ∧ (Machine.next^[n - 4] m).Fetches) ∧
      (m'.counter = .dispatch → (⟨m'.register .pc - 2, m'.register .ip, m'.register .op⟩ :
        HistoryEntry) = (Machine.next^[n - 4] m).instructionAt) := by
  have hBack : 4 ≤ n → (Machine.next^[n - 4] m).Fetches → (Machine.next^[n - 4] m).Fetching 4 m' ∧
      m'.core = (Machine.next^[n - 4] m).settled.core.fetched := by
    intro hFour hFetches
    have hQuiet := (h.take (Nat.sub_le n 4)).quiet hm hFetches.1
    obtain ⟨m₄, hFetching, hCore⟩ := hQuiet.fetching hFetches
    have hSame : m₄ = m' := by
      rw [hFetching.walks.machine, h.machine, ← Function.iterate_add_apply,
        Nat.add_sub_cancel' hFour]
    exact hSame ▸ ⟨hFetching, hCore⟩
  have hIff : m'.counter = .dispatch ↔ 4 ≤ n ∧ (Machine.next^[n - 4] m).Fetches := by
    constructor
    · intro hDispatch
      have hExists := h.exists_fetch hCounter hRun
      rwa [hDispatch] at hExists
    · rintro ⟨hFour, hFetches⟩
      exact Fin.ext (hBack hFour hFetches).1.counter
  refine ⟨hIff, ?_⟩
  intro hDispatch
  obtain ⟨hFour, hFetches⟩ := hIff.mp hDispatch
  exact instruction_of_fetched (hBack hFour hFetches).2

end Machine

namespace Emulator

open Machine

omit [OutputDevice δ] in
theorem history_afterCycle (e : Emulator δ) (m : Machine δ) :
    (e.afterCycle m).history = e.history := by
  unfold afterCycle
  dsimp only
  split <;> rfl

theorem history_microstep (e : Emulator δ) (hState : e.state ≠ .halted) :
    e.microstep.emulator.history =
      if e.machine.counter = .dispatch then
        e.history.push ⟨e.machine.register .pc - 2, e.machine.register .ip, e.machine.register .op⟩
      else e.history := by
  have hReady : (if e.machine.counter = .dispatch then e.recordInstruction else e).history =
      if e.machine.counter = .dispatch then
        e.history.push ⟨e.machine.register .pc - 2, e.machine.register .ip, e.machine.register .op⟩
      else e.history := by
    split <;> rfl
  rw [← hReady]
  unfold microstep
  rw [if_neg hState]
  dsimp only
  split
  · rfl
  · rw [history_afterCycle]

theorem result_microstep (e : Emulator δ) : e.microstep.result = .ok () ∨
    ∃ cause, e.microstep.result = .error (.fault cause) := by
  rcases e.microstep_cases with ⟨-, hStep⟩ | ⟨-, e', -, hStep⟩ | ⟨-, e', cause, -, hStep⟩
  · exact .inl (congrArg Outcome.result hStep)
  · exact .inl (congrArg Outcome.result hStep)
  · exact .inr ⟨cause, congrArg Outcome.result hStep⟩

section

variable {P : Emulator δ → Prop}
  (hCycle : ∀ e, P e → e.microstep.result = .ok () → P e.microstep.emulator)

include hCycle

theorem microstepsToBoundary_induct {e : Emulator δ} (h : P e) (budget : Nat)
    (hNoFault : ∀ cause, (e.microstepsToBoundary budget).result ≠ .error (.fault cause)) :
    P (e.microstepsToBoundary budget).emulator := by
  induction budget generalizing e with
  | zero => exact h
  | succ budget ih =>
      simp only [microstepsToBoundary] at hNoFault ⊢
      rcases e.result_microstep with hOk | ⟨cause, hFault⟩
      · have hNext := hCycle e h hOk
        simp only [hOk] at hNoFault ⊢
        split
        · exact hNext
        · next hMoves =>
            rw [if_neg hMoves] at hNoFault
            exact ih hNext hNoFault
      · simp only [hFault] at hNoFault
        exact absurd rfl (hNoFault cause)

theorem runWithin_induct (hCheck : ∀ e, P e → e.state = .running → P e.checkBreakpoint)
    {e : Emulator δ} (h : P e) (limit budget : Nat)
    (hNoFault : ∀ cause, (runWithin limit e budget).result ≠ .error (.fault cause)) :
    P (runWithin limit e budget).emulator := by
  induction budget generalizing e with
  | zero =>
      simp only [runWithin]
      split
      · next hRunning =>
          split
          · exact hCheck e h hRunning
          · exact hCheck e h hRunning
      · exact h
  | succ budget ih =>
      simp only [runWithin] at hNoFault ⊢
      split
      · next hRunning =>
          have hChecked := hCheck e h hRunning
          rw [if_pos hRunning] at hNoFault
          split
          · next hGoesOn =>
              rw [if_pos hGoesOn] at hNoFault
              rcases e.checkBreakpoint.result_microstep with hOk | ⟨cause, hFault⟩
              · simp only [hOk] at hNoFault ⊢
                exact ih (hCycle _ hChecked hOk) hNoFault
              · simp only [hFault] at hNoFault
                exact absurd rfl (hNoFault cause)
          · exact hChecked
      · exact h

end

/-- What may be done while nobody edits the machine: a run may be paused or let go on, but not once
the machine is halted. -/
def Permits (e : Emulator δ) : Action → Prop
  | .proceed | .pause => e.machine.halted = false
  | _ => True

inductive Driven (e₀ : Emulator δ) : Emulator δ → Prop
  | start : Driven e₀ e₀
  | act {e : Emulator δ} {a : Action} (hDriven : Driven e₀ e) (hPermits : e.Permits a)
      (hNoFault : ∀ cause, (e.act a).result ≠ .error (.fault cause)) :
      Driven e₀ (e.act a).emulator

structure Tells (m : Machine δ) (e : Emulator δ) : Prop where
  walks : m.Walks e.cycles e.machine
  halts : e.machine.halted = true → e.state = .halted
  history : e.history.toList =
    (m.dispatched e.cycles).drop ((m.dispatched e.cycles).length - History.capacity)

variable {m : Machine δ} {e : Emulator δ}

theorem Tells.microstep (hm : m.Quiet) (hCounter : m.counter = .first) (h : Tells m e)
    (hOk : e.microstep.result = .ok ()) : Tells m e.microstep.emulator := by
  have hHistory := e.history_microstep
  rcases e.microstep_cases with ⟨hState, hStep⟩ | ⟨hState, e', hAdvances, hStep⟩ |
    ⟨-, e', cause, -, hStep⟩
  · rw [hStep]
    exact h
  · have hRun : e.machine.halted = false := by
      cases hHalted : e.machine.halted with
      | false => rfl
      | true => exact absurd (h.halts hHalted) hState
    obtain ⟨hDispatch, hEntry⟩ := h.walks.dispatch_iff hm hCounter hRun
    have hNew := hHistory hState
    rw [hStep] at hNew ⊢
    refine ⟨hAdvances.walks h.walks, ?_, ?_⟩
    · intro hHalted
      rw [hAdvances.state, ← hAdvances.machine, if_pos hHalted]
    · rw [hAdvances.cycles, Machine.dispatched_succ]
      dsimp only at hNew ⊢
      rw [hNew]
      by_cases hNow : e.machine.counter = .dispatch
      · rw [if_pos hNow, if_pos (hDispatch.mp hNow), ← hEntry hNow]
        exact History.toList_push_of_drop h.history _
      · rw [if_neg hNow, if_neg (mt hDispatch.mpr hNow), List.append_nil]
        exact h.history
  · rw [hStep] at hOk
    cases hOk

theorem Tells.awake (h : Tells m e) (hState : e.state ≠ .halted) : e.machine.halted = false :=
  (Bool.not_eq_true _).mp (mt h.halts hState)

theorem Tells.checkBreakpoint (h : Tells m e) (hState : e.state = .running) :
    Tells m e.checkBreakpoint := by
  by_cases hStops : e.Stops
  · have hRun : e.stopped.machine.halted = false := h.awake (by simp [hState])
    rw [checkBreakpoint_of_stops hStops]
    exact ⟨h.walks, by simp [hRun], h.history⟩
  · rw [checkBreakpoint_of_not_stops hStops]
    exact ⟨h.walks, h.halts, h.history⟩

theorem Tells.act (hm : m.Quiet) (hCounter : m.counter = .first) (h : Tells m e) {a : Action}
    (hPermits : e.Permits a) (hNoFault : ∀ cause, (e.act a).result ≠ .error (.fault cause)) :
    Tells m (e.act a).emulator := by
  have hCycle : ∀ e, Tells m e → e.microstep.result = .ok () → Tells m e.microstep.emulator :=
    fun _ h hOk => h.microstep hm hCounter hOk
  cases a with
  | cycle =>
      rcases e.result_microstep with hOk | ⟨cause, hFault⟩
      · exact hCycle e h hOk
      · exact absurd hFault (hNoFault cause)
  | instruction => exact microstepsToBoundary_induct hCycle h 8 hNoFault
  | run =>
      refine runWithin_induct hCycle (fun _ h => h.checkBreakpoint) h _ _ ?_
      intro cause hFault
      exact hNoFault cause (congrArg (Except.map fun _ => ()) hFault)
  | addBreakpoint address =>
      simp only [Emulator.act, addBreakpoint]
      split
      · exact h
      · exact ⟨h.walks, h.halts, h.history⟩
  | removeBreakpoint address => exact ⟨h.walks, h.halts, h.history⟩
  | proceed =>
      have hRun : e.machine.halted = false := hPermits
      exact ⟨h.walks, by simp [Emulator.act, hRun], h.history⟩
  | pause =>
      have hRun : e.machine.halted = false := hPermits
      exact ⟨h.walks, by simp [Emulator.act, hRun], h.history⟩

theorem tells_ofMachine (h : m.Fetches) (maxCycles : Option Nat) (journal : Journal) :
    Tells m (ofMachine m maxCycles journal) := by
  refine ⟨Machine.Walks.start, ?_, ?_⟩
  · intro hHalted
    exact absurd (h.1.symm.trans hHalted) (by decide)
  · have hNone : m.dispatched 0 = [] := rfl
    change [] = (m.dispatched 0).drop _
    rw [hNone, List.drop_nil]

theorem Driven.tells (hm : m.Quiet) (h : m.Fetches) {maxCycles : Option Nat} {journal : Journal}
    (hDriven : Driven (ofMachine m maxCycles journal) e) : Tells m e := by
  induction hDriven with
  | start => exact tells_ofMachine h maxCycles journal
  | act _ hPermits hNoFault ih => exact ih.act hm h.2 hPermits hNoFault

/-- An emulator made around a machine in front of an instruction, with no word waiting, and driven
in any way without a fault holds the instructions that came to their fifth cycle, oldest first, and
of more than 256 of them the last 256: each with the program counter at the beginning of its fetch
and the two bytes that were in the memory there at that time. -/
theorem history_driven (config : MachineConfig) (device : δ) (cs : List Call)
    (maxCycles : Option Nat) (journal : Journal)
    (hWord : ((powerOn config device).performAll cs).word = none)
    (h : ((powerOn config device).performAll cs).Fetches)
    (hDriven : Driven (ofMachine ((powerOn config device).performAll cs) maxCycles journal) e) :
    let m := (powerOn config device).performAll cs
    let instructions := m.dispatched e.cycles
    m.Walks e.cycles e.machine ∧
      e.history.size = min instructions.length History.capacity ∧
      e.history.toList = instructions.drop (instructions.length - History.capacity) := by
  intro m instructions
  have hm : m.Quiet := ((wellMarked_powerOn config device).performAll cs).quiet hWord
  have hTells : Tells m e := hDriven.tells hm h
  have hSize : e.history.size = min (m.dispatched e.cycles).length History.capacity := by
    rw [History.size_eq_length, hTells.history, List.length_drop]
    omega
  exact ⟨hTells.walks, hSize, hTells.history⟩

def selfStore : Machine Panel :=
  (powerOn {} Panel.blank).performAll [.loadProgram [0x20, 0, 0x01, 0] 0]

theorem history_driven_selfStore :
    let e := ((ofMachine selfStore none (.opened none)).act .run).emulator
    e.machine.memory.read 0 = 0 ∧ e.history.toList = [⟨0, 0x20, 0⟩, ⟨2, 0x01, 0⟩] := by
  intro e
  have hOk : ((ofMachine selfStore none (.opened none)).act .run).result.isOk = true := by
    decide +kernel
  have hDriven : Driven (ofMachine selfStore none (.opened none)) e := by
    refine .act .start trivial ?_
    intro cause hFault
    rw [hFault] at hOk
    cases hOk
  have hHistory := (history_driven {} Panel.blank [.loadProgram [0x20, 0, 0x01, 0] 0] none
    (.opened none) (by decide +kernel) (by decide +kernel) hDriven).2.2
  have hCycles : e.cycles = 11 := by decide +kernel
  refine ⟨by decide +kernel, hHistory.trans ?_⟩
  rw [hCycles]
  decide +kernel

end Emulator

end Microbus
