import Mathlib.Logic.Function.Iterate
import Microbus.Output.Panel
import Microbus.Proofs.Calls
import Microbus.Proofs.Emulator.Outcomes

/-! # Breakpoints

A run pauses in front of an instruction at a breakpoint, with one exemption: the breakpoint at which
a run stopped last is passed by the next run, once. The exemption is not tied to the place in the
program. It is given up when a run looks at the start of an instruction, so that single cycles in
between leave it standing, and the run behind them can come back to the breakpoint and pass it.
-/

namespace Microbus.Emulator
set_option autoImplicit false

open Machine (next)

variable {δ : Type} [OutputDevice δ] {e e' : Emulator δ} {k : Nat}

structure PausesAfter (e : Emulator δ) (k : Nat) (o : Outcome δ RunState) : Prop where
  result : o.result = .ok .paused
  cycles : o.emulator.cycles = e.cycles + k
  machine : o.emulator.machine = next^[k] e.machine

/-- The breakpoint in front of which a run stands after a number of cycles is the one that it may
pass: a run stopped there last, and here no instruction was about to be fetched before. -/
structure Exempts (e : Emulator δ) (k : Nat) : Prop where
  resumedAt : e.resumedAt = some ((next^[k] e.machine).register .pc)
  first : ∀ j < k, (next^[j] e.machine).counter ≠ .first

theorem Exempts.eq_zero (h : e.Exempts k) (hFirst : e.machine.counter = .first) : k = 0 := by
  by_contra hLater
  exact h.first 0 (Nat.pos_of_ne_zero hLater) hFirst

theorem exempts_zero_iff : e.Exempts 0 ↔ e.resumedAt = some (e.machine.register .pc) :=
  ⟨fun h => h.resumedAt, fun h => ⟨h, by simp⟩⟩

theorem exempts_of_not_stops (hStops : ¬ e.Stops) (hAt : AtBreakpoint e.breakpoints e.machine) :
    e.Exempts 0 := by
  rw [exempts_zero_iff]
  by_contra hResumed
  exact hStops ⟨hAt, hResumed⟩

theorem Advances.iterate_next (h : e.passed.Advances e') (k : Nat) :
    next^[k] e'.machine = next^[k + 1] e.machine := by
  rw [h.machine, Function.iterate_succ_apply]
  rfl

theorem Advances.exempts_iff (h : e.passed.Advances e') : e'.Exempts k ↔ e.Exempts (k + 1) := by
  have hResumed : e'.resumedAt = if e.machine.counter = .first then none else e.resumedAt :=
    h.resumedAt
  constructor
  · rintro ⟨hAt, hFirst⟩
    rw [hResumed, h.iterate_next] at hAt
    split at hAt
    · cases hAt
    · next hCounter =>
        refine ⟨hAt, ?_⟩
        intro j hj
        cases j with
        | zero => exact hCounter
        | succ j =>
            rw [← h.iterate_next]
            exact hFirst j (Nat.lt_of_succ_lt_succ hj)
  · rintro ⟨hAt, hFirst⟩
    have hCounter : e.machine.counter ≠ .first := hFirst 0 (Nat.succ_pos k)
    refine ⟨?_, ?_⟩
    · rw [hResumed, if_neg hCounter, h.iterate_next]
      exact hAt
    · intro j hj
      rw [h.iterate_next]
      exact hFirst (j + 1) (Nat.succ_lt_succ hj)

theorem Advances.pausesAfter_iff {o : Outcome δ RunState} (h : e.passed.Advances e') :
    e'.PausesAfter k o ↔ e.PausesAfter (k + 1) o := by
  have hCycles : e'.cycles + k = e.cycles + (k + 1) := by
    rw [h.cycles]
    exact Nat.succ_add e.cycles k
  constructor
  · rintro ⟨hResult, hCount, hThere⟩
    exact ⟨hResult, hCount.trans hCycles, hThere.trans (h.iterate_next k)⟩
  · rintro ⟨hResult, hCount, hThere⟩
    exact ⟨hResult, hCount.trans hCycles.symm, hThere.trans (h.iterate_next k).symm⟩

section

variable {limit budget : Nat} {o : Outcome δ RunState}

theorem Runs.cycles_le (h : Runs limit e budget o) : e.cycles ≤ o.emulator.cycles := by
  induction h with
  | rests | stops | spent => exact Nat.le_refl _
  | fails _ _ hFails => exact Nat.le_of_eq hFails.cycles.symm
  | @advances e e' _ _ _ _ hAdvances _ ih =>
      have hCycles : e'.cycles = e.cycles + 1 := hAdvances.cycles
      omega

theorem Runs.eq_of_not_running (h : Runs limit e budget o) (hState : e.state ≠ .running) :
    o = ⟨e, .ok e.state⟩ := by
  cases h with
  | rests => rfl
  | stops hRunning | spent hRunning | fails hRunning | advances hRunning =>
      exact absurd hRunning hState

/-- A run that comes in front of an instruction at a breakpoint pauses there unless it is exempt. -/
theorem Runs.pausesAfter_iff (h : Runs limit e budget o) (hState : e.state = .running)
    (hReached : e.cycles + k ≤ o.emulator.cycles) (hAwake : (next^[k] e.machine).halted = false)
    (hAt : AtBreakpoint e.breakpoints (next^[k] e.machine)) :
    e.PausesAfter k o ↔ ¬ e.Exempts k := by
  induction h generalizing k with
  | rests hRests => exact absurd hState hRests
  | @stops e _ _ hStops =>
      obtain rfl : k = 0 := by
        have hCount : e.cycles + k ≤ e.cycles := hReached
        omega
      rw [exempts_zero_iff]
      exact iff_of_true ⟨rfl, rfl, rfl⟩ hStops.2
  | @spent e _ hStops =>
      obtain rfl : k = 0 := by
        have hCount : e.cycles + k ≤ e.cycles := hReached
        omega
      refine iff_of_false ?_ (not_not_intro (exempts_of_not_stops hStops hAt))
      rintro ⟨hResult, -, -⟩
      cases hResult
  | @fails e e' _ _ _ hStops hFails =>
      obtain rfl : k = 0 := by
        have hCount : e.cycles + k ≤ e'.cycles := hReached
        have hCycles : e'.cycles = e.cycles := hFails.cycles
        omega
      refine iff_of_false ?_ (not_not_intro (exempts_of_not_stops hStops hAt))
      rintro ⟨hResult, -, -⟩
      cases hResult
  | @advances e e' budget o _ hStops hAdvances hRest ih =>
      have hCycles : e'.cycles = e.cycles + 1 := hAdvances.cycles
      have hBreakpoints : e'.breakpoints = e.breakpoints := hAdvances.breakpoints
      cases k with
      | zero =>
          refine iff_of_false ?_ (not_not_intro (exempts_of_not_stops hStops hAt))
          rintro ⟨-, hCount, -⟩
          have hPast := hRest.cycles_le
          omega
      | succ k =>
          rw [← hAdvances.pausesAfter_iff, ← hAdvances.exempts_iff]
          rw [← hAdvances.iterate_next] at hAwake hAt
          have hState' : e'.state = .running := by
            by_contra hOver
            rw [hRest.eq_of_not_running hOver] at hReached
            obtain rfl : k = 0 := by
              have hCount : e.cycles + (k + 1) ≤ e'.cycles := hReached
              omega
            have hRuns : e'.machine.halted = false := hAwake
            have hNow := hAdvances.state
            rw [← hAdvances.machine, hRuns] at hNow
            exact hOver (hNow.trans hState)
          exact ih hState' (by omega) hAwake (hBreakpoints ▸ hAt)

end

/-- A run that comes in front of an instruction at a breakpoint pauses there, before any cycle of it,
unless the exemption reaches that far; a run that begins in front of an instruction is exempt from
its first cycle at most. -/
theorem pausesAfter_run_iff (hState : e.state = .running)
    (hReached : e.cycles + k ≤ e.run.emulator.cycles)
    (hAwake : (next^[k] e.machine).halted = false)
    (hAt : AtBreakpoint e.breakpoints (next^[k] e.machine)) :
    (e.PausesAfter k e.run ↔ ¬ e.Exempts k) ∧
      (e.machine.counter = .first → 0 < k → e.PausesAfter k e.run) := by
  have hPauses : e.PausesAfter k e.run ↔ ¬ e.Exempts k :=
    (runs_runWithin e.limit (e.limit - e.cycles) e).pausesAfter_iff hState hReached hAwake hAt
  refine ⟨hPauses, ?_⟩
  intro hFirst hLater
  exact hPauses.mpr fun hExempt => Nat.ne_of_gt hLater (hExempt.eq_zero hFirst)

def midJump : Emulator Panel :=
  ((ofMachine (Machine.loaded {} Panel.blank [0xa0, 0]) none (.opened none)).actAll
    [.addBreakpoint 0, .run, .cycle, .proceed]).emulator

theorem pausesAfter_run_midJump :
    ¬ midJump.PausesAfter 4 midJump.run ∧ midJump.PausesAfter 9 midJump.run := by
  have hPassed := (pausesAfter_run_iff (e := midJump) (k := 4) (by decide +kernel)
    (by decide +kernel) (by decide +kernel) ⟨by decide +kernel, by decide +kernel⟩).1
  have hPaused := (pausesAfter_run_iff (e := midJump) (k := 9) (by decide +kernel)
    (by decide +kernel) (by decide +kernel) ⟨by decide +kernel, by decide +kernel⟩).1
  refine ⟨?_, ?_⟩
  · have hExempt : midJump.Exempts 4 := ⟨by decide +kernel, by decide +kernel⟩
    exact fun hPauses => hPassed.mp hPauses hExempt
  · have hBack : (next^[4] midJump.machine).counter = .first := by decide +kernel
    exact hPaused.mpr fun hExempt => hExempt.first 4 (by decide) hBack

/-- So a run can come back to a breakpoint and go through it. -/
theorem not_forall_fetched_first : ¬ ∀ (m : Machine Panel) (as : List Action) (e : Emulator Panel)
    (k : Nat), ((ofMachine m none (.opened none)).actAll as).emulator = e → e.state = .running →
      (next^[k] e.machine).halted = false → AtBreakpoint e.breakpoints (next^[k] e.machine) →
        e.cycles + k < e.run.emulator.cycles → k = 0 := by
  intro h
  have hFirst := h _ _ midJump 4 rfl (by decide +kernel) (by decide +kernel)
    ⟨by decide +kernel, by decide +kernel⟩ (by decide +kernel)
  cases hFirst

end Microbus.Emulator
