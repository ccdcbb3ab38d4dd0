import Mathlib.Logic.Function.Iterate
import Microbus.Proofs.Emulator.Outcomes

/-! # One trajectory

However an emulator is driven, by cycles, instructions and runs with breakpoints, pauses and limits
between them, its machine is always the one it was made of after as many cycles as were counted. The
run of a fresh emulator without breakpoints therefore agrees with the plain run of its machine.
-/

namespace Microbus
set_option autoImplicit false

variable {δ α : Type} [OutputDevice δ]

namespace Machine

structure Walks (m : Machine δ) (cycles : Nat) (m' : Machine δ) : Prop where
  machine : m' = next^[cycles] m
  fault : ∀ k < cycles, (next^[k] m).stepCycle.fault = none

variable {m m' : Machine δ} {n : Nat}

theorem Walks.start : m.Walks 0 m := ⟨rfl, by simp⟩

theorem Walks.next (h : m.Walks n m') (hFault : m'.stepCycle.fault = none) :
    m.Walks (n + 1) m'.next := by
  refine ⟨?_, ?_⟩
  · rw [h.machine, Function.iterate_succ_apply']
  · intro k hk
    rcases Nat.lt_succ_iff_lt_or_eq.mp hk with hk | rfl
    · exact h.fault k hk
    · rwa [← h.machine]

end Machine

namespace Emulator

/-- The machine of an emulator is another one after the cycles counted so far; at a fault, it is
what the cycle behind them left when it failed. -/
def Outcome.Traces (m : Machine δ) (o : Outcome δ α) : Prop :=
  match o.result with
  | .error (.fault cause) => ∃ m', m.Walks o.emulator.cycles m' ∧
      m'.stepCycle.fault = some cause ∧ o.emulator.machine = m'.next
  | _ => m.Walks o.emulator.cycles o.emulator.machine

section

variable {m : Machine δ} {e e' : Emulator δ}

theorem Advances.walks (h : e.Advances e') (hWalks : m.Walks e.cycles e.machine) :
    m.Walks e'.cycles e'.machine := by
  rw [h.cycles, h.machine]
  exact hWalks.next h.fault

theorem Fails.traces {cause : Fault} (h : e.Fails cause e')
    (hWalks : m.Walks e.cycles e.machine) :
    (⟨e', .error (.fault cause)⟩ : Outcome δ α).Traces m :=
  ⟨e.machine, by rwa [h.cycles], h.fault, h.machine⟩

theorem traces_microstep (hWalks : m.Walks e.cycles e.machine) : e.microstep.Traces m := by
  rcases e.microstep_cases with ⟨-, hStep⟩ | ⟨-, e', hAdvances, hStep⟩ |
    ⟨-, e', cause, hFails, hStep⟩
  · rw [hStep]
    exact hWalks
  · rw [hStep]
    exact hAdvances.walks hWalks
  · rw [hStep]
    exact hFails.traces hWalks

theorem traces_microstepsToBoundary (budget : Nat) (hWalks : m.Walks e.cycles e.machine) :
    (e.microstepsToBoundary budget).Traces m := by
  induction budget generalizing e with
  | zero => exact hWalks
  | succ budget ih =>
      have hStep := traces_microstep hWalks
      simp only [microstepsToBoundary]
      split
      · exact hStep
      · next hOk =>
          split
          · exact hStep
          · rw [Outcome.Traces, hOk] at hStep
            exact ih hStep

theorem Runs.traces {limit budget : Nat} {o : Outcome δ RunState} (h : Runs limit e budget o)
    (hWalks : m.Walks e.cycles e.machine) : o.Traces m := by
  induction h with
  | rests | stops | spent => exact hWalks
  | fails _ _ hFails => exact hFails.traces hWalks
  | advances _ _ hAdvances _ ih => exact ih (hAdvances.walks hWalks)

theorem traces_act (a : Action) (hWalks : m.Walks e.cycles e.machine) : (e.act a).Traces m := by
  cases a with
  | cycle => exact traces_microstep hWalks
  | instruction => exact traces_microstepsToBoundary 8 hWalks
  | run =>
      have hRun := (runs_runWithin e.limit (e.limit - e.cycles) e).traces hWalks
      rw [Outcome.Traces] at hRun ⊢
      simp only [act, run]
      cases hResult : (runWithin e.limit e (e.limit - e.cycles)).result with
      | ok state =>
          rw [hResult] at hRun
          exact hRun
      | error err =>
          rw [hResult] at hRun
          cases err with
          | fault cause => exact hRun
          | cycleLimit limit => exact hRun
          | clockRate rate => exact hRun
  | addBreakpoint address =>
      change m.Walks (e.addBreakpoint address).cycles (e.addBreakpoint address).machine
      unfold addBreakpoint
      split
      · exact hWalks
      · exact hWalks
  | removeBreakpoint address => exact hWalks
  | proceed => exact hWalks
  | pause => exact hWalks

theorem traces_actAll (as : List Action) (hWalks : m.Walks e.cycles e.machine) :
    (e.actAll as).Traces m := by
  induction as generalizing e with
  | nil => exact hWalks
  | cons a as ih =>
      have hAct := traces_act a hWalks
      simp only [actAll]
      split
      · exact hAct
      · next hOther =>
          rw [Outcome.Traces] at hAct
          split at hAct
          · next cause hFault => exact absurd hFault (hOther cause)
          · exact ih hAct

end

/-- A run of an emulator ends as the run of a machine does for the same number of cycles: at a halt
with the cycles counted, at the limit without one, and at a fault with that fault. -/
def Outcome.Agrees (limit : Nat) (o : Outcome δ RunState) (p : Progress δ) : Prop :=
  o.emulator.machine = p.machine ∧
    match p.result with
    | .ok cycles => o.emulator.cycles = cycles ∧
        if p.machine.halted then o.result = .ok .halted
        else cycles = limit ∧ o.result = .error (.cycleLimit limit)
    | .error cause => o.result = .error (.fault cause)

omit [OutputDevice δ] in
theorem not_stops {e : Emulator δ} (h : e.breakpoints = []) : ¬ e.Stops := by
  rintro ⟨⟨-, hPc⟩, -⟩
  rw [h] at hPc
  cases hPc

omit [OutputDevice δ] in
theorem running_iff {e : Emulator δ}
    (hState : e.state = if e.machine.halted then .halted else .running) :
    e.state = .running ↔ e.machine.halted = false := by
  cases hHalted : e.machine.halted <;> simp [hState, hHalted]

theorem Runs.agrees {e : Emulator δ} {limit budget : Nat} {o : Outcome δ RunState}
    (h : Runs limit e budget o) (past : List Event) (hBreakpoints : e.breakpoints = [])
    (hState : e.state = if e.machine.halted then .halted else .running)
    (hBudget : e.cycles + budget = limit) :
    o.Agrees limit (e.machine.cyclesToHalt e.cycles past budget) := by
  induction h generalizing past with
  | @rests e budget hRests =>
      have hHalted : e.machine.halted = true := by
        rw [← Bool.not_eq_false, ← running_iff hState]
        exact hRests
      rw [hHalted] at hState
      cases budget <;> simp [Outcome.Agrees, Machine.cyclesToHalt, hHalted, hState]
  | stops _ hStops => exact absurd hStops (not_stops hBreakpoints)
  | @spent e hRunning _ =>
      refine ⟨rfl, rfl, ?_⟩
      simp only [Machine.cyclesToHalt, (running_iff hState).mp hRunning]
      exact ⟨hBudget, trivial⟩
  | @fails e e' budget cause hRunning _ hFails =>
      have hFault : e.machine.stepCycle.fault = some cause := hFails.fault
      simp only [Machine.cyclesToHalt, (running_iff hState).mp hRunning, hFault, Bool.false_eq_true,
        if_false]
      exact ⟨hFails.machine, rfl⟩
  | @advances e e' budget o hRunning _ hAdvances _ ih =>
      have hFault : e.machine.stepCycle.fault = none := hAdvances.fault
      have hMachine : e'.machine = e.machine.stepCycle.machine := hAdvances.machine
      have hCycles : e'.cycles = e.cycles + 1 := hAdvances.cycles
      have hState' : e'.state = if e'.machine.halted then .halted else .running := by
        rw [hAdvances.state, hAdvances.machine]
        exact congrArg _ hRunning
      have hAgrees := ih (e.machine.stepCycle.events.reverse ++ past)
        (hAdvances.breakpoints.trans hBreakpoints) hState' (by omega)
      rw [hMachine, hCycles] at hAgrees
      simpa only [Machine.cyclesToHalt, (running_iff hState).mp hRunning, hFault, Bool.false_eq_true,
        if_false] using hAgrees

/-- A fresh emulator stays on the trajectory of its machine whatever is done to it, and its run
without breakpoints ends as the run of the machine does. -/
theorem trajectory_ofMachine (m : Machine δ) (journal : Journal) :
    (∀ maxCycles as, ((ofMachine m maxCycles journal).actAll as).Traces m) ∧
    ∀ limit, (ofMachine m (some limit) journal).run.Agrees limit (m.runUntilHalt limit) := by
  refine ⟨?_, ?_⟩
  · intro maxCycles as
    exact traces_actAll as .start
  · intro limit
    exact (runs_runWithin limit limit _).agrees [] rfl rfl (Nat.zero_add limit)

end Emulator

end Microbus
