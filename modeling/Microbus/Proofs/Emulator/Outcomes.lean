import Microbus.Emulator.Run

/-! # The outcomes of a turn

An emulator moves by single cycles of its machine, and a run is a loop whose turns check for a
breakpoint and then carry out one cycle. This module says once what a cycle and a turn can come to;
what is true of all cycles, instructions and runs is checked on these.
-/

namespace Microbus
set_option autoImplicit false

variable {δ : Type} [OutputDevice δ]

def Machine.next (m : Machine δ) : Machine δ := m.stepCycle.machine

theorem Machine.stepCycle_of_halted {m : Machine δ} (h : m.halted = true) :
    m.stepCycle = ⟨m, none, []⟩ := by
  simp [stepCycle, decodeStep, executeStep, h]

namespace Emulator

structure Advances (e e' : Emulator δ) : Prop where
  fault : e.machine.stepCycle.fault = none
  machine : e'.machine = e.machine.next
  cycles : e'.cycles = e.cycles + 1
  state : e'.state = if e.machine.next.halted then .halted else e.state
  breakpoints : e'.breakpoints = e.breakpoints
  resumedAt : e'.resumedAt = e.resumedAt

structure Fails (e : Emulator δ) (cause : Fault) (e' : Emulator δ) : Prop where
  fault : e.machine.stepCycle.fault = some cause
  machine : e'.machine = e.machine.next
  cycles : e'.cycles = e.cycles

omit [OutputDevice δ] in
theorem exists_recorded (e : Emulator δ) :
    ∃ history journal, (if e.machine.counter = .dispatch then e.recordInstruction else e) =
      { e with history := history, journal := journal } := by
  split
  · exact ⟨_, _, rfl⟩
  · exact ⟨_, _, rfl⟩

theorem microstep_cases (e : Emulator δ) :
    (e.state = .halted ∧ e.microstep = ⟨e, .ok ()⟩) ∨
    (e.state ≠ .halted ∧ ∃ e', e.Advances e' ∧ e.microstep = ⟨e', .ok ()⟩) ∨
    (e.state ≠ .halted ∧ ∃ e' cause, e.Fails cause e' ∧
      e.microstep = ⟨e', .error (.fault cause)⟩) := by
  by_cases hState : e.state = .halted
  · exact .inl ⟨hState, by simp [microstep, hState]⟩
  · refine .inr ?_
    obtain ⟨history, journal, hRecorded⟩ := e.exists_recorded
    simp only [microstep, if_neg hState, hRecorded]
    cases hFault : e.machine.stepCycle.fault with
    | some cause =>
        refine .inr ⟨hState, _, cause, ?_, rfl⟩
        exact ⟨hFault, rfl, rfl⟩
    | none =>
        refine .inl ⟨hState, _, ?_, rfl⟩
        cases hHalted : e.machine.stepCycle.machine.halted with
        | true =>
            simp only [afterCycle, hHalted, if_true]
            exact ⟨hFault, rfl, rfl, by simp [Machine.next, hHalted, note], rfl, rfl⟩
        | false =>
            simp only [afterCycle, hHalted, Bool.false_eq_true, if_false]
            exact ⟨hFault, rfl, rfl, by simp [Machine.next, hHalted], rfl, rfl⟩

/-! ## Turns of a run -/

def AtBreakpoint (breakpoints : List UInt8) (m : Machine δ) : Prop :=
  m.counter = .first ∧ m.register .pc ∈ breakpoints

def Stops (e : Emulator δ) : Prop :=
  AtBreakpoint e.breakpoints e.machine ∧ e.resumedAt ≠ some (e.machine.register .pc)

def stopped (e : Emulator δ) : Emulator δ :=
  { e with resumedAt := some (e.machine.register .pc), state := .paused }.note
    (.breakpoint (e.machine.register .pc))

/-- The emulator as a turn goes on with it: the place to be passed is forgotten as soon as any
instruction is about to be fetched. -/
def passed (e : Emulator δ) : Emulator δ :=
  { e with resumedAt := if e.machine.counter = .first then none else e.resumedAt }

omit [OutputDevice δ] in
theorem checkBreakpoint_of_stops {e : Emulator δ} (h : e.Stops) : e.checkBreakpoint = e.stopped := by
  obtain ⟨⟨hCounter, hPc⟩, hResumed⟩ := h
  simp [checkBreakpoint, hCounter, hPc, hResumed, stopped]

omit [OutputDevice δ] in
theorem checkBreakpoint_of_not_stops {e : Emulator δ} (h : ¬ e.Stops) :
    e.checkBreakpoint = e.passed := by
  unfold checkBreakpoint passed
  by_cases hCounter : e.machine.counter = .first
  · simp only [hCounter, if_true]
    split
    · rfl
    · next hResumed =>
        have hPc : e.machine.register .pc ∉ e.breakpoints :=
          fun hPc => h ⟨⟨hCounter, hPc⟩, hResumed⟩
        rw [if_neg hPc]
  · simp only [hCounter, if_false]

/-- How a run goes, turn by turn. A running emulator stops at a breakpoint, finds the limit spent, or
carries out a cycle, behind which the run goes on unless the cycle failed. -/
inductive Runs (limit : Nat) : Emulator δ → Nat → Outcome δ RunState → Prop
  | rests {e : Emulator δ} {budget : Nat} (hState : e.state ≠ .running) :
      Runs limit e budget ⟨e, .ok e.state⟩
  | stops {e : Emulator δ} {budget : Nat} (hState : e.state = .running) (hStops : e.Stops) :
      Runs limit e budget ⟨e.stopped, .ok .paused⟩
  | spent {e : Emulator δ} (hState : e.state = .running) (hStops : ¬ e.Stops) :
      Runs limit e 0 ⟨e.passed, .error (.cycleLimit limit)⟩
  | fails {e e' : Emulator δ} {budget : Nat} {cause : Fault} (hState : e.state = .running)
      (hStops : ¬ e.Stops) (hFails : e.passed.Fails cause e') :
      Runs limit e (budget + 1) ⟨e', .error (.fault cause)⟩
  | advances {e e' : Emulator δ} {budget : Nat} {o : Outcome δ RunState}
      (hState : e.state = .running) (hStops : ¬ e.Stops) (hAdvances : e.passed.Advances e')
      (hRest : Runs limit e' budget o) :
      Runs limit e (budget + 1) o

theorem runWithin_of_not_running {e : Emulator δ} (limit budget : Nat) (h : e.state ≠ .running) :
    runWithin limit e budget = ⟨e, .ok e.state⟩ := by
  cases budget <;> simp [runWithin, h]

theorem runWithin_of_stops {e : Emulator δ} (limit budget : Nat) (hState : e.state = .running)
    (hStops : e.Stops) : runWithin limit e budget = ⟨e.stopped, .ok .paused⟩ := by
  have hPaused : e.stopped.state = .paused := rfl
  cases budget <;> simp [runWithin, hState, checkBreakpoint_of_stops hStops, hPaused]

theorem runs_runWithin (limit budget : Nat) (e : Emulator δ) :
    Runs limit e budget (runWithin limit e budget) := by
  induction budget generalizing e with
  | zero =>
      by_cases hState : e.state = .running
      case neg => exact runWithin_of_not_running limit 0 hState ▸ .rests hState
      by_cases hStops : e.Stops
      case pos => exact runWithin_of_stops limit 0 hState hStops ▸ .stops hState hStops
      have hPassed : e.passed.state = .running := hState
      have hRun : runWithin limit e 0 = ⟨e.passed, .error (.cycleLimit limit)⟩ := by
        simp [runWithin, hState, checkBreakpoint_of_not_stops hStops, hPassed]
      exact hRun ▸ .spent hState hStops
  | succ rest ih =>
      by_cases hState : e.state = .running
      case neg => exact runWithin_of_not_running limit _ hState ▸ .rests hState
      by_cases hStops : e.Stops
      case pos => exact runWithin_of_stops limit _ hState hStops ▸ .stops hState hStops
      have hPassed : e.passed.state = .running := hState
      rcases e.passed.microstep_cases with ⟨hHalted, -⟩ | ⟨-, e', hAdvances, hStep⟩ |
        ⟨-, e', cause, hFails, hStep⟩
      · rw [hPassed] at hHalted
        cases hHalted
      · have hRun : runWithin limit e (rest + 1) = runWithin limit e' rest := by
          simp [runWithin, hState, checkBreakpoint_of_not_stops hStops, hPassed, hStep]
        exact hRun ▸ .advances hState hStops hAdvances (ih e')
      · have hRun : runWithin limit e (rest + 1) = ⟨e', .error (.fault cause)⟩ := by
          simp [runWithin, hState, checkBreakpoint_of_not_stops hStops, hPassed, hStep]
        exact hRun ▸ .fails hState hStops hFails

/-! ## Actions -/

/-- What can be done to an emulator: cycles, instructions and runs, and edits of the breakpoints and
of the state between them. A halted emulator can be told to go on as well. -/
inductive Action where
  | cycle
  | instruction
  | run
  | addBreakpoint (address : UInt8)
  | removeBreakpoint (address : UInt8)
  | proceed
  | pause

def act (e : Emulator δ) : Action → Outcome δ Unit
  | .cycle => e.microstep
  | .instruction => e.stepInstruction
  | .run => ⟨e.run.emulator, e.run.result.map fun _ => ()⟩
  | .addBreakpoint address => ⟨e.addBreakpoint address, .ok ()⟩
  | .removeBreakpoint address => ⟨e.removeBreakpoint address, .ok ()⟩
  | .proceed => ⟨{ e with state := .running }, .ok ()⟩
  | .pause => ⟨{ e with state := .paused }, .ok ()⟩

/-- Actions one after the other, up to the first fault of the machine. A run that spends its limit
does not end them. -/
def actAll (e : Emulator δ) : List Action → Outcome δ Unit
  | [] => ⟨e, .ok ()⟩
  | a :: rest =>
      match (e.act a).result with
      | .error (.fault _) => e.act a
      | _ => (e.act a).emulator.actAll rest

end Emulator

end Microbus
