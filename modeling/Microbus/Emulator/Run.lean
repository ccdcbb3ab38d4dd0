import Microbus.Emulator.Basic

/-! # Runs of the emulator

One cycle at a time, one instruction at a time, or until the machine halts, a breakpoint is
reached or the cycle limit is spent.
-/

namespace Microbus.Emulator
set_option autoImplicit false

variable {δ : Type} [OutputDevice δ]

structure Outcome (δ α : Type) where
  emulator : Emulator δ
  result : Except RunError α

/-- Puts the instruction at hand into the history and the journal. The fetch has moved the program
counter past both of its bytes. -/
def recordInstruction (e : Emulator δ) : Emulator δ :=
  let m := e.machine
  let entry : HistoryEntry := ⟨m.register .pc - 2, m.register .ip, m.register .op⟩
  { e with history := e.history.push entry }.note (.decoded entry)

def afterCycle (e : Emulator δ) (m : Machine δ) : Emulator δ :=
  let counted := { e with machine := m, cycles := e.cycles + 1 }
  if m.halted then { counted with state := .halted }.note (.halted counted.cycles) else counted

def microstep (e : Emulator δ) : Outcome δ Unit :=
  if e.state = .halted then ⟨e, .ok ()⟩
  else
    let ready := if e.machine.counter = .dispatch then e.recordInstruction else e
    let t := ready.machine.stepCycle
    let told := { ready with journal := ready.journal.noteEvents t.events }
    match t.fault with
    | some cause => ⟨{ told with machine := t.machine }, .error (.fault cause)⟩
    | none => ⟨told.afterCycle t.machine, .ok ()⟩

def microstepsToBoundary (e : Emulator δ) : Nat → Outcome δ Unit
  | 0 => ⟨e, .ok ()⟩
  | budget + 1 =>
      let o := e.microstep
      match o.result with
      | .error _ => o
      | .ok () =>
          if o.emulator.state = .halted ∨ o.emulator.machine.counter = .first then o
          else o.emulator.microstepsToBoundary budget

/-- Runs the current instruction to its end. The counter has eight values, so that eight cycles
always suffice. -/
def stepInstruction (e : Emulator δ) : Outcome δ Unit := e.microstepsToBoundary 8

/-- Stops in front of a breakpoint when an instruction is about to be fetched there. The one at
which the run stopped last is passed, but only once. -/
def checkBreakpoint (e : Emulator δ) : Emulator δ :=
  if e.machine.counter = .first then
    let pc := e.machine.register .pc
    let passed := { e with resumedAt := none }
    if e.resumedAt = some pc then passed
    else if pc ∈ e.breakpoints then
      { passed with resumedAt := some pc, state := .paused }.note (.breakpoint pc)
    else passed
  else e

def runWithin (limit : Nat) (e : Emulator δ) : Nat → Outcome δ RunState
  | 0 =>
      if e.state = .running then
        let checked := e.checkBreakpoint
        if checked.state = .running then ⟨checked, .error (.cycleLimit limit)⟩
        else ⟨checked, .ok checked.state⟩
      else ⟨e, .ok e.state⟩
  | budget + 1 =>
      if e.state = .running then
        let checked := e.checkBreakpoint
        if checked.state = .running then
          let o := checked.microstep
          match o.result with
          | .error err => ⟨o.emulator, .error err⟩
          | .ok () => runWithin limit o.emulator budget
        else ⟨checked, .ok checked.state⟩
      else ⟨e, .ok e.state⟩

def cycleCapacity : Nat := 0x1_0000_0000_0000_0000

def limit (e : Emulator δ) : Nat := e.maxCycles.getD cycleCapacity

def run (e : Emulator δ) : Outcome δ RunState := runWithin e.limit e (e.limit - e.cycles)

def resume (e : Emulator δ) : Emulator δ :=
  if e.state = .halted then e else { e with state := .running }

/-- Runs to the end with nobody to look at a pause: stopping at a breakpoint ends the run. -/
def runToEnd (e : Emulator δ) : Outcome δ Unit :=
  let o := e.run
  match o.result with
  | .error err => ⟨o.emulator, .error err⟩
  | .ok _ => ⟨{ o.emulator with state := .halted }, .ok ()⟩

def continueToEnd (e : Emulator δ) : Outcome δ Unit := e.resume.runToEnd

end Microbus.Emulator
