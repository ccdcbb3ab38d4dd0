import Microbus.Machine.Cycle

/-! # Runs of the machine

Cycles one after the other, up to the end of an instruction or to a halt. Events are gathered last
first and turned round at the end.
-/

namespace Microbus.Machine
set_option autoImplicit false

variable {δ : Type} [OutputDevice δ]

def cyclesToBoundary (m : Machine δ) (cycles : Nat) (past : List Event) : Nat → Progress δ
  | 0 => ⟨m, .ok cycles, past.reverse⟩
  | budget + 1 =>
      if m.halted then ⟨m, .ok cycles, past.reverse⟩
      else
        let t := m.stepCycle
        let seen := t.events.reverse ++ past
        match t.fault with
        | some e => ⟨t.machine, .error e, seen.reverse⟩
        | none =>
            if t.machine.counter = .first then ⟨t.machine, .ok (cycles + 1), seen.reverse⟩
            else t.machine.cyclesToBoundary (cycles + 1) seen budget

/-- Runs the current instruction to its end. The counter has eight values, so that eight cycles
always suffice. -/
def stepInstruction (m : Machine δ) : Progress δ := m.cyclesToBoundary 0 [] 8

def cyclesToHalt (m : Machine δ) (cycles : Nat) (past : List Event) : Nat → Progress δ
  | 0 => ⟨m, .ok cycles, past.reverse⟩
  | budget + 1 =>
      if m.halted then ⟨m, .ok cycles, past.reverse⟩
      else
        let t := m.stepCycle
        let seen := t.events.reverse ++ past
        match t.fault with
        | some e => ⟨t.machine, .error e, seen.reverse⟩
        | none => t.machine.cyclesToHalt (cycles + 1) seen budget

def runUntilHalt (m : Machine δ) (maxCycles : Nat) : Progress δ := m.cyclesToHalt 0 [] maxCycles

end Microbus.Machine
