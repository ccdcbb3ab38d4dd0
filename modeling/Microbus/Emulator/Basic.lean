import Microbus.Journal
import Microbus.Machine.Run
import Microbus.Text.Decimal

/-! # The emulator

A machine with everything around it that a run needs: breakpoints, a cycle limit, the history of
instructions and the journal.
-/

namespace Microbus
set_option autoImplicit false

inductive RunState where
  | running
  | paused
  | halted
  deriving DecidableEq

inductive RunError where
  | fault (cause : Fault)
  | cycleLimit (limit : Nat)
  | clockRate (rate : String)
  deriving DecidableEq

def RunError.message : RunError → String
  | fault cause => cause.message
  | cycleLimit limit => "machine did not halt within " ++ toString limit ++ " cycles"
  | clockRate rate => "invalid clock rate " ++ rate ++ " Hz"

/-- Checks the rate of a clock, in cycles per second: it has to be finite and positive. Whether
and how fast a clock runs changes no result. -/
def checkClockRate (rate : Float) : Except RunError Unit :=
  if rate.isFinite && decide (0 < rate) then .ok ()
  else .error (.clockRate (Text.Decimal.text rate))

/-- A machine in its run loop. A run stops in front of a breakpoint, and the one at which it stopped
last is known until the run goes on. -/
structure Emulator (δ : Type) where
  machine : Machine δ
  state : RunState
  history : History
  breakpoints : List UInt8
  cycles : Nat
  maxCycles : Option Nat
  resumedAt : Option UInt8
  journal : Journal

namespace Emulator

variable {δ : Type} [OutputDevice δ]

def ofMachine (machine : Machine δ) (maxCycles : Option Nat) (journal : Journal) :
    Emulator δ where
  machine := machine
  state := if machine.halted then .halted else .running
  history := .empty
  breakpoints := []
  cycles := 0
  maxCycles := maxCycles
  resumedAt := none
  journal := journal

def note (e : Emulator δ) (r : JournalRecord) : Emulator δ :=
  { e with journal := e.journal.note r }

def addBreakpoint (e : Emulator δ) (address : UInt8) : Emulator δ :=
  if address ∈ e.breakpoints then e else { e with breakpoints := address :: e.breakpoints }

def removeBreakpoint (e : Emulator δ) (address : UInt8) : Emulator δ :=
  { e with breakpoints := e.breakpoints.filter (· != address) }

def setRegister (e : Emulator δ) (r : RegName) (v : UInt8) : Emulator δ :=
  { e with machine := e.machine.setRegister r v }

end Emulator

end Microbus
