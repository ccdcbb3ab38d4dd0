import Microbus.Fault

/-! # The bus

One byte-wide bus joins all parts. Between two clock resets it can be driven once; the value then
stays readable until the next reset, and the last value driven stays visible beyond it.
-/

namespace Microbus
set_option autoImplicit false

/-- The value driven in this cycle, if any, and the value driven last in whatever cycle. -/
structure Bus where
  held : Option UInt8
  last : UInt8
  deriving DecidableEq

namespace Bus

def idle : Bus := ⟨none, 0⟩

def transmit (b : Bus) (v : UInt8) : Except Fault Bus :=
  match b.held with
  | some held => .error (.busConflict held v)
  | none => .ok ⟨some v, v⟩

def receive (b : Bus) : Except Fault UInt8 :=
  match b.held with
  | some v => .ok v
  | none => .error .busUnwritten

def clockReset (b : Bus) : Bus := { b with held := none }

end Bus

end Microbus
