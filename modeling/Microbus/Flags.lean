/-! # Status flags

The three flags that the arithmetic unit produces, and their places in the byte of the flag
register. Bits without a flag are ignored when a byte is read.
-/

namespace Microbus
set_option autoImplicit false

/-- The flags of one result: it is zero, an addition passed the largest byte, it is odd. -/
structure Flags where
  zero : Bool
  carry : Bool
  parity : Bool
  deriving DecidableEq

namespace Flags

def none : Flags := ⟨false, false, false⟩

/-- The byte of the flag register: zero is bit 0, carry bit 1, parity bit 2. -/
def toByte (f : Flags) : UInt8 :=
  (if f.zero then 1 else 0) ||| (if f.carry then 2 else 0) ||| (if f.parity then 4 else 0)

def ofByte (b : UInt8) : Flags := ⟨b &&& 1 != 0, b &&& 2 != 0, b &&& 4 != 0⟩

def names (f : Flags) : List String :=
  (if f.zero then ["ZERO"] else []) ++ (if f.carry then ["CARRY"] else []) ++
    (if f.parity then ["PARITY"] else [])

@[simp] theorem ofByte_toByte (f : Flags) : ofByte f.toByte = f := by
  obtain ⟨z, c, p⟩ := f
  cases z <;> cases c <;> cases p <;> rfl

end Flags

end Microbus
