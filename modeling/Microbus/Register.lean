import Microbus.BusPart

/-! # Plain registers

A register holds one byte. Its name and whether it can drive the bus belong to its type, because
neither ever changes.
-/

namespace Microbus
set_option autoImplicit false

structure Register (name : String) (readable : Bool) where
  value : UInt8
  mark : Mark
  deriving DecidableEq

namespace Register

variable {name : String} {readable : Bool}

def holding (v : UInt8) : Register name readable := ⟨v, .idle⟩

def set (r : Register name readable) (v : UInt8) : Register name readable := { r with value := v }

instance : BusPart (Register name readable) where
  mark := Register.mark
  setMark r m := { r with mark := m }
  refusal _ := if readable then none else some name
  drive := Register.value
  latch := set

instance : LawfulBusPart (Register name readable) where
  mark_setMark _ _ := rfl
  setMark_setMark _ _ _ := rfl
  setMark_mark _ := rfl
  mark_latch _ _ := rfl
  mark_settle _ := rfl
  refusal_setMark _ _ := rfl
  drive_setMark _ _ := rfl

def reset (r : Register name readable) (v : UInt8) : Register name readable :=
  BusPart.unmark (r.set v)

end Register

end Microbus
