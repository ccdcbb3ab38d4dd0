import Microbus.Memory.Basic
import Microbus.Register

/-! # Memory on the bus

The memory takes part in the bus through the one cell that its address register selects.
-/

namespace Microbus
set_option autoImplicit false

structure Ram where
  memory : Memory
  address : Register "MA" true
  mark : Mark
  deriving DecidableEq

namespace Ram

def blank : Ram := ⟨.zero, .holding 0, .idle⟩

def selected (r : Ram) : UInt8 := r.memory.read r.address.value

def writeSelected (r : Ram) (v : UInt8) : Ram :=
  { r with memory := r.memory.write r.address.value v }

instance : BusPart Ram where
  mark := Ram.mark
  setMark r m := { r with mark := m }
  refusal _ := none
  drive := selected
  latch := writeSelected

instance : LawfulBusPart Ram where
  mark_setMark _ _ := rfl
  setMark_setMark _ _ _ := rfl
  setMark_mark _ := rfl
  mark_latch _ _ := rfl
  mark_settle _ := rfl
  refusal_setMark _ _ := rfl
  drive_setMark _ _ := rfl

def reset (r : Ram) : Ram :=
  BusPart.unmark { r with memory := .zero, address := r.address.reset 0 }

end Ram

end Microbus
