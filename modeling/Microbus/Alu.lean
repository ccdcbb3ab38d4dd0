import Microbus.ControlWord
import Microbus.Flags
import Microbus.Register

/-! # The arithmetic unit

Eight operations on bytes with their flags, the control lines that select them, and the unit as a
part of the bus: a register holding the last result beside the operation selected for this cycle.
-/

namespace Microbus
set_option autoImplicit false

inductive AluMode where
  | add
  | sub
  | or
  | xor
  | and
  | not
  | shl
  | shr
  deriving DecidableEq

namespace AluMode

def line? : AluMode → Option Line
  | add => none
  | sub => some .sub
  | or => some .or
  | xor => some .xor
  | and => some .and
  | not => some .not
  | shl => some .bsl
  | shr => some .bsr

def word (m : AluMode) : ControlWord := .ofList m.line?.toList

/-- The operations that a line selects, the one that wins over the others first. -/
def byPriority : List AluMode := [sub, or, xor, and, not, shl, shr]

def select (w : ControlWord) : AluMode :=
  (byPriority.find? fun m => m.line?.any w.has).getD add

/-- The result of an operation. Arithmetic wraps, shifts fill with zero, and an operation on one
byte ignores the right one. -/
def result (m : AluMode) (left right : UInt8) : UInt8 :=
  match m with
  | add => left + right
  | sub => left - right
  | or => left ||| right
  | xor => left ^^^ right
  | and => left &&& right
  | not => ~~~left
  | shl => left <<< 1
  | shr => left >>> 1

/-- The result of an operation with its flags. Only an addition can carry. -/
def compute (m : AluMode) (left right : UInt8) : UInt8 × Flags :=
  let r := m.result left right
  (r, { zero := r == 0
        carry := m == add && decide (256 ≤ left.toNat + right.toNat)
        parity := r &&& 1 == 1 })

end AluMode

structure AluUnit where
  register : Register "ALU" true
  mode : AluMode
  deriving DecidableEq

namespace AluUnit

def blank : AluUnit := ⟨.holding 0, .add⟩

def value (u : AluUnit) : UInt8 := u.register.value

def set (u : AluUnit) (v : UInt8) : AluUnit := { u with register := u.register.set v }

def setMode (u : AluUnit) (m : AluMode) : AluUnit := { u with mode := m }

def flagsOf (u : AluUnit) (left right : UInt8) : Flags := (u.mode.compute left right).2

def compute (u : AluUnit) (left right : UInt8) : AluUnit := u.set (u.mode.compute left right).1

def clock (u : AluUnit) : AluUnit := u.setMode .add

instance : BusPart AluUnit where
  mark u := BusPart.mark u.register
  setMark u m := { u with register := BusPart.setMark u.register m }
  refusal u := BusPart.refusal u.register
  drive u := BusPart.drive u.register
  latch u v := { u with register := BusPart.latch u.register v }
  settle := clock

instance : LawfulBusPart AluUnit where
  mark_setMark _ _ := rfl
  setMark_setMark _ _ _ := rfl
  setMark_mark _ := rfl
  mark_latch _ _ := rfl
  mark_settle _ := rfl
  refusal_setMark _ _ := rfl
  drive_setMark _ _ := rfl

def reset (u : AluUnit) : AluUnit := { u.setMode .add with register := u.register.reset 0 }

end AluUnit

end Microbus
