import Microbus.Flags
import Microbus.Register

/-! # The flag register

Flags are queued while a cycle is prepared and reach the register when the cycle ends. A cycle
that is given up discards them.
-/

namespace Microbus
set_option autoImplicit false

/-- The flag register and the flags waiting for the end of the cycle. -/
structure FlagRegister where
  register : Register "FR" false
  pending : Option Flags
  deriving DecidableEq

namespace FlagRegister

def blank : FlagRegister := ⟨.holding 0, none⟩

def value (fr : FlagRegister) : UInt8 := fr.register.value

def flags (fr : FlagRegister) : Flags := .ofByte fr.value

def set (fr : FlagRegister) (v : UInt8) : FlagRegister := { fr with register := fr.register.set v }

def latchFlags (fr : FlagRegister) (f : Flags) : FlagRegister := { fr with pending := some f }

def clock (fr : FlagRegister) : FlagRegister :=
  match fr.pending with
  | some f => ⟨fr.register.set f.toByte, none⟩
  | none => fr

def discard (fr : FlagRegister) : FlagRegister := { fr with pending := none }

instance : BusPart FlagRegister where
  mark fr := BusPart.mark fr.register
  setMark fr m := { fr with register := BusPart.setMark fr.register m }
  refusal fr := BusPart.refusal fr.register
  drive fr := BusPart.drive fr.register
  latch fr v := { fr with register := BusPart.latch fr.register v }

instance : LawfulBusPart FlagRegister where
  mark_setMark _ _ := rfl
  setMark_setMark _ _ _ := rfl
  setMark_mark _ := rfl
  mark_latch _ _ := rfl
  mark_settle _ := rfl
  refusal_setMark _ _ := rfl
  drive_setMark _ _ := rfl

def reset (fr : FlagRegister) : FlagRegister :=
  { fr.discard with register := fr.register.reset 0 }

end FlagRegister

end Microbus
