import Microbus.Text.Hex
import Microbus.Text.Quoted

/-! # Faults

Everything that can go wrong in the machine itself, by cause. `Fault.message` is the one place
that puts a cause into words.
-/

namespace Microbus
set_option autoImplicit false

/-- The cause of a failed step, load or image text. -/
inductive Fault where
  | busConflict (held refused : UInt8)
  | busUnwritten
  | readForbidden (name : String)
  | sizeMismatch (expected found : Nat)
  | stackOverflow (sp top : UInt8)
  | imageSyntax (index : Nat) (token : String)
  deriving DecidableEq

def Fault.message : Fault → String
  | busConflict held refused =>
      "short circuit: bus already holds " ++ Text.Hex.markedByte held ++ ", refused " ++
        Text.Hex.markedByte refused
  | busUnwritten => "read from unwritten bus"
  | readForbidden name => "register " ++ name ++ " cannot transmit"
  | sizeMismatch expected found =>
      "memory image has " ++ toString found ++ " bytes, expected " ++ toString expected
  | stackOverflow sp top =>
      "stack pointer " ++ Text.Hex.markedByte sp ++ " left the stack region below " ++
        Text.Hex.markedByte top
  | imageSyntax index token =>
      "memory image token " ++ toString index ++ " is not a hex byte: " ++ Text.quoted token

end Microbus
