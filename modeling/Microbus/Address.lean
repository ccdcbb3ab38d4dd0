import Microbus.Text.Numeral

/-! # Addresses as text

A byte address is written in base sixteen behind `0x` or a dollar sign, and in base ten otherwise.
-/

namespace Microbus
set_option autoImplicit false

structure InvalidAddress where
  text : String
  flaw : Text.Numeral.Flaw
  deriving DecidableEq

def InvalidAddress.message (e : InvalidAddress) : String :=
  "invalid address \x60" ++ e.text ++ "\x60"

def addressDigits : List Char → Nat × List Char
  | '0' :: 'x' :: cs | '0' :: 'X' :: cs | '$' :: cs => (16, cs)
  | cs => (10, cs)

def parseAddress (text : String) : Except InvalidAddress UInt8 :=
  let (base, digits) := addressDigits text.toList
  match Text.Numeral.read base 256 digits with
  | .ok n => .ok (UInt8.ofNat n)
  | .error flaw => .error ⟨text, flaw⟩

end Microbus
