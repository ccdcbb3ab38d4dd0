import Microbus.Text.Hex

/-! # Bounded numerals

Natural numbers below a bound, in base ten or sixteen, with an optional plus sign in front. Digits
are read from the left, and the first that is wrong or leads past the bound is reported.
-/

namespace Microbus.Text.Numeral
set_option autoImplicit false

inductive Flaw where
  | empty
  | invalidDigit
  | tooLarge
  deriving DecidableEq

def Flaw.message : Flaw → String
  | empty => "cannot parse integer from empty string"
  | invalidDigit => "invalid digit found in string"
  | tooLarge => "number too large to fit in target type"

def wordBound : Nat := 0x1_0000_0000_0000_0000

def digitOf? (base : Nat) (c : Char) : Option Nat := (Hex.valueOf? c).filter (· < base)

def readDigits (base bound : Nat) (n : Nat) : List Char → Except Flaw Nat
  | [] => .ok n
  | c :: cs =>
      match digitOf? base c with
      | none => .error .invalidDigit
      | some d =>
          let next := base * n + d
          if next < bound then readDigits base bound next cs else .error .tooLarge

def read (base bound : Nat) : List Char → Except Flaw Nat
  | [] => .error .empty
  | ['+'] => .error .invalidDigit
  | '+' :: cs => readDigits base bound 0 cs
  | cs => readDigits base bound 0 cs

end Microbus.Text.Numeral
