/-! # Decimal text of binary fractions

The shortest decimal text that reads back as a given floating point number. A finite number is
`m * 2 ^ q`; the reals that round to it form an interval around it, whose ends belong to it when
`m` is even. For one digit, two digits and so on, the two neighbours of the number among the
decimals with that many digits are tried; the first count with a neighbour in the interval wins,
and of two neighbours the nearer one.
-/

namespace Microbus.Text.Decimal
set_option autoImplicit false

structure Ratio where
  num : Nat
  den : Nat

def Ratio.scaledTwo (n : Nat) (e : Int) : Ratio :=
  if 0 ≤ e then ⟨n <<< e.toNat, 1⟩ else ⟨n, 1 <<< (-e).toNat⟩

def Ratio.scaledTen (n : Nat) (e : Int) : Ratio :=
  if 0 ≤ e then ⟨n * Nat.pow 10 e.toNat, 1⟩ else ⟨n, Nat.pow 10 (-e).toNat⟩

def Ratio.lt (a b : Ratio) : Bool := decide (a.num * b.den < b.num * a.den)

def Ratio.le (a b : Ratio) : Bool := decide (a.num * b.den ≤ b.num * a.den)

/-- A positive finite number `m * 2 ^ q`. Below a power of two the next number is only half as far
away as above it. -/
structure Binary where
  m : Nat
  q : Int
  narrowBelow : Bool

def Binary.value (b : Binary) : Ratio := .scaledTwo b.m b.q

def Binary.upper (b : Binary) : Ratio := .scaledTwo (2 * b.m + 1) (b.q - 1)

def Binary.lower (b : Binary) : Ratio :=
  if b.narrowBelow then .scaledTwo (4 * b.m - 1) (b.q - 2) else .scaledTwo (2 * b.m - 1) (b.q - 1)

def Binary.rounds (b : Binary) (r : Ratio) : Bool :=
  if b.m % 2 = 0 then b.lower.le r && r.le b.upper else b.lower.lt r && r.lt b.upper

structure Scaled where
  digits : Nat
  exponent : Int

/-- The decimal with the given exponent that is nearest to the number among its two neighbours
that round to it, if any does. -/
def Binary.onGrid? (b : Binary) (e : Int) : Option Scaled :=
  let v := b.value
  let unit := Ratio.scaledTen 1 e
  let below := (v.num * unit.den) / (v.den * unit.num)
  let inside (n : Nat) : Bool := decide (0 < n) && b.rounds (.scaledTen n e)
  match inside below, inside (below + 1) with
  | true, false => some ⟨below, e⟩
  | false, true => some ⟨below + 1, e⟩
  | false, false => none
  | true, true =>
      let middle := Ratio.scaledTen (2 * below + 1) e
      if middle.le ⟨2 * v.num, v.den⟩ then some ⟨below + 1, e⟩ else some ⟨below, e⟩

/-- The exponent `e` with `10 ^ e ≤ v < 10 ^ (e + 1)`, sought downwards from a bound. -/
def leadingExponent (v : Ratio) (e : Int) : Nat → Int
  | 0 => e
  | steps + 1 => if (Ratio.scaledTen 1 e).le v then e else leadingExponent v (e - 1) steps

def Binary.firstGrid (b : Binary) (e : Int) : Nat → Scaled
  | 0 => ⟨0, 0⟩
  | steps + 1 => (b.onGrid? e).getD (b.firstGrid (e - 1) steps)

/-- The shortest decimal that reads back as the number. The coarsest grid has units of the power
of ten above the leading digit, and seventeen digits always suffice. -/
def Binary.shortest (b : Binary) : Scaled :=
  let top := leadingExponent b.value 309 700
  b.firstGrid (top + 1) 20

def Scaled.positional (s : Scaled) : List Char :=
  let ds := Nat.toDigits 10 s.digits
  if 0 ≤ s.exponent then ds ++ List.replicate s.exponent.toNat '0'
  else
    let places := (-s.exponent).toNat
    if places < ds.length then
      ds.take (ds.length - places) ++ '.' :: ds.drop (ds.length - places)
    else '0' :: '.' :: List.replicate (places - ds.length) '0' ++ ds

def Binary.ofBits (exponentBits fraction : Nat) : Binary :=
  if exponentBits = 0 then ⟨fraction, -1074, false⟩
  else ⟨0x10_0000_0000_0000 + fraction, (exponentBits : Int) - 1075, fraction == 0 && decide (1 < exponentBits)⟩

/-- The text of a floating point number from its bits: positional, never with an exponent, whole
numbers without a point. -/
def ofBits (bits : UInt64) : String :=
  let exponentBits := (bits >>> 52 &&& 0x7ff).toNat
  let fraction := (bits &&& 0xf_ffff_ffff_ffff).toNat
  let sign := if bits >>> 63 = 1 then "-" else ""
  if exponentBits = 2047 then
    if fraction = 0 then sign ++ "inf" else "NaN"
  else if exponentBits = 0 ∧ fraction = 0 then sign ++ "0"
  else sign ++ String.ofList (Binary.ofBits exponentBits fraction).shortest.positional

def text (x : Float) : String := ofBits x.toBits

end Microbus.Text.Decimal
