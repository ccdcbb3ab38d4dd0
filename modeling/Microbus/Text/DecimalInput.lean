/-! # Reading decimal fractions

The text of a number with an optional sign, point and exponent, or the name of infinity or of what
is no number, as the nearest floating point number. Exponents far beyond the range lead to zero or
infinity without being worked out.
-/

namespace Microbus.Text.Decimal
set_option autoImplicit false

def naturalOf (ds : List Char) : Nat := ds.foldl (fun n d => 10 * n + (d.toNat - 48)) 0

def scaled (m : Nat) (e : Int) : Float :=
  if m = 0 then 0
  else
    let size := e + (Nat.toDigits 10 m).length
    if 400 < size then 1 / 0
    else if size < -400 then 0
    else Float.ofScientific m (decide (e < 0)) e.natAbs

/-- Reads an exponent: nothing at all, or a mark with at least one digit. -/
def exponent? : List Char → Option Int
  | [] => some 0
  | mark :: rest =>
      if mark = 'e' ∨ mark = 'E' then
        let (negative, ds) :=
          match rest with
          | '-' :: ds => (true, ds)
          | '+' :: ds => (false, ds)
          | ds => (false, ds)
        if ds ≠ [] ∧ ds.all Char.isDigit then
          some (if negative then -(naturalOf ds : Int) else naturalOf ds)
        else none
      else none

def unsigned? (cs : List Char) : Option Float :=
  let word := String.ofList (cs.map Char.toLower)
  if word = "inf" ∨ word = "infinity" then some (1 / 0)
  else if word = "nan" then some (0 / 0)
  else
    let whole := cs.takeWhile Char.isDigit
    let afterWhole := cs.dropWhile Char.isDigit
    let fraction :=
      match afterWhole with
      | '.' :: rest => rest.takeWhile Char.isDigit
      | _ => []
    let afterFraction :=
      match afterWhole with
      | '.' :: rest => rest.dropWhile Char.isDigit
      | rest => rest
    if whole.isEmpty && fraction.isEmpty then none
    else (exponent? afterFraction).map fun e =>
      scaled (naturalOf (whole ++ fraction)) (e - fraction.length)

def parse? (text : String) : Option Float :=
  match text.toList with
  | '-' :: cs => (unsigned? cs).map fun x => -x
  | '+' :: cs => unsigned? cs
  | cs => unsigned? cs

end Microbus.Text.Decimal
