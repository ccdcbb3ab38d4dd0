/-! # Bytes in base sixteen

A byte is written as two digits, high half first. `byteOf?_digits` says that the two digits read
back as the byte, whatever the case they are written in.
-/

namespace Microbus.Text.Hex
set_option autoImplicit false

def digit (n : Nat) : Char := if n < 10 then Char.ofNat (48 + n) else Char.ofNat (87 + n)

def upperDigit (n : Nat) : Char := if n < 10 then Char.ofNat (48 + n) else Char.ofNat (55 + n)

def valueOf? (c : Char) : Option Nat :=
  if '0' ≤ c ∧ c ≤ '9' then some (c.toNat - 48)
  else if 'a' ≤ c ∧ c ≤ 'f' then some (c.toNat - 87)
  else if 'A' ≤ c ∧ c ≤ 'F' then some (c.toNat - 55)
  else none

def digits (b : UInt8) : List Char := [digit (b.toNat / 16), digit (b.toNat % 16)]

def byte (b : UInt8) : String := String.ofList (digits b)

def upperByte (b : UInt8) : String :=
  String.ofList [upperDigit (b.toNat / 16), upperDigit (b.toNat % 16)]

def markedByte (b : UInt8) : String := "0x" ++ byte b

def bytes (bs : List UInt8) : String := String.ofList (bs.flatMap digits)

def byteOf? : List Char → Option UInt8
  | [h, l] => do
      let high ← valueOf? h
      let low ← valueOf? l
      return UInt8.ofNat (16 * high + low)
  | _ => none

theorem valueOf?_digit {n : Nat} (h : n < 16) : valueOf? (digit n) = some n := by
  have hAll : ∀ i : Fin 16, valueOf? (digit i.val) = some i.val := by decide
  exact hAll ⟨n, h⟩

theorem byteOf?_digits (b : UInt8) : byteOf? (digits b) = some b := by
  have hb := b.toNat_lt
  rw [digits, byteOf?, valueOf?_digit (by omega), valueOf?_digit (by omega)]
  simp only [Option.bind_eq_bind, Option.bind_some, Option.pure_def, Option.some.injEq]
  rw [show 16 * (b.toNat / 16) + b.toNat % 16 = b.toNat by omega]
  exact UInt8.ofNat_toNat

end Microbus.Text.Hex
