import Microbus.Output.Device

/-! # The display panel

The usual device behind the output port: a text display of two rows with sixteen characters and a
square screen of eight rows with eight pixels. A command switches both displays; data is kept
while a display is off.
-/

namespace Microbus
set_option autoImplicit false

structure Panel where
  letters : Vector Char 32
  rows : Vector UInt8 8
  lettersOn : Bool
  screenOn : Bool
  deriving DecidableEq

namespace Panel

def blank : Panel := ⟨Vector.replicate 32 ' ', Vector.replicate 8 0, false, false⟩

/-- The character that a byte shows: itself if it prints, a space otherwise. -/
def shownChar (v : UInt8) : Char :=
  if 0x21 ≤ v.toNat ∧ v.toNat ≤ 0x7e then Char.ofNat v.toNat else ' '

def claims (address : UInt8) : Bool :=
  (decide (0x10 ≤ address.toNat) && decide (address.toNat < 0x18)) ||
    (decide (0x20 ≤ address.toNat) && decide (address.toNat < 0x40))

/-- Bit 1 of a command switches the text display, bit 2 the screen. -/
def command (p : Panel) (v : UInt8) : Panel :=
  { p with lettersOn := v &&& 2 != 0, screenOn := v &&& 4 != 0 }

/-- Data at 0x10 to 0x17 sets a pixel row, data at 0x20 to 0x3f a character. -/
def data (p : Panel) (address v : UInt8) : Panel :=
  let n := address.toNat
  if h : 0x10 ≤ n ∧ n < 0x18 then { p with rows := p.rows.set (n - 0x10) v (by omega) }
  else if h : 0x20 ≤ n ∧ n < 0x40 then
    { p with letters := p.letters.set (n - 0x20) (shownChar v) (by omega) }
  else p

def letterRow (p : Panel) (row : Fin 2) : List Char := (p.letters.toList.drop (16 * row.val)).take 16

def pixel (p : Panel) (row column : Fin 8) : Bool :=
  p.rows[row].toNat.testBit (7 - column.val)

def pixelRow (p : Panel) (row : Fin 8) : List Bool := (List.finRange 8).map (p.pixel row)

/-- One row of the text display as a line in which spaces can be seen. -/
def renderLetters (p : Panel) (row : Fin 2) : List Char :=
  (p.letterRow row).map (fun c => if c = ' ' then '_' else c) ++ ['\n']

def renderPixels (p : Panel) (row : Fin 8) : List Char :=
  let cells := (p.pixelRow row).map fun lit => if lit then '█' else ' '
  (cells.reverse.dropWhile (· == ' ')).reverse ++ ['\n']

def render (p : Panel) : String :=
  String.ofList <|
    (if p.lettersOn then (List.finRange 2).flatMap p.renderLetters else []) ++
      (if p.screenOn then (List.finRange 8).flatMap p.renderPixels else [])

instance : OutputDevice Panel where
  command := command
  data := data
  reset _ := blank
  render := render
  claims _ := claims

end Panel

end Microbus
