import Mathlib.Data.List.DropRight
import Mathlib.Data.Nat.Bitwise
import Mathlib.Data.UInt
import Microbus.Output.Panel

/-! # What the displays show

Of all that was sent to the panel only the calls behind the last reset count, and of those only the
last byte at each address and the last command. The picture is a function of these: letters and
pixels of the bytes, the two switches of the command, and the printed text of all three.
-/

namespace Microbus
set_option autoImplicit false

namespace Panel

inductive Call where
  | command (v : UInt8)
  | data (address v : UInt8)
  | reset
  deriving DecidableEq

def perform (p : Panel) : Call → Panel
  | .command v => OutputDevice.command p v
  | .data address v => OutputDevice.data p address v
  | .reset => OutputDevice.reset p

def performAll (p : Panel) (cs : List Call) : Panel := cs.foldl perform p

/-! ## What is left of a history -/

namespace Call

def byteAt? (address : UInt8) : Call → Option UInt8
  | .data b v => if b = address then some v else none
  | _ => none

def switches? : Call → Option UInt8
  | .command v => some v
  | _ => none

end Call

/-- The calls behind the last reset. -/
def sinceReset (cs : List Call) : List Call := cs.rtakeWhile (· ≠ .reset)

def lastByte (past : List Call) (address : UInt8) : Option UInt8 :=
  (past.filterMap (Call.byteAt? address)).getLast?

def lastCommand (past : List Call) : Option UInt8 := (past.filterMap Call.switches?).getLast?

section

variable (past : List Call) (v : UInt8)

theorem sinceReset_concat_reset : sinceReset (past ++ [.reset]) = [] :=
  List.rtakeWhile_concat_neg _ _ _ (by decide)

theorem sinceReset_concat {c : Call} (h : c ≠ .reset) :
    sinceReset (past ++ [c]) = sinceReset past ++ [c] :=
  List.rtakeWhile_concat_pos _ _ _ (by simpa using h)

@[simp] theorem lastByte_command (address : UInt8) :
    lastByte (past ++ [.command v]) address = lastByte past address := by
  simp [lastByte, List.filterMap_append, Call.byteAt?]

theorem lastByte_data (b address : UInt8) :
    lastByte (past ++ [.data b v]) address = if b = address then some v else lastByte past address := by
  by_cases hSame : b = address <;>
    simp [lastByte, List.filterMap_append, Call.byteAt?, hSame]

@[simp] theorem lastCommand_command : lastCommand (past ++ [.command v]) = some v := by
  simp [lastCommand, List.filterMap_append, Call.switches?]

@[simp] theorem lastCommand_data (b : UInt8) :
    lastCommand (past ++ [.data b v]) = lastCommand past := by
  simp [lastCommand, List.filterMap_append, Call.switches?]

end

/-! ## The picture -/

def letterAddress (row : Fin 2) (column : Fin 16) : UInt8 :=
  UInt8.ofNat (0x20 + 16 * row.val + column.val)

def rowAddress (row : Fin 8) : UInt8 := UInt8.ofNat (0x10 + row.val)

def IsPrintable (v : UInt8) : Prop := ' '.toNat < v.toNat ∧ v.toNat ≤ '~'.toNat

instance (v : UInt8) : Decidable (IsPrintable v) := inferInstanceAs (Decidable (_ ∧ _))

def letterOf : Option UInt8 → Char
  | some v => if IsPrintable v then Char.ofNat v.toNat else ' '
  | none => ' '

def letterAt (past : List Call) (row : Fin 2) (column : Fin 16) : Char :=
  letterOf (lastByte past (letterAddress row column))

def litAt (past : List Call) (row column : Fin 8) : Bool :=
  (lastByte past (rowAddress row)).any fun v => v.toNat.testBit (7 - column.val)

def switchedOn (past : List Call) (bit : Nat) : Bool :=
  (lastCommand past).any fun v => v.toNat.testBit bit

def letterLine (past : List Call) (row : Fin 2) : List Char :=
  (List.ofFn (letterAt past row)).map fun c => if c = ' ' then '_' else c

def pixelLine (past : List Call) (row : Fin 8) : List Char :=
  (List.ofFn fun column => if litAt past row column then '█' else ' ').rdropWhile (· == ' ')

def printed (past : List Call) : List Char :=
  (if switchedOn past 1 then (List.finRange 2).flatMap fun r => letterLine past r ++ ['\n'] else []) ++
    (if switchedOn past 2 then (List.finRange 8).flatMap fun r => pixelLine past r ++ ['\n'] else [])

/-- The panel shows the last write to each place. -/
structure Shows (past : List Call) (p : Panel) : Prop where
  letters : ∀ row, p.letterRow row = List.ofFn (letterAt past row)
  pixels : ∀ row column, p.pixel row column = litAt past row column
  lettersOn : p.lettersOn = switchedOn past 1
  screenOn : p.screenOn = switchedOn past 2

/-! ## One call -/

theorem letterAddress_toNat (row : Fin 2) (column : Fin 16) :
    (letterAddress row column).toNat = 0x20 + 16 * row.val + column.val :=
  UInt8.toNat_ofNat_of_lt' (by simp only [UInt8.size]; omega)

theorem rowAddress_toNat (row : Fin 8) : (rowAddress row).toNat = 0x10 + row.val :=
  UInt8.toNat_ofNat_of_lt' (by simp only [UInt8.size]; omega)

theorem rowAddress_inj {row row' : Fin 8} : rowAddress row = rowAddress row' ↔ row = row' := by
  rw [← UInt8.toNat_inj, rowAddress_toNat, rowAddress_toNat]
  omega

theorem letterAddress_inj {row row' : Fin 2} {column column' : Fin 16} :
    letterAddress row column = letterAddress row' column' ↔
      16 * row.val + column.val = 16 * row'.val + column'.val := by
  rw [← UInt8.toNat_inj, letterAddress_toNat, letterAddress_toNat]
  omega

theorem rowAddress_ne_letterAddress (row : Fin 8) (row' : Fin 2) (column : Fin 16) :
    rowAddress row ≠ letterAddress row' column := by
  rw [ne_eq, ← UInt8.toNat_inj, rowAddress_toNat, letterAddress_toNat]
  omega

theorem data_rowAddress (p : Panel) (row : Fin 8) (v : UInt8) :
    p.data (rowAddress row) v = { p with rows := p.rows.set row.val v row.isLt } := by
  simp only [Panel.data, rowAddress_toNat, Nat.add_sub_cancel_left]
  rw [dif_pos (by omega)]

theorem data_letterAddress (p : Panel) (row : Fin 2) (column : Fin 16) (v : UInt8) :
    p.data (letterAddress row column) v =
      { p with letters := p.letters.set (16 * row.val + column.val) (shownChar v) } := by
  simp only [Panel.data, letterAddress_toNat, Nat.add_assoc, Nat.add_sub_cancel_left]
  rw [dif_neg (by omega), dif_pos (by omega)]

theorem data_elsewhere {address : UInt8} (hRows : ∀ row, address ≠ rowAddress row)
    (hLetters : ∀ row column, address ≠ letterAddress row column) (p : Panel) (v : UInt8) :
    p.data address v = p := by
  have hNoRow : ¬ (0x10 ≤ address.toNat ∧ address.toNat < 0x18) := fun hPlace => by
    refine hRows ⟨address.toNat - 0x10, by omega⟩ (UInt8.toNat_inj.mp ?_)
    rw [rowAddress_toNat]
    exact (Nat.add_sub_of_le hPlace.1).symm
  have hNoLetter : ¬ (0x20 ≤ address.toNat ∧ address.toNat < 0x40) := fun hPlace => by
    refine hLetters ⟨(address.toNat - 0x20) / 16, by omega⟩ ⟨(address.toNat - 0x20) % 16, by omega⟩
      (UInt8.toNat_inj.mp ?_)
    rw [letterAddress_toNat, Nat.add_assoc, Nat.div_add_mod]
    exact (Nat.add_sub_of_le hPlace.1).symm
  simp only [Panel.data, dif_neg hNoRow, dif_neg hNoLetter]

theorem data_cases (p : Panel) (address v : UInt8) :
    (∃ row, address = rowAddress row ∧
      p.data address v = { p with rows := p.rows.set row.val v row.isLt }) ∨
    (∃ (row : Fin 2) (column : Fin 16), address = letterAddress row column ∧
      p.data address v =
        { p with letters := p.letters.set (16 * row.val + column.val) (shownChar v) }) ∨
    (∀ row, address ≠ rowAddress row) ∧ (∀ row column, address ≠ letterAddress row column) ∧
      p.data address v = p := by
  by_cases hRow : ∃ row, address = rowAddress row
  · obtain ⟨row, rfl⟩ := hRow
    exact .inl ⟨row, rfl, p.data_rowAddress row v⟩
  by_cases hLetter : ∃ row column, address = letterAddress row column
  · obtain ⟨row, column, rfl⟩ := hLetter
    exact .inr (.inl ⟨row, column, rfl, p.data_letterAddress row column v⟩)
  have hRows : ∀ row, address ≠ rowAddress row := fun row hAt => hRow ⟨row, hAt⟩
  have hLetters : ∀ row column, address ≠ letterAddress row column :=
    fun row column hAt => hLetter ⟨row, column, hAt⟩
  exact .inr (.inr ⟨hRows, hLetters, data_elsewhere hRows hLetters p v⟩)

theorem letters_data (p : Panel) (address v : UInt8) (row : Fin 2) (column : Fin 16) :
    (p.data address v).letters[16 * row.val + column.val] =
      if address = letterAddress row column then shownChar v
      else p.letters[16 * row.val + column.val] := by
  obtain ⟨r, rfl, hData⟩ | ⟨r, c, rfl, hData⟩ | ⟨-, hLetters, hData⟩ := p.data_cases address v
  · rw [hData, if_neg (rowAddress_ne_letterAddress r row column)]
  · simp only [hData, Vector.getElem_set, letterAddress_inj]
  · rw [hData, if_neg (hLetters row column)]

theorem rows_data (p : Panel) (address v : UInt8) (row : Fin 8) :
    (p.data address v).rows.get row =
      if address = rowAddress row then v else p.rows.get row := by
  obtain ⟨r, rfl, hData⟩ | ⟨r, c, rfl, hData⟩ | ⟨hRows, -, hData⟩ := p.data_cases address v
  · simp only [hData, rowAddress_inj, Fin.ext_iff]
    exact Vector.getElem_set r.isLt row.isLt
  · rw [hData, if_neg (rowAddress_ne_letterAddress row r c).symm]
  · rw [hData, if_neg (hRows row)]

theorem lettersOn_data (p : Panel) (address v : UInt8) :
    (p.data address v).lettersOn = p.lettersOn := by
  obtain ⟨r, -, hData⟩ | ⟨r, c, -, hData⟩ | ⟨-, -, hData⟩ := p.data_cases address v <;> rw [hData]

theorem screenOn_data (p : Panel) (address v : UInt8) :
    (p.data address v).screenOn = p.screenOn := by
  obtain ⟨r, -, hData⟩ | ⟨r, c, -, hData⟩ | ⟨-, -, hData⟩ := p.data_cases address v <;> rw [hData]

theorem and_two_pow_ne_zero (v : UInt8) (k : Fin 8) :
    (v &&& UInt8.ofNat (2 ^ k.val) != 0) = v.toNat.testBit k.val := by
  have hPower : (UInt8.ofNat (2 ^ k.val)).toNat = 2 ^ k.val :=
    UInt8.toNat_ofNat_of_lt' (Nat.pow_lt_pow_right (by omega) k.isLt)
  have hBit : (v &&& UInt8.ofNat (2 ^ k.val)).toNat = (v.toNat.testBit k.val).toNat * 2 ^ k.val := by
    rw [UInt8.toNat_and, hPower, Nat.and_two_pow]
  rw [Bool.eq_iff_iff, bne_iff_ne, ne_eq, ← UInt8.toNat_inj, hBit]
  cases v.toNat.testBit k.val <;> simp

/-- The cells of the panel as they lie in its two vectors, which is what one call changes. -/
structure Holds (past : List Call) (p : Panel) : Prop where
  letters : ∀ (row : Fin 2) (column : Fin 16),
    p.letters[16 * row.val + column.val] = letterAt past row column
  rows : ∀ row, p.rows.get row = (lastByte past (rowAddress row)).getD 0
  lettersOn : p.lettersOn = switchedOn past 1
  screenOn : p.screenOn = switchedOn past 2

theorem holds_blank : Holds [] blank where
  letters row column := by simp [blank, letterAt, lastByte, letterOf]
  rows row := Vector.getElem_replicate row.isLt
  lettersOn := rfl
  screenOn := rfl

variable {past : List Call} {p : Panel}

theorem Holds.command (h : Holds past p) (v : UInt8) :
    Holds (past ++ [.command v]) (p.command v) where
  letters row column := by
    simp only [letterAt, lastByte_command]
    exact h.letters row column
  rows row := by
    rw [lastByte_command]
    exact h.rows row
  lettersOn := by
    simp only [switchedOn, lastCommand_command, Option.any_some]
    exact and_two_pow_ne_zero v 1
  screenOn := by
    simp only [switchedOn, lastCommand_command, Option.any_some]
    exact and_two_pow_ne_zero v 2

theorem Holds.data (h : Holds past p) (address v : UInt8) :
    Holds (past ++ [.data address v]) (p.data address v) where
  letters row column := by
    rw [letters_data, letterAt, lastByte_data]
    split
    · rfl
    · exact h.letters row column
  rows row := by
    rw [rows_data, lastByte_data]
    split
    · rfl
    · exact h.rows row
  lettersOn := by
    rw [lettersOn_data, switchedOn, lastCommand_data]
    exact h.lettersOn
  screenOn := by
    rw [screenOn_data, switchedOn, lastCommand_data]
    exact h.screenOn

/-! ## All calls -/

theorem holds_performAll (cs : List Call) : Holds (sinceReset cs) (blank.performAll cs) := by
  induction cs using List.reverseRecOn with
  | nil => exact holds_blank
  | append_singleton cs c ih =>
      rw [performAll, List.foldl_append]
      change Holds _ (perform (blank.performAll cs) c)
      cases c with
      | command v =>
          rw [sinceReset_concat _ (by simp)]
          exact ih.command v
      | data address v =>
          rw [sinceReset_concat _ (by simp)]
          exact ih.data address v
      | reset =>
          rw [sinceReset_concat_reset]
          exact holds_blank

theorem Holds.shows (h : Holds past p) : Shows past p where
  letters row := by
    refine List.ext_getElem (by simp [letterRow]; omega) fun k hRow hSpec => ?_
    have hColumn : k < 16 := by simpa using hSpec
    simp only [letterRow, List.getElem_take, List.getElem_drop, Vector.getElem_toList,
      List.getElem_ofFn]
    exact h.letters row ⟨k, hColumn⟩
  pixels row column := by
    have hByte : p.pixel row column = (p.rows.get row).toNat.testBit (7 - column.val) := rfl
    rw [hByte, h.rows, litAt]
    cases lastByte past (rowAddress row) <;> simp
  lettersOn := h.lettersOn
  screenOn := h.screenOn

theorem Shows.renderPixels (h : Shows past p) (row : Fin 8) :
    p.renderPixels row = pixelLine past row ++ ['\n'] := by
  have hCells : (p.pixelRow row).map (fun lit => if lit then '█' else ' ') =
      List.ofFn fun column => if litAt past row column then '█' else ' ' := by
    simp only [pixelRow, List.map_map, List.ofFn_eq_map, Function.comp_def, h.pixels]
  rw [Panel.renderPixels, hCells, pixelLine, List.rdropWhile]

theorem Shows.renderLetters (h : Shows past p) (row : Fin 2) :
    p.renderLetters row = letterLine past row ++ ['\n'] := by
  rw [Panel.renderLetters, h.letters, letterLine]

theorem Shows.render (h : Shows past p) : p.render = String.ofList (printed past) := by
  rw [Panel.render, printed, h.lettersOn, h.screenOn, funext h.renderLetters, funext h.renderPixels]

/-- After any calls the displays show the last byte of each place and the last command since the
last reset, and this is what is printed. No byte at any other address and no command changes a
letter or a pixel. -/
theorem shows_performAll (cs : List Call) :
    Shows (sinceReset cs) (blank.performAll cs) ∧
    (blank.performAll cs).render = String.ofList (printed (sinceReset cs)) ∧
    (∀ address v, (∀ row column, address ≠ letterAddress row column) →
      (∀ row, address ≠ rowAddress row) →
      blank.performAll (cs ++ [.data address v]) = blank.performAll cs) ∧
    ∀ v, (blank.performAll (cs ++ [.command v])).letters = (blank.performAll cs).letters ∧
      (blank.performAll (cs ++ [.command v])).rows = (blank.performAll cs).rows := by
  have hShows := (holds_performAll cs).shows
  refine ⟨hShows, hShows.render, fun address v hLetters hRows => ?_, fun v => ?_⟩
  · rw [performAll, List.foldl_append]
    exact data_elsewhere hRows hLetters _ v
  · rw [performAll, List.foldl_append]
    exact ⟨rfl, rfl⟩

end Panel

end Microbus
