import Mathlib.Data.List.Basic
import Microbus.Memory.Image
import Microbus.Proofs.Assembly.Folding
import Microbus.Proofs.Memory.Loading
import Microbus.Proofs.Memory.Tokens

/-! # Image texts and bytes

A token is a byte if it has two digits in base sixteen, of either case. A text is a memory image if
it has 256 such tokens; the first token that is no byte is reported, wherever it stands, and only
then the number of tokens. Written bytes read back as they were, and what was read is written in one
normal form: its tokens in lower case, sixteen on each line.
-/

namespace Microbus
set_option autoImplicit false

namespace Memory.Image

def lowerDigits : List Char := "0123456789abcdef".toList

def IsByte (t : List Char) : Prop := t.length = 2 ∧ ∀ c ∈ t, c.toLower ∈ lowerDigits

instance (t : List Char) : Decidable (IsByte t) := inferInstanceAs (Decidable (_ ∧ _))

def numberOf (t : List Char) : Nat :=
  t.foldl (fun n c => 16 * n + lowerDigits.idxOf c.toLower) 0

def inLowerCase (t : List Char) : String := String.ofList (t.map Char.toLower)

def page (words : List String) : String :=
  String.join ((List.range ((words.length + 15) / 16)).map fun k =>
    String.intercalate " " ((words.drop (16 * k)).take 16) ++ "\n")

/-- What comes of reading a text with the given tokens. -/
structure Reads (ts : List (List Char)) (outcome : Except Fault Memory) : Prop where
  succeeds : (∃ m, outcome = .ok m) ↔ ts.length = 256 ∧ ∀ t ∈ ts, IsByte t
  byte : ∀ m, outcome = .ok m → ∀ a, ∃ t, ts[a.toNat]? = some t ∧ (m.read a).toNat = numberOf t
  written : ∀ m, outcome = .ok m → format m.toList = page (ts.map inLowerCase)
  malformed : ∀ k t, ts[k]? = some t → ¬ IsByte t → (∀ u ∈ ts.take k, IsByte u) →
    outcome = .error (.imageSyntax k (String.ofList t))
  size : (∀ t ∈ ts, IsByte t) → ts.length ≠ 256 → outcome = .error (.sizeMismatch 256 ts.length)

/-! ## Tokens and bytes -/

section

open Text.Hex

theorem mem_lowerDigits_iff {c : Char} : c ∈ lowerDigits ↔ ∃ n < 16, c = digit n := by
  have hDigits : lowerDigits = (List.range 16).map digit := by decide
  simp only [hDigits, List.mem_map, List.mem_range]
  exact exists_congr fun n => and_congr_right fun _ => eq_comm

theorem idxOf_digit {n : Nat} (h : n < 16) : lowerDigits.idxOf (digit n) = n := by
  have hAll : ∀ i : Fin 16, lowerDigits.idxOf (digit i.val) = i.val := by decide
  exact hAll ⟨n, h⟩

theorem valueOf?_toLower (c : Char) : valueOf? c.toLower = valueOf? c :=
  Assembly.apply_toLower valueOf? (by decide) c

theorem valueOf?_eq_some_iff {c : Char} {n : Nat} :
    valueOf? c = some n ↔ n < 16 ∧ c.toLower = digit n := by
  constructor
  · intro h
    have hRange : ∀ start first count : Nat, (∀ i < count, first + i < 16 ∧
        (Char.ofNat (start + i)).toLower = digit (first + i)) → start ≤ c.toNat →
          c.toNat < start + count → n = first + (c.toNat - start) →
            n < 16 ∧ c.toLower = digit n := by
      intro start first count hDigits hLow hHigh hn
      have hCode : start + (c.toNat - start) = c.toNat := by omega
      have hDigit := hDigits (c.toNat - start) (by omega)
      rwa [hCode, Char.ofNat_toNat, ← hn] at hDigit
    unfold valueOf? at h
    split at h
    · next hc =>
        have hLow : 48 ≤ c.toNat := hc.1
        have hHigh : c.toNat ≤ 57 := hc.2
        exact hRange 48 0 10 (by decide) hLow (by omega) (by simp at h; omega)
    · split at h
      · next hc =>
          have hLow : 97 ≤ c.toNat := hc.1
          have hHigh : c.toNat ≤ 102 := hc.2
          exact hRange 97 10 6 (by decide) hLow (by omega) (by simp at h; omega)
      · split at h
        · next hc =>
            have hLow : 65 ≤ c.toNat := hc.1
            have hHigh : c.toNat ≤ 70 := hc.2
            exact hRange 65 10 6 (by decide) hLow (by omega) (by simp at h; omega)
        · cases h
  · rintro ⟨hn, hc⟩
    rw [← valueOf?_toLower, hc, valueOf?_digit hn]

structure Denotes (t : List Char) (b : UInt8) : Prop where
  isByte : IsByte t
  number : b.toNat = numberOf t
  digits : digits b = t.map Char.toLower

theorem denotes_of_byteOf? {t : List Char} {b : UInt8} (h : byteOf? t = some b) : Denotes t b := by
  match t, h with
  | [high, low], h =>
      simp only [byteOf?, Option.bind_eq_bind, Option.bind_eq_some_iff, Option.pure_def,
        Option.some.injEq] at h
      obtain ⟨m, hUpper, n, hUnder, rfl⟩ := h
      obtain ⟨hm, hHigh⟩ := valueOf?_eq_some_iff.mp hUpper
      obtain ⟨hn, hLow⟩ := valueOf?_eq_some_iff.mp hUnder
      have hNat : (UInt8.ofNat (16 * m + n)).toNat = 16 * m + n := by
        rw [UInt8.toNat_ofNat']
        omega
      refine ⟨⟨rfl, ?_⟩, ?_, ?_⟩
      · intro c hc
        rcases (by simpa using hc : c = high ∨ c = low) with rfl | rfl
        · exact mem_lowerDigits_iff.mpr ⟨m, hm, hHigh⟩
        · exact mem_lowerDigits_iff.mpr ⟨n, hn, hLow⟩
      · rw [hNat]
        simp [numberOf, hHigh, hLow, idxOf_digit hm, idxOf_digit hn]
      · have hUpper : (16 * m + n) / 16 = m := by omega
        have hUnder : (16 * m + n) % 16 = n := by omega
        rw [Text.Hex.digits, hNat, hUpper, hUnder, ← hHigh, ← hLow]
        rfl

theorem byteOf?_of_isByte {t : List Char} (h : IsByte t) : ∃ b, byteOf? t = some b := by
  obtain ⟨hLength, hDigits⟩ := h
  obtain ⟨high, low, rfl⟩ := List.length_eq_two.mp hLength
  obtain ⟨m, hm, hHigh⟩ := mem_lowerDigits_iff.mp (hDigits high (by simp))
  obtain ⟨n, hn, hLow⟩ := mem_lowerDigits_iff.mp (hDigits low (by simp))
  refine ⟨UInt8.ofNat (16 * m + n), ?_⟩
  simp [byteOf?, valueOf?_eq_some_iff.mpr ⟨hm, hHigh⟩, valueOf?_eq_some_iff.mpr ⟨hn, hLow⟩]

theorem byteOf?_of_not_isByte {t : List Char} (h : ¬ IsByte t) : byteOf? t = none := by
  cases hByte : byteOf? t with
  | none => rfl
  | some b => exact absurd (denotes_of_byteOf? hByte).isByte h

theorem readTokens_eq_ok_iff {ts : List (List Char)} {bs : List UInt8} {i : Nat} :
    readTokens i ts = .ok bs ↔ ts.map byteOf? = bs.map some := by
  induction ts generalizing i bs with
  | nil => cases bs <;> simp [readTokens]
  | cons t ts ih =>
      cases hByte : byteOf? t with
      | none => cases bs <;> simp [readTokens, hByte]
      | some b =>
          cases bs with
          | nil => cases hRest : readTokens (i + 1) ts <;> simp [readTokens, hByte, hRest, Except.map]
          | cons b' bs =>
              simp only [List.map_cons, List.cons.injEq, ← ih (i := i + 1), hByte]
              cases hRest : readTokens (i + 1) ts <;> simp [readTokens, hByte, hRest, Except.map]

theorem length_of_readTokens {ts : List (List Char)} {bs : List UInt8} {i : Nat}
    (h : readTokens i ts = .ok bs) : bs.length = ts.length := by
  simpa using (congrArg List.length (readTokens_eq_ok_iff.mp h)).symm

theorem map_byte_eq {ts : List (List Char)} {bs : List UInt8}
    (h : ts.map byteOf? = bs.map some) : bs.map byte = ts.map inLowerCase := by
  induction ts generalizing bs with
  | nil => cases bs with
    | nil => rfl
    | cons b bs => cases h
  | cons t ts ih =>
      cases bs with
      | nil => cases h
      | cons b bs =>
          obtain ⟨hByte, hRest⟩ := List.cons.inj h
          rw [List.map_cons, List.map_cons, ih hRest, byte, (denotes_of_byteOf? hByte).digits,
            inLowerCase]

theorem exists_readTokens {ts : List (List Char)} (h : ∀ t ∈ ts, IsByte t) (i : Nat) :
    ∃ bs, readTokens i ts = .ok bs := by
  induction ts generalizing i with
  | nil => exact ⟨[], rfl⟩
  | cons t ts ih =>
      obtain ⟨ht, hts⟩ := List.forall_mem_cons.mp h
      obtain ⟨b, hByte⟩ := byteOf?_of_isByte ht
      obtain ⟨bs, hRest⟩ := ih hts (i + 1)
      exact ⟨b :: bs, by simp [readTokens, hByte, hRest, Except.map]⟩

/-- The first token that is no byte is reported with its place. -/
theorem readTokens_append_of_not {us ts : List (List Char)} {t : List Char}
    (hBytes : ∀ u ∈ us, IsByte u) (h : ¬ IsByte t) (i : Nat) :
    readTokens i (us ++ t :: ts) = .error (.imageSyntax (i + us.length) (String.ofList t)) := by
  induction us generalizing i with
  | nil => simp [readTokens, byteOf?_of_not_isByte h]
  | cons u us ih =>
      obtain ⟨hu, hus⟩ := List.forall_mem_cons.mp hBytes
      obtain ⟨b, hByte⟩ := byteOf?_of_isByte hu
      have hPlace : i + 1 + us.length = i + (us.length + 1) := by omega
      simp [readTokens, hByte, ih hus, Except.map, hPlace]

end

/-! ## Pages -/

theorem page_cons (w : String) (ws : List String) :
    page (w :: ws) =
      String.intercalate " " ((w :: ws).take 16) ++ "\n" ++ page (ws.drop 15) := by
  have hLines : ((w :: ws).length + 15) / 16 = ((ws.drop 15).length + 15) / 16 + 1 := by
    simp only [List.length_cons, List.length_drop]
    omega
  have hRest : ∀ k, (w :: ws).drop (16 * (k + 1)) = (ws.drop 15).drop (16 * k) := by
    intro k
    rw [List.drop_drop, show 16 * (k + 1) = 15 + 16 * k + 1 by omega, List.drop_succ_cons]
  rw [page, hLines, List.range_succ_eq_map, List.map_cons, String.join_cons, List.map_map]
  simp only [Function.comp_def, Nat.succ_eq_add_one, hRest]
  rfl

theorem format_eq_page (bs : List UInt8) : format bs = page (bs.map Text.Hex.byte) := by
  fun_induction format bs with
  | case1 => rfl
  | case2 b bs ih => rw [ih, List.map_cons, page_cons, ← List.map_cons, List.map_take, List.map_drop]

theorem Runs.line {w : List Char} {ws ts : List (List Char)} {rest : List Char}
    (hWords : ∀ u ∈ w :: ws, u ≠ [] ∧ ∀ c ∈ u, Text.isBlank c = false) (hRest : Runs ts rest) :
    Runs (w :: ws ++ ts) ([' '].intercalate (w :: ws) ++ '\n' :: rest) := by
  have hNone : ∀ c ∈ ([] : List Char), Text.isBlank c = true := by simp
  have hBlank : Text.isBlank '\n' = true ∧ Text.isBlank ' ' = true := by decide
  induction ws generalizing w with
  | nil =>
      obtain ⟨hToken, hVisible⟩ := hWords w List.mem_cons_self
      have hEnd : ∀ c ∈ ('\n' :: rest).head?, Text.isBlank c = true := by simpa using hBlank.1
      simpa using Runs.token hNone hToken hVisible hEnd (hRest.cons_blank hBlank.1)
  | cons u ws ih =>
      obtain ⟨⟨hToken, hVisible⟩, hOthers⟩ := List.forall_mem_cons.mp hWords
      have hBehind := (ih hOthers).cons_blank hBlank.2
      have hEnd : ∀ c ∈ (' ' :: ([' '].intercalate (u :: ws) ++ '\n' :: rest)).head?,
          Text.isBlank c = true := by simpa using hBlank.2
      simpa [List.intercalate_cons_cons] using Runs.token hNone hToken hVisible hEnd hBehind

theorem toList_byte (b : UInt8) : (Text.Hex.byte b).toList = Text.Hex.digits b :=
  String.toList_ofList

theorem visible_digits (b : UInt8) :
    Text.Hex.digits b ≠ [] ∧ ∀ c ∈ Text.Hex.digits b, Text.isBlank c = false := by
  have hAll : ∀ i : Fin 16, Text.isBlank (Text.Hex.digit i.val) = false := by decide
  have hb := b.toNat_lt
  refine ⟨by simp [Text.Hex.digits], ?_⟩
  intro c hc
  rcases (by simpa [Text.Hex.digits] using hc : c = Text.Hex.digit (b.toNat / 16) ∨
    c = Text.Hex.digit (b.toNat % 16)) with rfl | rfl
  · exact hAll ⟨b.toNat / 16, by omega⟩
  · exact hAll ⟨b.toNat % 16, by omega⟩

theorem runs_format (bs : List UInt8) : Runs (bs.map Text.Hex.digits) (format bs).toList := by
  fun_induction format bs with
  | case1 => exact .blank (by simp)
  | case2 b bs ih =>
      have hWords : ∀ u ∈ Text.Hex.digits b :: (bs.take 15).map Text.Hex.digits,
          u ≠ [] ∧ ∀ c ∈ u, Text.isBlank c = false := by
        intro u hu
        obtain ⟨v, -, rfl⟩ : ∃ v ∈ b :: bs.take 15, Text.Hex.digits v = u := by
          simpa only [← List.map_cons, List.mem_map] using hu
        exact visible_digits v
      have hLine := Runs.line hWords ih
      have hAll : Text.Hex.digits b :: (bs.take 15).map Text.Hex.digits ++
          (bs.drop 15).map Text.Hex.digits = (b :: bs).map Text.Hex.digits := by
        rw [List.cons_append, ← List.map_append, List.take_append_drop, List.map_cons]
      rw [hAll] at hLine
      have hText : String.toList ∘ Text.Hex.byte = Text.Hex.digits :=
        funext toList_byte
      simpa [String.toList_intercalate, toList_byte, hText] using hLine

theorem tokens_format (bs : List UInt8) :
    tokens (format bs).toList = bs.map Text.Hex.digits :=
  (runs_iff.mp (runs_format bs)).symm

theorem readTokens_digits (bs : List UInt8) : readTokens 0 (bs.map Text.Hex.digits) = .ok bs := by
  rw [readTokens_eq_ok_iff, List.map_map]
  exact List.map_congr_left fun b _ => Text.Hex.byteOf?_digits b

/-! ## Images -/

theorem parse_of_readTokens {text : String} {bs : List UInt8}
    (h : readTokens 0 (tokens text.toList) = .ok bs) :
    parse text = if bs.length = 256 then .ok (zero.writeAll 0 bs)
      else .error (.sizeMismatch 256 bs.length) := by
  rw [parse, h]
  rfl

theorem parse_of_refused {text : String} {e : Fault}
    (h : readTokens 0 (tokens text.toList) = .error e) : parse text = .error e := by
  rw [parse, h]
  rfl

theorem readTokens_of_parse {text : String} {m : Memory} (h : parse text = .ok m) :
    readTokens 0 (tokens text.toList) = .ok m.toList := by
  cases hTokens : readTokens 0 (tokens text.toList) with
  | error e =>
      rw [parse_of_refused hTokens] at h
      cases h
  | ok bs =>
      rw [parse_of_readTokens hTokens] at h
      split at h
      · next hLength =>
          cases h
          rw [toList_writeAll hLength]
      · cases h

theorem reads_parse (text : String) : Reads (tokens text.toList) (parse text) := by
  have hRead : ∀ m, parse text = .ok m →
      (tokens text.toList).map Text.Hex.byteOf? = m.toList.map some :=
    fun m h => readTokens_eq_ok_iff.mp (readTokens_of_parse h)
  refine ⟨⟨?_, ?_⟩, ?_, ?_, ?_, ?_⟩
  · rintro ⟨m, hm⟩
    refine ⟨?_, ?_⟩
    · exact (length_of_readTokens (readTokens_of_parse hm)).symm.trans m.length_toList
    · intro t ht
      have hMem : Text.Hex.byteOf? t ∈ m.toList.map some :=
        hRead m hm ▸ List.mem_map_of_mem ht
      obtain ⟨b, -, hByte⟩ := List.mem_map.mp hMem
      exact (denotes_of_byteOf? hByte.symm).isByte
  · rintro ⟨hLength, hBytes⟩
    obtain ⟨bs, hbs⟩ := exists_readTokens hBytes 0
    exact ⟨_, (parse_of_readTokens hbs).trans (if_pos ((length_of_readTokens hbs).trans hLength))⟩
  · intro m hm a
    have hCell := congrArg (fun l => l[a.toNat]?) (hRead m hm)
    simp only [List.getElem?_map, m.getElem?_toList, Option.map_some] at hCell
    obtain ⟨t, ht, hByte⟩ := Option.map_eq_some_iff.mp hCell
    exact ⟨t, ht, (denotes_of_byteOf? hByte).number⟩
  · intro m hm
    rw [format_eq_page, map_byte_eq (hRead m hm)]
  · intro k t hk hBad hBefore
    obtain ⟨hIndex, hAt⟩ := List.getElem?_eq_some_iff.mp hk
    have hSplit : (tokens text.toList).take k ++ t :: (tokens text.toList).drop (k + 1) =
        tokens text.toList := by
      rw [← hAt, ← List.drop_eq_getElem_cons hIndex, List.take_append_drop]
    apply parse_of_refused
    rw [← hSplit, readTokens_append_of_not hBefore hBad, List.length_take_of_le hIndex.le,
      Nat.zero_add]
  · intro hBytes hLength
    obtain ⟨bs, hbs⟩ := exists_readTokens hBytes 0
    rw [parse_of_readTokens hbs, length_of_readTokens hbs, if_neg hLength]

theorem parse_format (bs : List UInt8) :
    (parse (format bs)).map Memory.toList =
      if bs.length = 256 then .ok bs else .error (.sizeMismatch 256 bs.length) := by
  have hTokens : readTokens 0 (tokens (format bs).toList) = .ok bs := by
    rw [tokens_format, readTokens_digits]
  rw [parse_of_readTokens hTokens]
  split
  · next hLength => simp [Except.map, toList_writeAll hLength]
  · rfl

/-- Bytes survive being written and read exactly if they fill the memory. Every text is cut into
tokens in one way, and whether it is read, what is read and what is reported follow from them. -/
theorem parse_of_bytes_and_tokens :
    (∀ bs : List UInt8, (parse (format bs)).map Memory.toList =
      if bs.length = 256 then .ok bs else .error (.sizeMismatch 256 bs.length)) ∧
    ∀ text : String, ∃ ts, (∀ us, Runs us text.toList ↔ us = ts) ∧ Reads ts (parse text) :=
  ⟨parse_format, fun text => ⟨tokens text.toList, fun _ => runs_iff, reads_parse text⟩⟩

end Memory.Image

end Microbus
