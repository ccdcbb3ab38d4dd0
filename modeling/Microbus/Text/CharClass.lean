/-! # Classes of characters

A class is stored as the list of the code point ranges that belong to it. Two notions of blank are
used: `isBlank` is the white space of Unicode, which separates the bytes of a memory image and
decides whether a line has any content, and `isSpace` is the space and the tab, the only blanks that
may stand between the parts of a line of source text.
-/

namespace Microbus.Text
set_option autoImplicit false

/-- Ranges of code points, both ends included, in ascending order. -/
abbrev CodeRanges := List (Nat × Nat)

def CodeRanges.holds (ranges : CodeRanges) (c : Char) : Bool :=
  ranges.any fun r => decide (r.1 ≤ c.toNat) && decide (c.toNat ≤ r.2)

def isBlank (c : Char) : Bool :=
  let n := c.toNat
  (decide (0x09 ≤ n) && decide (n ≤ 0x0d)) || n == 0x20 || n == 0x85 || n == 0xa0 || n == 0x1680 ||
    (decide (0x2000 ≤ n) && decide (n ≤ 0x200a)) || n == 0x2028 || n == 0x2029 || n == 0x202f ||
    n == 0x205f || n == 0x3000

def isSpace (c : Char) : Bool := c == ' ' || c == '\t'

def allBlank (cs : List Char) : Bool := cs.all isBlank

theorem isBlank_of_isSpace {c : Char} (h : isSpace c = true) : isBlank c = true := by
  simp only [isSpace, Bool.or_eq_true, beq_iff_eq] at h
  rcases h with rfl | rfl <;> decide

end Microbus.Text
