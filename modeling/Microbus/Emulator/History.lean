import Microbus.Instruction.Text

/-! # Instruction history

The instructions decoded last, oldest first. When the history is full, the oldest entry makes room
for the new one.
-/

namespace Microbus
set_option autoImplicit false

structure HistoryEntry where
  pc : UInt8
  opcode : UInt8
  operand : UInt8
  deriving DecidableEq

def HistoryEntry.text (e : HistoryEntry) : String :=
  "[pc=" ++ Text.Hex.upperByte e.pc ++ "] " ++ disassemble e.opcode e.operand

/-- The instructions decoded last. -/
structure History where
  entries : Array HistoryEntry

namespace History

def capacity : Nat := 256

def empty : History := ⟨#[]⟩

def size (h : History) : Nat := h.entries.size

def toList (h : History) : List HistoryEntry := h.entries.toList

def last? (h : History) : Option HistoryEntry := h.entries.back?

def lastEntries (h : History) (n : Nat) : List HistoryEntry := h.toList.drop (h.size - n)

def push (h : History) (e : HistoryEntry) : History :=
  if h.size = capacity then ⟨(h.entries.extract 1 h.size).push e⟩ else ⟨h.entries.push e⟩

theorem toList_push (h : History) (e : HistoryEntry) :
    (h.push e).toList = (if h.size = capacity then h.toList.drop 1 else h.toList) ++ [e] := by
  unfold push
  split
  · simp only [toList, size, Array.toList_push, Array.toList_extract, List.drop_one]
    rw [List.extract_eq_take_drop, List.drop_one, List.take_of_length_le (by simp)]
  · simp [toList]

end History

end Microbus
