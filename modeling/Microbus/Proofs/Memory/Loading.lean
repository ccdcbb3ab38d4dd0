import Microbus.Memory.Basic

/-! # What a load leaves in memory

Bytes that fit behind an address are found at the cells from there on, and every other cell keeps
what it held. A memory is known by the list of its bytes, and loading that list gives it back.
-/

namespace Microbus
set_option autoImplicit false

namespace Memory

def Holds (m : Memory) (o : UInt8) (bytes : List UInt8) : Prop :=
  ∀ j v, bytes[j]? = some v → m.read (o + UInt8.ofNat j) = v

theorem read_writeAll_of_apart {m : Memory} {o a : UInt8} {bytes : List UInt8}
    (h : ∀ j < bytes.length, o + UInt8.ofNat j ≠ a) : (m.writeAll o bytes).read a = m.read a := by
  induction bytes generalizing m o with
  | nil => rfl
  | cons v bytes ih =>
      have hFirst : o ≠ a := by simpa using h 0 (Nat.zero_lt_succ _)
      have hRest : ∀ j < bytes.length, o + 1 + UInt8.ofNat j ≠ a := by
        intro j hj
        have hNext := h (j + 1) (Nat.succ_lt_succ hj)
        rwa [UInt8.ofNat_add, UInt8.add_comm (UInt8.ofNat j), ← UInt8.add_assoc] at hNext
      rw [writeAll, ih hRest, read_write, if_neg hFirst]

theorem holds_writeAll {m : Memory} {o : UInt8} {bytes : List UInt8} (h : bytes.length ≤ 256) :
    (m.writeAll o bytes).Holds o bytes := by
  induction bytes generalizing m o with
  | nil =>
      intro j v hj
      cases hj
  | cons v bytes ih =>
      rw [List.length_cons] at h
      intro j w hj
      cases j with
      | zero =>
          have hApart : ∀ i < bytes.length, o + 1 + UInt8.ofNat i ≠ o := by
            intro i hi hEq
            have hZero : 1 + UInt8.ofNat i = 0 := by
              rw [UInt8.add_assoc] at hEq
              simpa using hEq
            have hNat := congrArg UInt8.toNat hZero
            rw [UInt8.toNat_add, UInt8.toNat_ofNat'] at hNat
            simp at hNat
            omega
          cases hj
          have hHere : o + UInt8.ofNat 0 = o := by simp
          rw [hHere, writeAll, read_writeAll_of_apart hApart, read_write, if_pos rfl]
      | succ j =>
          have hRest : ((m.write o v).writeAll (o + 1) bytes).read (o + 1 + UInt8.ofNat j) = w :=
            ih (by omega) j w hj
          have hPlace : o + 1 + UInt8.ofNat j = o + UInt8.ofNat (j + 1) := by
            rw [UInt8.ofNat_add, UInt8.add_assoc, UInt8.add_comm 1]
            rfl
          rwa [hPlace] at hRest

variable {m : Memory} {o : UInt8} {bytes : List UInt8}

/-- A load replaces exactly the cells that it fills. -/
theorem read_writeAll (h : bytes.length ≤ 256 - o.toNat) (a : UInt8) :
    (m.writeAll o bytes).read a =
      if o.toNat ≤ a.toNat then bytes[a.toNat - o.toNat]?.getD (m.read a) else m.read a := by
  have hPlace : ∀ j < bytes.length, (o + UInt8.ofNat j).toNat = o.toNat + j := by
    intro j hj
    rw [UInt8.toNat_add, UInt8.toNat_ofNat']
    omega
  by_cases hFilled : o.toNat ≤ a.toNat ∧ a.toNat - o.toNat < bytes.length
  · obtain ⟨hFrom, hIndex⟩ := hFilled
    have hAt : o + UInt8.ofNat (a.toNat - o.toNat) = a := by
      rw [← UInt8.toNat_inj, hPlace _ hIndex]
      omega
    have hHolds : (m.writeAll o bytes).Holds o bytes := holds_writeAll (by omega)
    have hRead := hHolds _ _ (List.getElem?_eq_getElem hIndex)
    rw [hAt] at hRead
    rw [hRead, if_pos hFrom, List.getElem?_eq_getElem hIndex, Option.getD_some]
  · have hApart : ∀ j < bytes.length, o + UInt8.ofNat j ≠ a := by
      intro j hj hEq
      have hNat := hPlace j hj
      rw [hEq] at hNat
      omega
    rw [read_writeAll_of_apart hApart]
    split
    · rw [List.getElem?_eq_none (by omega), Option.getD_none]
    · rfl

theorem length_toList (m : Memory) : m.toList.length = 256 := by simp [toList]

theorem getElem?_toList (m : Memory) (a : UInt8) : m.toList[a.toNat]? = some (m.read a) := by
  have ha := a.toNat_lt
  simp [toList, read]

theorem toList_injective {n : Memory} (h : m.toList = n.toList) : m = n := by
  refine ext_read fun a => Option.some.inj ?_
  rw [← getElem?_toList, ← getElem?_toList, h]

theorem toList_writeAll (h : bytes.length = 256) : (m.writeAll 0 bytes).toList = bytes := by
  apply List.ext_getElem?
  intro i
  by_cases hi : i < 256
  · have hNat : (UInt8.ofNat i).toNat = i := by
      rw [UInt8.toNat_ofNat']
      omega
    have hCell := getElem?_toList (m.writeAll 0 bytes) (UInt8.ofNat i)
    have hFits : bytes.length ≤ 256 - (0 : UInt8).toNat := Nat.le_of_eq h
    rw [hNat, read_writeAll hFits, hNat] at hCell
    rw [hCell, UInt8.toNat_zero, if_pos (Nat.zero_le i), Nat.sub_zero,
      List.getElem?_eq_getElem (by omega), Option.getD_some]
  · rw [List.getElem?_eq_none (by rw [length_toList]; omega), List.getElem?_eq_none (by omega)]

theorem loadImage_toList (m n : Memory) : n.loadImage m.toList = .ok m := by
  have hLength : m.toList.length = size := m.length_toList
  have hSame : n.writeAll 0 m.toList = m := toList_injective (toList_writeAll hLength)
  rw [loadImage, if_pos hLength, hSame]

end Memory

end Microbus
