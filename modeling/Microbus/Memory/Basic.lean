import Microbus.Fault

/-! # Memory

256 cells, one for every byte address. Bytes are loaded as a whole image or at an offset; a load
that does not fit is refused and changes nothing.
-/

namespace Microbus
set_option autoImplicit false

structure Memory where
  cells : Vector UInt8 256
  deriving DecidableEq

namespace Memory

def size : Nat := 256

def zero : Memory := ⟨Vector.replicate 256 0⟩

def read (m : Memory) (address : UInt8) : UInt8 :=
  have hAddress := address.toNat_lt
  m.cells[address.toNat]

def write (m : Memory) (address v : UInt8) : Memory :=
  ⟨m.cells.set address.toNat v address.toNat_lt⟩

/-- The memory with bytes replaced from an address on; past the last cell comes the first. -/
def writeAll (m : Memory) (address : UInt8) : List UInt8 → Memory
  | [] => m
  | v :: vs => (m.write address v).writeAll (address + 1) vs

def toList (m : Memory) : List UInt8 := m.cells.toList

def loadImage (m : Memory) (image : List UInt8) : Except Fault Memory :=
  if image.length = size then .ok (m.writeAll 0 image)
  else .error (.sizeMismatch size image.length)

/-- Replaces the cells from an offset on; the bytes must end with the last cell at most. -/
def loadAt (m : Memory) (bytes : List UInt8) (offset : UInt8) : Except Fault Memory :=
  let available := size - offset.toNat
  if bytes.length ≤ available then .ok (m.writeAll offset bytes)
  else .error (.sizeMismatch available bytes.length)

theorem read_write (m : Memory) (a b v : UInt8) :
    (m.write a v).read b = if a = b then v else m.read b := by
  simp only [read, write, Vector.getElem_set, UInt8.toNat_inj]

theorem ext_read {m n : Memory} (h : ∀ a, m.read a = n.read a) : m = n := by
  obtain ⟨m⟩ := m
  obtain ⟨n⟩ := n
  congr 1
  apply Vector.ext
  intro i hi
  simpa [read, Nat.mod_eq_of_lt hi] using h (UInt8.ofNat i)

end Memory

end Microbus
