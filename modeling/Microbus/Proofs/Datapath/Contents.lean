import Mathlib.Logic.Function.Basic
import Microbus.Machine.Cycle

/-! # The contents of the datapath

Marks and queued flags come and go within a cycle; the bytes in the registers, the memory and the
device stay. The contents are those lasting parts seen as one value. What a node drives and what
it does with a byte from the bus depend on them alone, and every operation on the datapath is
described here by what it does to the contents, to the marks and to the queued flags.
-/

namespace Microbus
set_option autoImplicit false

/-- What the datapath holds beyond a cycle. -/
structure Contents (δ : Type) where
  register : RegName → UInt8
  memory : Memory
  device : δ

namespace Contents

variable {δ : Type}

def set (c : Contents δ) (r : RegName) (v : UInt8) : Contents δ :=
  { c with register := Function.update c.register r v }

def drive (c : Contents δ) : Node → UInt8
  | .register r => c.register r
  | .memory => c.memory.read (c.register .ma)
  | .outputData => c.register .oa

variable [OutputDevice δ]

def latch (c : Contents δ) (n : Node) (v : UInt8) : Contents δ :=
  match n with
  | .register r => c.set r v
  | .memory => { c with memory := c.memory.write (c.register .ma) v }
  | .outputData => { c with device := OutputDevice.data c.device (c.register .oa) v }

def latchAll (c : Contents δ) (v : UInt8) (ns : List Node) : Contents δ :=
  ns.foldl (fun c n => c.latch n v) c

theorem register_latch (c : Contents δ) (n : Node) (v : UInt8) (r : RegName) :
    (c.latch n v).register r = if .register r = n then v else c.register r := by
  cases n with
  | register s => simp [latch, set, Function.update_apply]
  | memory | outputData => simp [latch]

theorem register_latchAll (c : Contents δ) (v : UInt8) (ns : List Node) (r : RegName) :
    (c.latchAll v ns).register r = if .register r ∈ ns then v else c.register r := by
  induction ns generalizing c with
  | nil => simp [latchAll]
  | cons n ns ih =>
      have hCons : c.latchAll v (n :: ns) = (c.latch n v).latchAll v ns := rfl
      rw [hCons, ih, register_latch]
      by_cases hHead : .register r = n <;> simp [hHead]

theorem memory_latchAll {ns : List Node} (h : .memory ∉ ns) (c : Contents δ) (v : UInt8) :
    (c.latchAll v ns).memory = c.memory := by
  induction ns generalizing c with
  | nil => rfl
  | cons n ns ih =>
      obtain ⟨hn, hns⟩ := not_or.mp (mt List.mem_cons.mpr h)
      have hCons : c.latchAll v (n :: ns) = (c.latch n v).latchAll v ns := rfl
      rw [hCons, ih hns]
      cases n with
      | memory => exact absurd rfl hn
      | register s | outputData => rfl

end Contents

def Node.canDrive : Node → Bool
  | .register .ip | .register .fr | .register .out | .outputData => false
  | _ => true

namespace Datapath

variable {δ : Type}

def contents (d : Datapath δ) : Contents δ := ⟨d.get, d.memory, d.port.device⟩

theorem contents_set (d : Datapath δ) (r : RegName) (v : UInt8) :
    (d.set r v).contents = d.contents.set r v := by
  have hGet : (d.set r v).get = Function.update d.get r v := by
    funext s
    rw [get_set, Function.update_apply]
    simp only [eq_comm]
  cases r <;> simp only [contents, Contents.set, hGet] <;> rfl

theorem pending_set (d : Datapath δ) (r : RegName) (v : UInt8) :
    (d.set r v).fr.pending = d.fr.pending := by
  cases r <;> rfl

variable [OutputDevice δ]

def setMark (d : Datapath δ) (n : Node) (k : Mark) : Datapath δ :=
  (slot n).put d (BusPart.setMark ((slot n).get d) k)

def rested (d : Datapath δ) (n : Node) : Datapath δ :=
  (slot n).put d (BusPart.settle (BusPart.unmark ((slot n).get d)))

def taken (d : Datapath δ) (n : Node) (v : UInt8) : Datapath δ :=
  (slot n).put d (BusPart.latch (BusPart.settle (BusPart.unmark ((slot n).get d))) v)

@[simp] theorem contents_setMark (d : Datapath δ) (n : Node) (k : Mark) :
    (d.setMark n k).contents = d.contents := by
  cases n with
  | register r => cases r <;> rfl
  | memory | outputData => rfl

@[simp] theorem contents_rested (d : Datapath δ) (n : Node) :
    (d.rested n).contents = d.contents := by
  cases n with
  | register r => cases r <;> rfl
  | memory | outputData => rfl

@[simp] theorem contents_taken (d : Datapath δ) (n : Node) (v : UInt8) :
    (d.taken n v).contents = d.contents.latch n v := by
  cases n with
  | register r =>
      have hGet : (d.taken (.register r) v).get = Function.update d.get r v := by
        funext s
        cases r <;> cases s <;> rfl
      cases r <;> simp only [contents, Contents.latch, Contents.set, hGet] <;> rfl
  | memory | outputData => rfl

@[simp] theorem pending_setMark (d : Datapath δ) (n : Node) (k : Mark) :
    (d.setMark n k).fr.pending = d.fr.pending := by
  cases n with
  | register r => cases r <;> rfl
  | memory | outputData => rfl

@[simp] theorem pending_rested (d : Datapath δ) (n : Node) :
    (d.rested n).fr.pending = d.fr.pending := by
  cases n with
  | register r => cases r <;> rfl
  | memory | outputData => rfl

@[simp] theorem pending_taken (d : Datapath δ) (n : Node) (v : UInt8) :
    (d.taken n v).fr.pending = d.fr.pending := by
  cases n with
  | register r => cases r <;> rfl
  | memory | outputData => rfl

@[simp] theorem mark_setMark (d : Datapath δ) (n j : Node) (k : Mark) :
    (d.setMark n k).mark j = if j = n then k else d.mark j := by
  cases n with
  | register r =>
      cases r <;> cases j with
      | register s => cases s <;> rfl
      | memory | outputData => rfl
  | memory | outputData =>
      cases j with
      | register s => cases s <;> rfl
      | memory | outputData => rfl

@[simp] theorem mark_rested (d : Datapath δ) (n j : Node) :
    (d.rested n).mark j = if j = n then .idle else d.mark j := by
  cases n with
  | register r =>
      cases r <;> cases j with
      | register s => cases s <;> rfl
      | memory | outputData => rfl
  | memory | outputData =>
      cases j with
      | register s => cases s <;> rfl
      | memory | outputData => rfl

@[simp] theorem mark_taken (d : Datapath δ) (n j : Node) (v : UInt8) :
    (d.taken n v).mark j = if j = n then .idle else d.mark j := by
  cases n with
  | register r =>
      cases r <;> cases j with
      | register s => cases s <;> rfl
      | memory | outputData => rfl
  | memory | outputData =>
      cases j with
      | register s => cases s <;> rfl
      | memory | outputData => rfl

theorem mark_set (d : Datapath δ) (r : RegName) (v : UInt8) (n : Node) :
    (d.set r v).mark n = d.mark n := by
  cases n with
  | register s => cases r <;> cases s <;> rfl
  | memory | outputData => cases r <;> rfl

theorem drive_slot (d : Datapath δ) (n : Node) :
    BusPart.drive ((slot n).get d) = d.contents.drive n := by
  cases n with
  | register r => cases r <;> rfl
  | memory | outputData => rfl

end Datapath

end Microbus
