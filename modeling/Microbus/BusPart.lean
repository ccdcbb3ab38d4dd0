import Microbus.Bus

/-! # Parts on the bus

A part can be marked to drive the bus or to latch it, and resolving the part carries the mark out.
The class lists what a part has to say about itself; marking and resolving are then the same for
all of them, and a resolved part is never left with a mark.
-/

namespace Microbus
set_option autoImplicit false

inductive Mark where
  | idle
  | transmit
  | receive
  deriving DecidableEq

inductive DeviceEvent where
  | command (value : UInt8)
  | data (address value : UInt8)
  | unclaimed (address value : UInt8)
  | reset
  deriving DecidableEq

/-- A component that is attached to the bus. A part with a refusal cannot drive the bus and refuses
under that name; settling is what every resolution does to a part besides the transfer. -/
class BusPart (σ : Type) where
  mark : σ → Mark
  setMark : σ → Mark → σ
  refusal : σ → Option String
  drive : σ → UInt8
  latch : σ → UInt8 → σ
  report : σ → UInt8 → List DeviceEvent := fun _ _ => []
  settle : σ → σ := id

structure Resolution (σ : Type) where
  part : σ
  bus : Bus
  fault : Option Fault
  reports : List DeviceEvent

namespace BusPart

variable {σ : Type} [BusPart σ]

def markTransmit (p : σ) : Except Fault σ :=
  match refusal p with
  | some name => .error (.readForbidden name)
  | none => .ok (setMark p .transmit)

def markReceive (p : σ) : σ := setMark p .receive

def unmark (p : σ) : σ := setMark p .idle

def isActing (p : σ) : Bool := mark p != .idle

/-- Carries out the mark of a part and drops it, also when the bus refuses. -/
def resolve (p : σ) (bus : Bus) : Resolution σ :=
  let rested := settle (unmark p)
  match mark p with
  | .idle => ⟨rested, bus, none, []⟩
  | .transmit =>
      match bus.transmit (drive p) with
      | .ok driven => ⟨rested, driven, none, []⟩
      | .error e => ⟨rested, bus, some e, []⟩
  | .receive =>
      match bus.receive with
      | .ok v => ⟨latch rested v, bus, none, report p v⟩
      | .error e => ⟨rested, bus, some e, []⟩

end BusPart

/-- A part whose mark is independent of everything else it holds. -/
class LawfulBusPart (σ : Type) extends BusPart σ where
  mark_setMark : ∀ (p : σ) (m : Mark), mark (setMark p m) = m
  setMark_setMark : ∀ (p : σ) (m n : Mark), setMark (setMark p m) n = setMark p n
  setMark_mark : ∀ p : σ, setMark p (mark p) = p
  mark_latch : ∀ (p : σ) (v : UInt8), mark (latch p v) = mark p
  mark_settle : ∀ p : σ, mark (settle p) = mark p
  refusal_setMark : ∀ (p : σ) (m : Mark), refusal (setMark p m) = refusal p
  drive_setMark : ∀ (p : σ) (m : Mark), drive (setMark p m) = drive p

namespace LawfulBusPart

variable {σ : Type} [LawfulBusPart σ]

@[simp] theorem mark_unmark (p : σ) : BusPart.mark (BusPart.unmark p) = .idle :=
  mark_setMark p .idle

@[simp] theorem mark_markReceive (p : σ) : BusPart.mark (BusPart.markReceive p) = .receive :=
  mark_setMark p .receive

theorem mark_resolve (p : σ) (bus : Bus) : BusPart.mark (BusPart.resolve p bus).part = .idle := by
  have hRested : BusPart.mark (BusPart.settle (BusPart.unmark p)) = .idle := by
    rw [mark_settle, mark_unmark]
  unfold BusPart.resolve
  split
  · exact hRested
  · split <;> exact hRested
  · split
    · rw [mark_latch]
      exact hRested
    · exact hRested

end LawfulBusPart

end Microbus
