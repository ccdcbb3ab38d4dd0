import Mathlib.Logic.Function.Basic
import Microbus.Alu
import Microbus.FlagRegister
import Microbus.Memory.Ram
import Microbus.Output.Port

/-! # Parts that can share a bus

Every kind of part, seen from the bus. A seat is what can be marked and resolved by itself: a part,
or the address register inside one. For each seat this module says what it offers to the bus, what
it stores and what it would store after a byte from the bus, without reference to marks; marking
and resolving a seat is then described by these and by what the bus makes of the request.
-/

namespace Microbus
set_option autoImplicit false

/-! ## Requests -/

inductive BusRequest where
  | drive (v : UInt8)
  | listen
  | clear
  deriving DecidableEq

namespace BusRequest

def effect (bus : Bus) : BusRequest → Bus
  | drive v => if bus.held = none then ⟨some v, v⟩ else bus
  | listen => bus
  | clear => bus.clockReset

def fault? (bus : Bus) : BusRequest → Option Fault
  | drive v => bus.held.map fun held => .busConflict held v
  | listen => if bus.held = none then some .busUnwritten else none
  | clear => none

def obtained? (bus : Bus) : BusRequest → Option UInt8
  | listen => bus.held
  | drive _ | clear => none

def driven? : BusRequest → Option UInt8
  | drive v => some v
  | listen | clear => none

theorem held_effect {r : BusRequest} (h : r ≠ .clear) (bus : Bus) :
    (r.effect bus).held = bus.held.or r.driven? := by
  cases r with
  | drive v => cases hHeld : bus.held <;> simp [effect, driven?, hHeld]
  | listen => exact Option.or_none.symm
  | clear => exact absurd rfl h

/-- Only a byte that was not refused is remembered. -/
theorem last_effect (r : BusRequest) (bus : Bus) :
    (r.effect bus).last = (if r.fault? bus = none then r.driven? else none).getD bus.last := by
  cases r with
  | drive v => cases hHeld : bus.held <;> simp [effect, fault?, driven?, hHeld]
  | listen => simp [effect, driven?]
  | clear => rfl

theorem obtained?_eq_some_iff {bus : Bus} {r : BusRequest} {v : UInt8} :
    r.obtained? bus = some v ↔ r = .listen ∧ bus.held = some v := by
  cases r <;> simp [obtained?]

theorem obtained?_of_fault {bus : Bus} {r : BusRequest} (h : r.fault? bus ≠ none) :
    r.obtained? bus = none := by
  cases r with
  | drive v | clear => rfl
  | listen =>
      by_contra hHeld
      exact h (if_neg hHeld)

theorem effect_of_fault {bus : Bus} {r : BusRequest} (h : r.fault? bus ≠ none) :
    r.effect bus = bus := by
  cases r with
  | drive v => exact if_neg fun hFree => h (by simp [fault?, hFree])
  | listen => rfl
  | clear => exact absurd rfl h

end BusRequest

namespace BusPart

variable {σ : Type} [BusPart σ]

def request (p : σ) : Option BusRequest :=
  match mark p with
  | .idle => none
  | .transmit => some (.drive (drive p))
  | .receive => some .listen

def resolved (p : σ) (v? : Option UInt8) : σ :=
  v?.elim (settle (unmark p)) (latch (settle (unmark p)))

/-- Resolving a part hands its request to the bus; the part keeps the byte that it obtained. -/
theorem resolve_request (p : σ) (bus : Bus) :
    (resolve p bus).bus = (request p).elim bus (BusRequest.effect bus) ∧
      (resolve p bus).fault = (request p).bind (BusRequest.fault? bus) ∧
      (resolve p bus).part = resolved p ((request p).bind (BusRequest.obtained? bus)) := by
  cases hMark : mark p with
  | idle => simp [resolve, request, hMark, resolved]
  | transmit =>
      cases hHeld : bus.held <;>
        simp [resolve, request, hMark, resolved, Bus.transmit, hHeld, BusRequest.effect,
          BusRequest.fault?, BusRequest.obtained?]
  | receive =>
      cases hHeld : bus.held <;>
        simp [resolve, request, hMark, resolved, Bus.receive, hHeld, BusRequest.effect,
          BusRequest.fault?, BusRequest.obtained?]

end BusPart

/-! ## Kinds and seats -/

inductive PartKind where
  | register (name : String) (readable : Bool)
  | alu
  | flags
  | ram
  | port

abbrev PartKind.State (δ : Type) : PartKind → Type
  | register name readable => Register name readable
  | alu => AluUnit
  | flags => FlagRegister
  | ram => Ram
  | port => OutputPort δ

inductive Seat : PartKind → Type where
  | whole (k : PartKind) : Seat k
  | memoryAddress : Seat .ram
  | outputAddress : Seat .port
  deriving DecidableEq

inductive Stored (δ : Type) where
  | byte (v : UInt8)
  | cells (read : UInt8 → UInt8)
  | device (d : δ)

structure Socket (σ : Type) where
  Part : Type
  [isPart : LawfulBusPart Part]
  get : σ → Part
  put : σ → Part → σ

attribute [instance] Socket.isPart

theorem Memory.read_write_eq_update (m : Memory) (a v : UInt8) :
    (m.write a v).read = Function.update m.read a v := by
  funext b
  rw [read_write, Function.update_apply]
  simp only [eq_comm]

namespace Seat

variable {δ : Type} {k : PartKind}

def canDrive : {k : PartKind} → Seat k → Bool
  | .register _ readable, .whole _ => readable
  | .flags, .whole _ | .port, .whole _ => false
  | _, _ => true

/-- The byte that a seat puts on the bus: its own, or the cell at the memory address. The data input
of a port, which no call marks to drive, has its address here. -/
def offered : {k : PartKind} → Seat k → k.State δ → UInt8
  | .register _ _, .whole _, r => r.value
  | .alu, .whole _, u => u.value
  | .flags, .whole _, fr => fr.value
  | .ram, .whole _, r => r.memory.read r.address.value
  | .ram, .memoryAddress, r => r.address.value
  | .port, .whole _, p | .port, .outputAddress, p => p.address.value

def stored : {k : PartKind} → Seat k → k.State δ → Stored δ
  | .register _ _, .whole _, r => .byte r.value
  | .alu, .whole _, u => .byte u.value
  | .flags, .whole _, fr => .byte fr.value
  | .ram, .whole _, r => .cells r.memory.read
  | .ram, .memoryAddress, r => .byte r.address.value
  | .port, .whole _, p => .device p.device
  | .port, .outputAddress, p => .byte p.address.value

variable [OutputDevice δ]

/-- What a seat stores after it took a byte: the byte, alone or in the cell at the memory address,
or the device to which it was sent at the output address. -/
def received : {k : PartKind} → Seat k → k.State δ → UInt8 → Stored δ
  | .ram, .whole _, r, v => .cells (Function.update r.memory.read r.address.value v)
  | .port, .whole _, p, v => .device (OutputDevice.data p.device p.address.value v)
  | _, _, _, v => .byte v

def socket : {k : PartKind} → Seat k → Socket (k.State δ)
  | .register name readable, .whole _ => ⟨Register name readable, id, fun _ p => p⟩
  | .alu, .whole _ => ⟨AluUnit, id, fun _ p => p⟩
  | .flags, .whole _ => ⟨FlagRegister, id, fun _ p => p⟩
  | .ram, .whole _ => ⟨Ram, id, fun _ p => p⟩
  | .ram, .memoryAddress => ⟨Register "MA" true, Ram.address, fun r p => { r with address := p }⟩
  | .port, .whole _ => ⟨OutputPort δ, id, fun _ p => p⟩
  | .port, .outputAddress =>
      ⟨Register "OA" true, OutputPort.address, fun r p => { r with address := p }⟩

def mark (s : Seat k) (σ : k.State δ) : Mark := BusPart.mark (s.socket.get σ)

def setMark (s : Seat k) (σ : k.State δ) (m : Mark) : k.State δ :=
  s.socket.put σ (BusPart.setMark (s.socket.get σ) m)

def resolved (s : Seat k) (σ : k.State δ) (v? : Option UInt8) : k.State δ :=
  s.socket.put σ (BusPart.resolved (s.socket.get σ) v?)

theorem drive_socket (s : Seat k) (σ : k.State δ) :
    BusPart.drive (s.socket.get σ) = s.offered σ := by
  cases k <;> cases s <;> rfl

theorem refusal_socket (s : Seat k) (σ : k.State δ) :
    (BusPart.refusal (s.socket.get σ)).isNone = s.canDrive := by
  cases k with
  | register name readable =>
      cases s
      cases readable <;> rfl
  | alu | flags =>
      cases s
      rfl
  | ram | port => cases s <;> rfl

theorem mark_setMark (s t : Seat k) (σ : k.State δ) (m : Mark) :
    t.mark (s.setMark σ m) = if t = s then m else t.mark σ := by
  cases k <;> cases s <;> cases t <;> rfl

theorem stored_setMark (s t : Seat k) (σ : k.State δ) (m : Mark) :
    t.stored (s.setMark σ m) = t.stored σ := by
  cases k <;> cases s <;> cases t <;> rfl

theorem mark_resolved (s t : Seat k) (σ : k.State δ) (v? : Option UInt8) :
    t.mark (s.resolved σ v?) = if t = s then .idle else t.mark σ := by
  cases v? <;> cases k <;> cases s <;> cases t <;> rfl

theorem stored_resolved (s t : Seat k) (σ : k.State δ) (v? : Option UInt8) :
    t.stored (s.resolved σ v?) =
      if t = s then v?.elim (s.stored σ) (s.received σ) else t.stored σ := by
  cases v? with
  | none => cases k <;> cases s <;> cases t <;> rfl
  | some v =>
      cases k with
      | register name readable | alu | flags =>
          cases s
          cases t
          rfl
      | port => cases s <;> cases t <;> rfl
      | ram =>
          cases s with
          | whole =>
              cases t with
              | whole => exact congrArg Stored.cells (Memory.read_write_eq_update _ _ _)
              | memoryAddress => rfl
          | memoryAddress => cases t <;> rfl

end Seat

end Microbus
