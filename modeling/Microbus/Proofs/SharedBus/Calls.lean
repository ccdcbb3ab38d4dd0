import Microbus.Proofs.SharedBus.Parts

/-! # Calls on parts that share a bus

Any number of parts of any kind hang on one bus, and each call concerns one place or the bus itself.
What a call asks of the bus settles what becomes of the bus and whether the call fails; marks and
stored bytes change at the place of the call only.
-/

namespace Microbus
set_option autoImplicit false

structure SharedBus (δ : Type) {ι : Type} (kinds : ι → PartKind) where
  parts : (i : ι) → (kinds i).State δ
  bus : Bus

namespace SharedBus

variable {δ ι : Type} {kinds : ι → PartKind}

structure Place (kinds : ι → PartKind) where
  part : ι
  seat : Seat (kinds part)
  deriving DecidableEq

inductive Call (kinds : ι → PartKind) where
  | markTransmit (p : Place kinds)
  | markReceive (p : Place kinds)
  | unmark (p : Place kinds)
  | resolve (p : Place kinds)
  | transmit (v : UInt8)
  | receive
  | clockReset

structure Answer (δ : Type) (kinds : ι → PartKind) where
  after : SharedBus δ kinds
  fault : Option Fault
  value : Option UInt8

def attach (parts : (i : ι) → (kinds i).State δ) : SharedBus δ kinds := ⟨parts, .idle⟩

def offered (b : SharedBus δ kinds) (p : Place kinds) : UInt8 := p.seat.offered (b.parts p.part)

def stored (b : SharedBus δ kinds) (p : Place kinds) : Stored δ := p.seat.stored (b.parts p.part)

section

variable [DecidableEq ι]

def replace (b : SharedBus δ kinds) (i : ι) (σ : (kinds i).State δ) : SharedBus δ kinds :=
  { b with parts := Function.update b.parts i σ }

theorem view_replace {α : Type} (view : {k : PartKind} → Seat k → k.State δ → α)
    {b : SharedBus δ kinds} {p : Place kinds} {σ : (kinds p.part).State δ} {a : α}
    (h : ∀ t, view t σ = if t = p.seat then a else view t (b.parts p.part)) (q : Place kinds) :
    view q.seat ((b.replace p.part σ).parts q.part) =
      if q = p then a else view q.seat (b.parts q.part) := by
  obtain ⟨i, s⟩ := p
  obtain ⟨j, t⟩ := q
  by_cases hPart : j = i
  · subst hPart
    simpa [replace] using h t
  · simp [replace, hPart]

end

variable [OutputDevice δ]

def mark (b : SharedBus δ kinds) (p : Place kinds) : Mark := p.seat.mark (b.parts p.part)

def received (b : SharedBus δ kinds) (p : Place kinds) (v : UInt8) : Stored δ :=
  p.seat.received (b.parts p.part) v

/-- What a call asks of the bus; a part asks when it is resolved, for what it is marked for. -/
def request (b : SharedBus δ kinds) : Call kinds → Option BusRequest
  | .resolve p =>
      match b.mark p with
      | .idle => none
      | .transmit => some (.drive (b.offered p))
      | .receive => some .listen
  | .transmit v => some (.drive v)
  | .receive => some .listen
  | .clockReset => some .clear
  | .markTransmit _ | .markReceive _ | .unmark _ => none

theorem request_resolve (b : SharedBus δ kinds) (p : Place kinds) :
    b.request (.resolve p) = BusPart.request (p.seat.socket.get (b.parts p.part)) := by
  simp only [BusPart.request, Seat.drive_socket]
  rfl

theorem request_resolve_eq_listen_iff {b : SharedBus δ kinds} {p : Place kinds} :
    b.request (.resolve p) = some .listen ↔ b.mark p = .receive := by
  cases hMark : b.mark p <;> simp [request, hMark]

variable [DecidableEq ι]

def put (b : SharedBus δ kinds) (p : Place kinds)
    (x : (p.seat.socket : Socket ((kinds p.part).State δ)).Part) : SharedBus δ kinds :=
  b.replace p.part (p.seat.socket.put (b.parts p.part) x)

def perform (b : SharedBus δ kinds) : Call kinds → Answer δ kinds
  | .markTransmit p =>
      match BusPart.markTransmit (p.seat.socket.get (b.parts p.part)) with
      | .ok x => ⟨b.put p x, none, none⟩
      | .error e => ⟨b, some e, none⟩
  | .markReceive p =>
      ⟨b.put p (BusPart.markReceive (p.seat.socket.get (b.parts p.part))), none, none⟩
  | .unmark p => ⟨b.put p (BusPart.unmark (p.seat.socket.get (b.parts p.part))), none, none⟩
  | .resolve p =>
      let r := BusPart.resolve (p.seat.socket.get (b.parts p.part)) b.bus
      ⟨{ b.put p r.part with bus := r.bus }, r.fault, none⟩
  | .transmit v =>
      match b.bus.transmit v with
      | .ok bus => ⟨{ b with bus := bus }, none, none⟩
      | .error e => ⟨b, some e, none⟩
  | .receive =>
      match b.bus.receive with
      | .ok v => ⟨b, none, some v⟩
      | .error e => ⟨b, some e, none⟩
  | .clockReset => ⟨{ b with bus := b.bus.clockReset }, none, none⟩

def performAll (b : SharedBus δ kinds) (cs : List (Call kinds)) : SharedBus δ kinds :=
  cs.foldl (fun b c => (b.perform c).after) b

theorem performAll_concat (b : SharedBus δ kinds) (cs : List (Call kinds)) (c : Call kinds) :
    b.performAll (cs ++ [c]) = ((b.performAll cs).perform c).after := by
  rw [performAll, List.foldl_append]
  rfl

/-! ## What becomes of the bus -/

theorem perform_markTransmit (b : SharedBus δ kinds) (p : Place kinds) :
    (p.seat.canDrive = true ∧ b.perform (.markTransmit p) =
        ⟨b.replace p.part (p.seat.setMark (b.parts p.part) .transmit), none, none⟩) ∨
      p.seat.canDrive = false ∧ ∃ e, b.perform (.markTransmit p) = ⟨b, some e, none⟩ := by
  have hDrive := p.seat.refusal_socket (b.parts p.part)
  cases hRefusal : BusPart.refusal (p.seat.socket.get (b.parts p.part)) with
  | none =>
      refine .inl ⟨by simpa [hRefusal] using hDrive.symm, ?_⟩
      simp only [perform, BusPart.markTransmit, hRefusal]
      rfl
  | some name =>
      refine .inr ⟨by simpa [hRefusal] using hDrive.symm, .readForbidden name, ?_⟩
      simp only [perform, BusPart.markTransmit, hRefusal]

theorem perform_resolve (b : SharedBus δ kinds) (p : Place kinds) :
    b.perform (.resolve p) =
      ⟨{ b.replace p.part (p.seat.resolved (b.parts p.part)
            ((b.request (.resolve p)).bind (BusRequest.obtained? b.bus))) with
          bus := (b.request (.resolve p)).elim b.bus (BusRequest.effect b.bus) },
        (b.request (.resolve p)).bind (BusRequest.fault? b.bus), none⟩ := by
  obtain ⟨hBus, hFault, hPart⟩ :=
    BusPart.resolve_request (p.seat.socket.get (b.parts p.part)) b.bus
  simp only [perform, hBus, hFault, hPart, request_resolve]
  rfl

theorem perform_transmit (b : SharedBus δ kinds) (v : UInt8) :
    b.perform (.transmit v) =
      ⟨{ b with bus := (BusRequest.drive v).effect b.bus }, (BusRequest.drive v).fault? b.bus,
        none⟩ := by
  cases hHeld : b.bus.held <;>
    simp [perform, Bus.transmit, hHeld, BusRequest.effect, BusRequest.fault?]

theorem perform_receive (b : SharedBus δ kinds) :
    b.perform .receive =
      ⟨b, BusRequest.listen.fault? b.bus, BusRequest.listen.obtained? b.bus⟩ := by
  cases hHeld : b.bus.held <;>
    simp [perform, Bus.receive, hHeld, BusRequest.fault?, BusRequest.obtained?]

/-- The bus depends on what a call asks, not on who asks. -/
theorem bus_perform (b : SharedBus δ kinds) (c : Call kinds) :
    (b.perform c).after.bus = (b.request c).elim b.bus (BusRequest.effect b.bus) := by
  cases c with
  | markTransmit p =>
      rcases b.perform_markTransmit p with ⟨-, hEq⟩ | ⟨-, e, hEq⟩ <;> rw [hEq] <;> rfl
  | markReceive p | unmark p | clockReset => rfl
  | resolve p => rw [perform_resolve]
  | transmit v => rw [perform_transmit]; rfl
  | receive => rw [perform_receive]; rfl

theorem fault_perform {b : SharedBus δ kinds} {c : Call kinds} {r : BusRequest}
    (h : b.request c = some r) : (b.perform c).fault = r.fault? b.bus := by
  cases c with
  | markTransmit p | markReceive p | unmark p => cases h
  | clockReset =>
      cases h
      rfl
  | resolve p => rw [perform_resolve, h]; rfl
  | transmit v =>
      cases h
      rw [perform_transmit]
  | receive =>
      cases h
      rw [perform_receive]

/-! ## What becomes of the parts -/

def Call.mark? (p : Place kinds) : Call kinds → Option Mark
  | .markTransmit q => if p = q ∧ q.seat.canDrive then some .transmit else none
  | .markReceive q => if p = q then some .receive else none
  | .unmark q | .resolve q => if p = q then some .idle else none
  | .transmit _ | .receive | .clockReset => none

theorem mark_setMark (b : SharedBus δ kinds) (p q : Place kinds) (m : Mark) :
    (b.replace p.part (p.seat.setMark (b.parts p.part) m)).mark q = if q = p then m else b.mark q :=
  view_replace Seat.mark (fun t => p.seat.mark_setMark t _ m) q

theorem stored_setMark (b : SharedBus δ kinds) (p q : Place kinds) (m : Mark) :
    (b.replace p.part (p.seat.setMark (b.parts p.part) m)).stored q = b.stored q := by
  refine (view_replace Seat.stored (a := b.stored p) (fun t => ?_) q).trans ?_
  · rw [Seat.stored_setMark]
    split
    · next hSeat => rw [hSeat]; rfl
    · rfl
  · split
    · next hPlace => rw [hPlace]
    · rfl

theorem mark_resolve (b : SharedBus δ kinds) (p q : Place kinds) :
    (b.perform (.resolve p)).after.mark q = if q = p then .idle else b.mark q := by
  rw [perform_resolve]
  exact view_replace Seat.mark (fun t => p.seat.mark_resolved t _ _) q

theorem stored_resolve (b : SharedBus δ kinds) (p q : Place kinds) :
    (b.perform (.resolve p)).after.stored q =
      if q = p then ((b.request (.resolve p)).bind (BusRequest.obtained? b.bus)).elim (b.stored p)
        (b.received p) else b.stored q := by
  rw [perform_resolve]
  exact view_replace Seat.stored (fun t => p.seat.stored_resolved t _ _) q

theorem mark_perform (b : SharedBus δ kinds) (c : Call kinds) (q : Place kinds) :
    (b.perform c).after.mark q = (c.mark? q).getD (b.mark q) := by
  cases c with
  | markTransmit p =>
      rcases b.perform_markTransmit p with ⟨hDrive, hEq⟩ | ⟨hDrive, e, hEq⟩
      · rw [hEq, mark_setMark]
        by_cases hPlace : q = p <;> simp [Call.mark?, hPlace, hDrive]
      · simp [hEq, Call.mark?, hDrive]
  | markReceive p =>
      refine (b.mark_setMark p q .receive).trans ?_
      by_cases hPlace : q = p <;> simp [Call.mark?, hPlace]
  | unmark p =>
      refine (b.mark_setMark p q .idle).trans ?_
      by_cases hPlace : q = p <;> simp [Call.mark?, hPlace]
  | resolve p =>
      rw [mark_resolve]
      by_cases hPlace : q = p <;> simp [Call.mark?, hPlace]
  | transmit v => rw [perform_transmit]; rfl
  | receive => rw [perform_receive]; rfl
  | clockReset => rfl

theorem stored_perform {b : SharedBus δ kinds} {c : Call kinds} (h : ∀ p, c ≠ .resolve p)
    (q : Place kinds) : (b.perform c).after.stored q = b.stored q := by
  cases c with
  | markTransmit p =>
      rcases b.perform_markTransmit p with ⟨-, hEq⟩ | ⟨-, e, hEq⟩
      · rw [hEq, stored_setMark]
      · rw [hEq]
  | markReceive p => exact b.stored_setMark p q .receive
  | unmark p => exact b.stored_setMark p q .idle
  | resolve p => exact absurd rfl (h p)
  | transmit v => rw [perform_transmit]; rfl
  | receive => rw [perform_receive]
  | clockReset => rfl

end SharedBus

end Microbus
