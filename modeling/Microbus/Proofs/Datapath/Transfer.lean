import Microbus.Proofs.Datapath.Contents

/-! # Transfers and the contents

Noting and aborting only touch marks. Resolving is described by `Carries`: the nodes are resolved
without a fault, they end up unmarked, and the contents and the bus are the stated ones. Runs of
idle nodes, a single driver and a list of listeners are the three cases out of which every fault
free transfer is put together.
-/

namespace Microbus
set_option autoImplicit false

namespace Datapath

variable {δ : Type} [OutputDevice δ]

def markAll (d : Datapath δ) (k : Mark) (ns : List Node) : Datapath δ :=
  ns.foldl (fun d n => d.setMark n k) d

@[simp] theorem contents_markAll (d : Datapath δ) (k : Mark) (ns : List Node) :
    (d.markAll k ns).contents = d.contents := by
  induction ns generalizing d with
  | nil => rfl
  | cons n ns ih => exact (ih (d.setMark n k)).trans (contents_setMark d n k)

@[simp] theorem pending_markAll (d : Datapath δ) (k : Mark) (ns : List Node) :
    (d.markAll k ns).fr.pending = d.fr.pending := by
  induction ns generalizing d with
  | nil => rfl
  | cons n ns ih => exact (ih (d.setMark n k)).trans (pending_setMark d n k)

@[simp] theorem mark_markAll (d : Datapath δ) (k : Mark) (ns : List Node) (j : Node) :
    (d.markAll k ns).mark j = if j ∈ ns then k else d.mark j := by
  induction ns generalizing d with
  | nil => rfl
  | cons n ns ih =>
      have h : (d.markAll k (n :: ns)).mark j = if j ∈ ns then k else (d.setMark n k).mark j :=
        ih (d.setMark n k)
      rw [h, mark_setMark]
      by_cases hj : j = n <;> simp [hj]

theorem markTransmit_eq_ok {d : Datapath δ} {n : Node} (h : n.canDrive = true) :
    d.markTransmit n = .ok (d.setMark n .transmit) := by
  cases n with
  | register r => cases r <;> first | rfl | cases h
  | memory => rfl
  | outputData => cases h

theorem resolve_idle {d : Datapath δ} {n : Node} (h : d.mark n = .idle) (bus : Bus) :
    d.resolve n bus = ⟨d.rested n, bus, none, []⟩ := by
  unfold mark at h
  simp only [resolve, BusPart.resolve, h, rested]

theorem resolve_transmit {d : Datapath δ} {n : Node} {bus : Bus} (h : d.mark n = .transmit)
    (hBus : bus.held = none) :
    d.resolve n bus =
      ⟨d.rested n, ⟨some (d.contents.drive n), d.contents.drive n⟩, none, []⟩ := by
  unfold mark at h
  simp only [resolve, BusPart.resolve, h, Bus.transmit, hBus, rested, drive_slot]

theorem resolve_receive {d : Datapath δ} {n : Node} {bus : Bus} {v : UInt8}
    (h : d.mark n = .receive) (hBus : bus.held = some v) :
    d.resolve n bus = ⟨d.taken n v, bus, none, BusPart.report ((slot n).get d) v⟩ := by
  unfold mark at h
  simp only [resolve, BusPart.resolve, h, Bus.receive, hBus, taken]

theorem resolve_conflict {d : Datapath δ} {n : Node} {bus : Bus} {held : UInt8}
    (h : d.mark n = .transmit) (hBus : bus.held = some held) :
    d.resolve n bus =
      ⟨d.rested n, bus, some (.busConflict held (d.contents.drive n)), []⟩ := by
  unfold mark at h
  simp only [resolve, BusPart.resolve, h, Bus.transmit, hBus, rested, drive_slot]

theorem resolve_unwritten {d : Datapath δ} {n : Node} {bus : Bus} (h : d.mark n = .receive)
    (hBus : bus.held = none) :
    d.resolve n bus = ⟨d.rested n, bus, some .busUnwritten, []⟩ := by
  unfold mark at h
  simp only [resolve, BusPart.resolve, h, Bus.receive, hBus, rested]

theorem fault_resolve_of_held {d : Datapath δ} {n : Node} {bus : Bus} {held : UInt8}
    (h : d.mark n = .transmit) (hBus : bus.held = some held) :
    (d.resolve n bus).fault = some (.busConflict held (d.contents.drive n)) := by
  rw [resolve_conflict h hBus]

theorem fault_resolve_of_free {d : Datapath δ} {n : Node} {bus : Bus}
    (h : d.mark n = .receive) (hBus : bus.held = none) :
    (d.resolve n bus).fault = some .busUnwritten := by
  rw [resolve_unwritten h hBus]

end Datapath

namespace Transfer

variable {δ : Type} [OutputDevice δ]

theorem noteDrivers_eq_ok (t : Transfer) (d : Datapath δ) {ns : List Node}
    (h : ∀ n ∈ ns, n.canDrive = true) :
    t.noteDrivers d ns = .ok (⟨t.drivers ++ ns, t.listeners⟩, d.markAll .transmit ns) := by
  induction ns generalizing t d with
  | nil => simp [noteDrivers, Datapath.markAll]
  | cons n ns ih =>
      have hn := Datapath.markTransmit_eq_ok (d := d) (h n List.mem_cons_self)
      have hns : ∀ k ∈ ns, k.canDrive = true := fun k hk => h k (List.mem_cons_of_mem n hk)
      simp [noteDrivers, noteDriver, hn, Except.map, ih _ _ hns, Datapath.markAll]

theorem noteListeners_eq (t : Transfer) (d : Datapath δ) (ns : List Node) :
    t.noteListeners d ns = (⟨t.drivers, t.listeners ++ ns⟩, d.markAll .receive ns) := by
  induction ns generalizing t d with
  | nil => simp [noteListeners, Datapath.markAll]
  | cons n ns ih =>
      rw [noteListeners, ih]
      simp [noteListener, Datapath.markReceive, BusPart.markReceive, Datapath.markAll,
        Datapath.setMark]

theorem abort_eq (t : Transfer) (d : Datapath δ) : t.abort d = d.markAll .idle t.nodes := rfl

theorem resolveAll_append {d : Datapath δ} {b : Bus} {ns : List Node} (ks : List Node)
    (h : (resolveAll d b ns).fault = .none) :
    resolveAll d b (ns ++ ks) =
      let r := resolveAll d b ns
      let rest := resolveAll r.part r.bus ks
      { rest with reports := r.reports ++ rest.reports } := by
  induction ns generalizing d b with
  | nil => simp [resolveAll]
  | cons n ns ih =>
      cases hNode : (d.resolve n b).fault with
      | some e => simp [resolveAll, hNode] at h
      | none =>
          simp only [resolveAll, hNode] at h
          simp [resolveAll, hNode, ih h]

theorem fault_resolveAll_cons {d : Datapath δ} {b : Bus} {n : Node} {e : Fault}
    (h : (d.resolve n b).fault = some e) (ns : List Node) :
    (resolveAll d b (n :: ns)).fault = some e := by
  simp only [resolveAll, h]

/-- Resolving nodes succeeds, leaves them without marks and leads to the given contents and
bus. -/
structure Carries (d : Datapath δ) (b : Bus) (ns : List Node) (c : Contents δ) (after : Bus) :
    Prop where
  fault : (resolveAll d b ns).fault = .none
  bus : (resolveAll d b ns).bus = after
  contents : (resolveAll d b ns).part.contents = c
  pending : (resolveAll d b ns).part.fr.pending = d.fr.pending
  mark : ∀ n, (resolveAll d b ns).part.mark n = if n ∈ ns then .idle else d.mark n

namespace Carries

variable {d e : Datapath δ} {b b' after : Bus} {n : Node} {ns ks : List Node} {c c' : Contents δ}

theorem nil (d : Datapath δ) (b : Bus) : Carries d b [] d.contents b :=
  ⟨rfl, rfl, rfl, rfl, fun _ => by simp [resolveAll]⟩

theorem cons {reports : List DeviceEvent} (hNode : d.resolve n b = ⟨e, b', .none, reports⟩)
    (hPending : e.fr.pending = d.fr.pending)
    (hMark : ∀ k, e.mark k = if k = n then .idle else d.mark k)
    (h : Carries e b' ns c after) : Carries d b (n :: ns) c after := by
  have hEq : resolveAll d b (n :: ns) =
      { resolveAll e b' ns with reports := reports ++ (resolveAll e b' ns).reports } := by
    simp only [resolveAll, hNode]
  refine ⟨by rw [hEq]; exact h.fault, by rw [hEq]; exact h.bus, by rw [hEq]; exact h.contents,
    by rw [hEq]; exact h.pending.trans hPending, ?_⟩
  intro k
  rw [hEq]
  refine (h.mark k).trans ?_
  by_cases hk : k = n <;> simp [hMark, hk]

theorem append (h : Carries d b ns c b')
    (hRest : Carries (resolveAll d b ns).part b' ks c' after) :
    Carries d b (ns ++ ks) c' after := by
  obtain rfl : (resolveAll d b ns).bus = b' := h.bus
  have hEq := resolveAll_append ks h.fault
  refine ⟨by rw [hEq]; exact hRest.fault, by rw [hEq]; exact hRest.bus,
    by rw [hEq]; exact hRest.contents, by rw [hEq]; exact hRest.pending.trans h.pending, ?_⟩
  intro k
  rw [hEq]
  refine (hRest.mark k).trans ?_
  by_cases hk : k ∈ ks <;> simp [hk, h.mark]

theorem idle (h : ∀ n ∈ ns, d.mark n = .idle) (b : Bus) : Carries d b ns d.contents b := by
  induction ns generalizing d with
  | nil => exact nil d b
  | cons n ns ih =>
      have hRest : Carries (d.rested n) b ns (d.rested n).contents b := by
        apply ih
        intro k hk
        simp [h k (List.mem_cons_of_mem n hk)]
      rw [Datapath.contents_rested] at hRest
      exact cons (Datapath.resolve_idle (h n List.mem_cons_self) b) (Datapath.pending_rested d n)
        (Datapath.mark_rested d n) hRest

theorem again (h : Carries d b ns c b') (hKs : ∀ k ∈ ks, k ∈ ns) : Carries d b (ns ++ ks) c b' := by
  refine h.append ?_
  have hIdle : ∀ k ∈ ks, (resolveAll d b ns).part.mark k = .idle := by
    intro k hk
    rw [h.mark, if_pos (hKs k hk)]
  have hRest := idle hIdle b'
  rwa [h.contents] at hRest

theorem transmit (h : d.mark n = .transmit) (hBus : b.held = .none) :
    Carries d b [n] d.contents ⟨some (d.contents.drive n), d.contents.drive n⟩ := by
  have hRest := nil (d.rested n) ⟨some (d.contents.drive n), d.contents.drive n⟩
  rw [Datapath.contents_rested] at hRest
  exact cons (Datapath.resolve_transmit h hBus) (Datapath.pending_rested d n)
    (Datapath.mark_rested d n) hRest

theorem receive {v : UInt8} (hBus : b.held = some v) (hNodup : ns.Nodup)
    (h : ∀ n ∈ ns, d.mark n = .receive) : Carries d b ns (d.contents.latchAll v ns) b := by
  induction ns generalizing d with
  | nil => exact nil d b
  | cons n ns ih =>
      obtain ⟨hNew, hNodup⟩ := List.nodup_cons.mp hNodup
      have hRest : Carries (d.taken n v) b ns ((d.taken n v).contents.latchAll v ns) b := by
        apply ih hNodup
        intro k hk
        have hne : k ≠ n := fun he => hNew (he ▸ hk)
        simp [hne, h k (List.mem_cons_of_mem n hk)]
      rw [Datapath.contents_taken] at hRest
      exact cons (Datapath.resolve_receive (h n List.mem_cons_self) hBus)
        (Datapath.pending_taken d n v) (Datapath.mark_taken d n · v) hRest

end Carries

end Transfer

end Microbus
