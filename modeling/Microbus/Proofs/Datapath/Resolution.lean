import Microbus.Proofs.Datapath.Transfer

/-! # Resolving nodes, whatever comes of it

`Transfer.Carries` speaks of resolutions that succeed. Here the nodes may be marked in any way and
a resolution may end in the middle. Whatever comes of it, registers and marks of nodes outside the
list stay, and so do the queued flags. A bus that is driven serves every node that does not drive,
and a node that fails gives its mark up and changes nothing else.
-/

namespace Microbus
set_option autoImplicit false

namespace Datapath

variable {δ : Type} [OutputDevice δ] {d : Datapath δ} {n : Node} {bus : Bus}

theorem isActing_iff (d : Datapath δ) (n : Node) : d.isActing n = true ↔ d.mark n ≠ .idle :=
  bne_iff_ne

theorem part_resolve (d : Datapath δ) (n : Node) (bus : Bus) :
    (d.resolve n bus).part = d.rested n ∨ ∃ v, (d.resolve n bus).part = d.taken n v := by
  cases hMark : d.mark n with
  | idle => exact .inl (congrArg Resolution.part (resolve_idle hMark bus))
  | transmit =>
      unfold mark at hMark
      simp only [resolve, BusPart.resolve, hMark]
      split <;> exact .inl rfl
  | receive =>
      unfold mark at hMark
      simp only [resolve, BusPart.resolve, hMark]
      split
      · next v _ => exact .inr ⟨v, rfl⟩
      · exact .inl rfl

theorem mark_resolve_of_ne {k : Node} (h : k ≠ n) (d : Datapath δ) (bus : Bus) :
    (d.resolve n bus).part.mark k = d.mark k := by
  rcases part_resolve d n bus with hPart | ⟨v, hPart⟩ <;> simp [hPart, h]

theorem mark_resolve_self (d : Datapath δ) (n : Node) (bus : Bus) :
    (d.resolve n bus).part.mark n = .idle := by
  rcases part_resolve d n bus with hPart | ⟨v, hPart⟩ <;> simp [hPart]

theorem pending_resolve (d : Datapath δ) (n : Node) (bus : Bus) :
    (d.resolve n bus).part.fr.pending = d.fr.pending := by
  rcases part_resolve d n bus with hPart | ⟨v, hPart⟩ <;> simp [hPart]

theorem register_resolve_of_ne {r : RegName} (h : .register r ≠ n) (d : Datapath δ) (bus : Bus) :
    (d.resolve n bus).part.contents.register r = d.contents.register r := by
  rcases part_resolve d n bus with hPart | ⟨v, hPart⟩
  · simp [hPart]
  · rw [hPart, contents_taken, Contents.register_latch, if_neg h]

theorem resolve_of_held {v : UInt8} (hBus : bus.held = some v) (h : d.mark n ≠ .transmit) :
    (d.resolve n bus).fault = none ∧ (d.resolve n bus).bus = bus := by
  cases hMark : d.mark n with
  | idle => simp [resolve_idle hMark]
  | transmit => exact absurd hMark h
  | receive => simp [resolve_receive hMark hBus]

end Datapath

namespace Transfer

variable {δ : Type} [OutputDevice δ] {d : Datapath δ} {b b' : Bus} {n : Node} {ns : List Node}

theorem resolveAll_cons_cases (d : Datapath δ) (b : Bus) (n : Node) (ns : List Node) :
    (resolveAll d b (n :: ns)).part = (d.resolve n b).part ∨
      (resolveAll d b (n :: ns)).part =
        (resolveAll (d.resolve n b).part (d.resolve n b).bus ns).part := by
  cases hNode : (d.resolve n b).fault with
  | some e => exact .inl (by simp only [resolveAll, hNode])
  | none => exact .inr (by simp only [resolveAll, hNode])

theorem mark_resolveAll_of_not_mem {k : Node} (h : k ∉ ns) (d : Datapath δ) (b : Bus) :
    (resolveAll d b ns).part.mark k = d.mark k := by
  induction ns generalizing d b with
  | nil => rfl
  | cons n ns ih =>
      obtain ⟨hn, hns⟩ := not_or.mp (mt List.mem_cons.mpr h)
      have hNode := Datapath.mark_resolve_of_ne hn d b
      rcases resolveAll_cons_cases d b n ns with hPart | hPart
      · rw [hPart, hNode]
      · rw [hPart, ih hns, hNode]

theorem pending_resolveAll (d : Datapath δ) (b : Bus) (ns : List Node) :
    (resolveAll d b ns).part.fr.pending = d.fr.pending := by
  induction ns generalizing d b with
  | nil => rfl
  | cons n ns ih =>
      have hNode := Datapath.pending_resolve d n b
      rcases resolveAll_cons_cases d b n ns with hPart | hPart
      · rw [hPart, hNode]
      · rw [hPart, ih, hNode]

theorem register_resolveAll_of_not_mem {r : RegName} (h : .register r ∉ ns) (d : Datapath δ)
    (b : Bus) : (resolveAll d b ns).part.contents.register r = d.contents.register r := by
  induction ns generalizing d b with
  | nil => rfl
  | cons n ns ih =>
      obtain ⟨hn, hns⟩ := not_or.mp (mt List.mem_cons.mpr h)
      have hNode := Datapath.register_resolve_of_ne hn d b
      rcases resolveAll_cons_cases d b n ns with hPart | hPart
      · rw [hPart, hNode]
      · rw [hPart, ih hns, hNode]

/-- On a driven bus nodes that do not drive are resolved without a fault, however often they
come. -/
theorem fault_resolveAll_of_held {v : UInt8} (hBus : b.held = some v)
    (h : ∀ n ∈ ns, d.mark n ≠ .transmit) : (resolveAll d b ns).fault = .none := by
  induction ns generalizing d with
  | nil => rfl
  | cons n ns ih =>
      obtain ⟨hFault, hSame⟩ := Datapath.resolve_of_held hBus (h n List.mem_cons_self)
      have hRest : ∀ k ∈ ns, (d.resolve n b).part.mark k ≠ .transmit := by
        intro k hk
        by_cases hkn : k = n
        · rw [hkn, Datapath.mark_resolve_self]
          exact nofun
        · rw [Datapath.mark_resolve_of_ne hkn]
          exact h k (List.mem_cons_of_mem n hk)
      simp only [resolveAll, hFault, hSame, ih hRest]

/-- Resolving nodes ends with the given fault or without any; a fault leaves the given
contents. -/
structure Ends (d : Datapath δ) (b : Bus) (ns : List Node) (c : Contents δ)
    (outcome : Option Fault) : Prop where
  fault : (resolveAll d b ns).fault = outcome
  contents : outcome ≠ .none → (resolveAll d b ns).part.contents = c

theorem Carries.fails {c : Contents δ} {e : Fault} (h : Carries d b ns c b')
    (hNode : (resolveAll d b ns).part.resolve n b' =
      ⟨(resolveAll d b ns).part.rested n, b', some e, []⟩) (ks : List Node) :
    Ends d b (ns ++ n :: ks) c (some e) := by
  obtain rfl : (resolveAll d b ns).bus = b' := h.bus
  have hLast : resolveAll (resolveAll d b ns).part (resolveAll d b ns).bus (n :: ks) =
      ⟨(resolveAll d b ns).part.rested n, (resolveAll d b ns).bus, some e, []⟩ := by
    simp only [resolveAll, hNode]
  have hEq := resolveAll_append (n :: ks) h.fault
  simp only [hLast] at hEq
  refine ⟨by rw [hEq], fun _ => ?_⟩
  rw [hEq, Datapath.contents_rested, h.contents]

theorem Carries.serves {c : Contents δ} {v : UInt8} {ks : List Node} (h : Carries d b ns c b')
    (hHeld : b'.held = some v) (hKs : ∀ k ∈ ks, k ∉ ns → d.mark k ≠ .transmit)
    (c' : Contents δ) : Ends d b (ns ++ ks) c' .none := by
  obtain rfl : (resolveAll d b ns).bus = b' := h.bus
  have hMarks : ∀ k ∈ ks, (resolveAll d b ns).part.mark k ≠ .transmit := by
    intro k hk
    rw [h.mark]
    split
    · exact nofun
    · exact hKs k hk ‹_›
  have hEq := resolveAll_append ks h.fault
  exact ⟨by rw [hEq]; exact fault_resolveAll_of_held hHeld hMarks, fun hNone => absurd rfl hNone⟩

end Transfer

end Microbus
