import Mathlib.Data.List.DropRight
import Microbus.Proofs.SharedBus.Calls

/-! # A bus that is written once a cycle

A call on parts that share a bus is judged by the log of the calls before it. The log alone says
what the bus holds and what it carried last, and with that what the call gets from the bus and what
it leaves in the parts.
-/

namespace Microbus
set_option autoImplicit false

namespace SharedBus

/-! ## The log -/

structure Entry where
  request : Option BusRequest
  fault : Option Fault
  deriving DecidableEq

def Entry.attempted? (e : Entry) : Option UInt8 := e.request.bind BusRequest.driven?

def Entry.carried? (e : Entry) : Option UInt8 := if e.fault = none then e.attempted? else none

def sinceClear (past : List Entry) : List Entry := past.rtakeWhile (·.request ≠ some .clear)

/-- The first attempted transmission since the last clock reset, whatever came of it. -/
def firstAttempt (past : List Entry) : Option UInt8 :=
  ((sinceClear past).filterMap Entry.attempted?).head?

/-- The latest successful transmission. -/
def lastCarried (past : List Entry) : Option UInt8 := (past.filterMap Entry.carried?).getLast?

theorem firstAttempt_clear (past : List Entry) {e : Entry} (h : e.request = some .clear) :
    firstAttempt (past ++ [e]) = none := by
  have hNothing : sinceClear (past ++ [e]) = [] := List.rtakeWhile_concat_neg _ _ _ (by simp [h])
  rw [firstAttempt, hNothing]
  rfl

theorem firstAttempt_concat (past : List Entry) {e : Entry} (h : e.request ≠ some .clear) :
    firstAttempt (past ++ [e]) = (firstAttempt past).or e.attempted? := by
  have hSince : sinceClear (past ++ [e]) = sinceClear past ++ [e] :=
    List.rtakeWhile_concat_pos _ _ _ (by simp [h])
  have hLast : ([e].filterMap Entry.attempted?).head? = e.attempted? := by
    cases hDriven : e.attempted? <;> simp [hDriven]
  rw [firstAttempt, hSince, List.filterMap_append, List.head?_append, hLast]
  rfl

theorem getLast?_filterMap_concat {α β : Type} (f : α → Option β) (xs : List α) (x : α) :
    ((xs ++ [x]).filterMap f).getLast? = (f x).or (xs.filterMap f).getLast? := by
  rw [List.filterMap_append, List.getLast?_append]
  cases hx : f x <;> simp [hx]

theorem lastCarried_concat (past : List Entry) (e : Entry) :
    lastCarried (past ++ [e]) = e.carried?.or (lastCarried past) :=
  getLast?_filterMap_concat Entry.carried? past e

structure Recalls (past : List Entry) (bus : Bus) : Prop where
  held : bus.held = firstAttempt past
  last : bus.last = (lastCarried past).getD 0

theorem recalls_idle : Recalls [] .idle := ⟨rfl, rfl⟩

section

variable {past : List Entry} {bus : Bus}

theorem Recalls.nothing (h : Recalls past bus) (fault : Option Fault) :
    Recalls (past ++ [⟨none, fault⟩]) bus where
  held := by
    rw [firstAttempt_concat _ (by simp), h.held]
    exact Option.or_none.symm
  last := by
    rw [lastCarried_concat, h.last]
    simp [Entry.carried?, Entry.attempted?]

theorem Recalls.effect (h : Recalls past bus) (r : BusRequest) :
    Recalls (past ++ [⟨some r, r.fault? bus⟩]) (r.effect bus) where
  held := by
    by_cases hClear : r = .clear
    · subst hClear
      exact (firstAttempt_clear past rfl).symm
    · rw [BusRequest.held_effect hClear, firstAttempt_concat _ (by simpa using hClear), h.held]
      rfl
  last := by
    have hCarried : (⟨some r, r.fault? bus⟩ : Entry).carried? =
        if r.fault? bus = none then r.driven? else none := rfl
    rw [BusRequest.last_effect, lastCarried_concat, hCarried, h.last]
    cases (if r.fault? bus = none then r.driven? else none) <;> rfl

end

/-! ## Calls and their log -/

variable {δ ι : Type} [OutputDevice δ] [DecidableEq ι] {kinds : ι → PartKind}

def entry (b : SharedBus δ kinds) (c : Call kinds) : Entry := ⟨b.request c, (b.perform c).fault⟩

def log (b : SharedBus δ kinds) : List (Call kinds) → List Entry
  | [] => []
  | c :: cs => b.entry c :: (b.perform c).after.log cs

def lastMark (cs : List (Call kinds)) (p : Place kinds) : Option Mark :=
  (cs.filterMap (Call.mark? p)).getLast?

theorem log_concat (b : SharedBus δ kinds) (cs : List (Call kinds)) (c : Call kinds) :
    b.log (cs ++ [c]) = b.log cs ++ [(b.performAll cs).entry c] := by
  induction cs generalizing b with
  | nil => rfl
  | cons d cs ih => exact congrArg (b.entry d :: ·) (ih (b.perform d).after)

theorem Recalls.perform {past : List Entry} {b : SharedBus δ kinds} (h : Recalls past b.bus)
    (c : Call kinds) : Recalls (past ++ [b.entry c]) (b.perform c).after.bus := by
  rw [bus_perform, entry]
  cases hAsked : b.request c with
  | none => exact h.nothing _
  | some r =>
      rw [fault_perform hAsked]
      exact h.effect r

theorem recalls_performAll {b : SharedBus δ kinds} (h : b.bus = .idle) (cs : List (Call kinds)) :
    Recalls (b.log cs) (b.performAll cs).bus := by
  induction cs using List.reverseRecOn with
  | nil => exact h ▸ recalls_idle
  | append_singleton cs c ih =>
      rw [log_concat, performAll_concat]
      exact ih.perform c

theorem mark_performAll (b : SharedBus δ kinds) (cs : List (Call kinds)) (p : Place kinds) :
    (b.performAll cs).mark p = (lastMark cs p).getD (b.mark p) := by
  induction cs using List.reverseRecOn with
  | nil => rfl
  | append_singleton cs c ih =>
      have hLast : lastMark (cs ++ [c]) p = (c.mark? p).or (lastMark cs p) :=
        getLast?_filterMap_concat (Call.mark? p) cs c
      rw [performAll_concat, mark_perform, ih, hLast]
      cases c.mark? p <;> rfl

/-- What a call gets from the bus, and what it leaves behind, by the log of the calls before it. The
first attempt to drive the bus in a cycle succeeds and every other one is refused. A place stores
the byte of the bus, in a resolution that took it, or what it stored before. -/
structure Obeys (past : List Entry) (b : SharedBus δ kinds) (c : Call kinds) : Prop where
  drives : ∀ v, b.request c = some (.drive v) →
    (b.perform c).fault = (firstAttempt past).map fun held => .busConflict held v
  listens : b.request c = some .listen →
    (b.perform c).fault = if firstAttempt past = none then some .busUnwritten else none
  obtains : ∀ v, b.request c = some .listen → firstAttempt past = some v →
    (c = .receive → (b.perform c).value = some v) ∧
      ∀ p, c = .resolve p → (b.perform c).after.stored p = b.received p v
  last : b.bus.last = (lastCarried past).getD 0
  unmarks : ∀ p, c = .resolve p → (b.perform c).after.mark p = .idle
  stores : ∀ p, (b.perform c).after.stored p = b.stored p ∨
    c = .resolve p ∧ b.mark p = .receive ∧ (b.perform c).fault = none ∧
      ∃ v, b.bus.held = some v ∧ (b.perform c).after.stored p = b.received p v
  keeps : ∀ p, c = .resolve p → (b.perform c).fault ≠ none →
    (b.perform c).after.bus = b.bus ∧ ∀ q, (b.perform c).after.stored q = b.stored q

theorem stored_resolve_cases (b : SharedBus δ kinds) (p : Place kinds) :
    (b.perform (.resolve p)).after.stored p = b.stored p ∨
      b.mark p = .receive ∧ (b.perform (.resolve p)).fault = none ∧ ∃ v, b.bus.held = some v ∧
        (b.perform (.resolve p)).after.stored p = b.received p v := by
  rw [stored_resolve, if_pos rfl]
  cases hByte : (b.request (.resolve p)).bind (BusRequest.obtained? b.bus) with
  | none => exact .inl rfl
  | some v =>
      obtain ⟨r, hAsked, hObtained⟩ := Option.bind_eq_some_iff.mp hByte
      obtain ⟨rfl, hHeld⟩ := BusRequest.obtained?_eq_some_iff.mp hObtained
      have hFault : (b.perform (.resolve p)).fault = none := by
        rw [fault_perform hAsked, BusRequest.fault?, hHeld]
        rfl
      exact .inr ⟨request_resolve_eq_listen_iff.mp hAsked, hFault, v, hHeld, rfl⟩

theorem kept_of_fault {b : SharedBus δ kinds} {p : Place kinds}
    (hFault : (b.perform (.resolve p)).fault ≠ none) :
    (b.perform (.resolve p)).after.bus = b.bus ∧
      ∀ q, (b.perform (.resolve p)).after.stored q = b.stored q := by
  cases hAsked : b.request (.resolve p) with
  | none => exact absurd (by rw [perform_resolve, hAsked]; rfl) hFault
  | some r =>
      rw [fault_perform hAsked] at hFault
      refine ⟨?_, fun q => ?_⟩
      · rw [bus_perform, hAsked]
        exact BusRequest.effect_of_fault hFault
      · rw [stored_resolve, hAsked, Option.bind_some, BusRequest.obtained?_of_fault hFault]
        split
        · next hPlace => rw [hPlace]; rfl
        · rfl

theorem Recalls.obeys {past : List Entry} {b : SharedBus δ kinds} (h : Recalls past b.bus)
    (c : Call kinds) : Obeys past b c where
  drives v hAsked := by
    rw [fault_perform hAsked, ← h.held]
    rfl
  listens hAsked := by
    rw [fault_perform hAsked, ← h.held]
    rfl
  obtains v hAsked hFirst := by
    have hHeld : b.bus.held = some v := h.held.trans hFirst
    refine ⟨?_, ?_⟩
    · rintro rfl
      rw [perform_receive]
      exact hHeld
    · rintro p rfl
      rw [stored_resolve, if_pos rfl, hAsked]
      simp [BusRequest.obtained?, hHeld]
  last := h.last
  unmarks := by
    rintro p rfl
    rw [mark_resolve, if_pos rfl]
  stores p := by
    by_cases hResolve : c = .resolve p
    · subst hResolve
      exact (stored_resolve_cases b p).imp_right fun hStored => ⟨rfl, hStored⟩
    · refine .inl ?_
      by_cases hOther : ∃ q, c = .resolve q
      · obtain ⟨q, rfl⟩ := hOther
        rw [stored_resolve, if_neg fun hPlace => hResolve (congrArg Call.resolve hPlace.symm)]
      · exact stored_perform (fun q hq => hOther ⟨q, hq⟩) p
  keeps := by
    rintro p rfl hFault
    exact kept_of_fault hFault

/-- Whatever parts share a bus and whatever is called on them and on the bus, in any order: the
first attempt to drive the bus in a cycle succeeds and the others are refused, what listens obtains
its byte or is refused, and a place is marked as the last call on it said and stores nothing but
what it took from the bus. -/
theorem obeys_performAll (parts : (i : ι) → (kinds i).State δ) (past : List (Call kinds)) :
    let start : SharedBus δ kinds := attach parts
    (∀ p, (start.performAll past).mark p = (lastMark past p).getD (start.mark p)) ∧
      ∀ c, Obeys (start.log past) (start.performAll past) c := by
  intro start
  refine ⟨fun p => start.mark_performAll past p, fun c => ?_⟩
  exact (recalls_performAll rfl past).obeys c

example :
    let a : Place fun _ : Fin 2 => PartKind.register "A" true := ⟨0, .whole _⟩
    let b : Place fun _ : Fin 2 => PartKind.register "A" true := ⟨1, .whole _⟩
    let start : SharedBus Unit fun _ : Fin 2 => PartKind.register "A" true :=
      attach fun i => .holding (if i = 0 then 0x12 else 0x34)
    start.log [.markReceive b, .resolve b, .markTransmit a, .resolve a, .markTransmit b,
        .resolve b] =
      [⟨none, none⟩, ⟨some .listen, some .busUnwritten⟩, ⟨none, none⟩, ⟨some (.drive 0x12), none⟩,
        ⟨none, none⟩, ⟨some (.drive 0x34), some (.busConflict 0x12 0x34)⟩] := by
  decide

end SharedBus

end Microbus
