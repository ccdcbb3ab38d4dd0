import Microbus.Proofs.Reset
import Microbus.Proofs.ShortCircuit

/-! # What the observer is told

The observer is told of words that are taken up, of faults and of transfers. This module says, for
any machine, exactly what each half tells and in which order, and how the nodes gather that a
transfer names. In sequence the transfers of a cycle account for every change of the registers that
can only be written over the bus.
-/

namespace Microbus
set_option autoImplicit false

/-- The observer is not told of a halt or of what reaches the device. -/
def Event.isObserved : Event → Bool
  | .halted | .device _ => false
  | .cycleStart _ _ | .transfer _ _ _ | .failure _ => true

def Event.fault? : Event → Option Fault
  | .failure e => some e
  | _ => none

def observed (events : List Event) : List Event := events.filter Event.isObserved

section

variable {past later : List Event}

@[simp] theorem observed_nil : observed [] = [] := rfl

@[simp] theorem observed_cons (e : Event) :
    observed (e :: later) = if e.isObserved then e :: observed later else observed later :=
  List.filter_cons

@[simp] theorem observed_append : observed (past ++ later) = observed past ++ observed later :=
  List.filter_append past later

@[simp] theorem observed_device (reports : List DeviceEvent) :
    observed (reports.map .device) = [] := by
  induction reports with
  | nil => rfl
  | cons r rs ih => exact ih

theorem mem_observed {e : Event} (h : e.isObserved = true) {events : List Event} :
    e ∈ observed events ↔ e ∈ events := by
  simp [observed, h]

end

def Call.IsHalf : Call → Prop
  | .decode | .execute | .issue _ => True
  | _ => False

namespace Transfer

def also (t : Transfer) (w : ControlWord) : Transfer :=
  ⟨t.drivers ++ w.drivers, t.listeners ++ w.listeners⟩

theorem isIdle_iff {t : Transfer} : t.isIdle = true ↔ t.nodes = [] := by
  simp [isIdle, nodes, List.append_eq_nil_iff]

end Transfer

namespace Machine

section

variable {δ : Type}

def chosen? (m : Machine δ) (c : Call) : Option ControlWord :=
  if m.halted then none
  else
    match c with
    | .decode => some m.refreshProgram.selectWord
    | .issue w => some w
    | _ => none

def pending? (m : Machine δ) (c : Call) : Option ControlWord :=
  if m.halted then none
  else
    match c with
    | .execute => m.word
    | _ => none

def carriedOut (m : Machine δ) (c : Call) (t : Transition δ) : List Event :=
  if (m.pending? c).isSome ∧ t.fault = none ∧ m.transfer.nodes ≠ [] then
    [.transfer m.transfer.drivers.head? m.transfer.listeners t.machine.lastBus]
  else []

/-- What a half tells, and what it leaves noted for the transfer to come. -/
structure Tells (m : Machine δ) (c : Call) (t : Transition δ) : Prop where
  trace : observed t.events =
    (m.chosen? c).toList.map (.cycleStart m.counter ·) ++ t.fault.toList.map .failure ++
      m.carriedOut c t
  nothing : m.chosen? c = none → m.pending? c = none → t = ⟨m, none, []⟩
  noted : t.machine.transfer =
    if t.fault.isSome ∨ (m.pending? c).isSome then .none
    else
      match m.chosen? c with
      | some w => if w.has .hlt then m.transfer else m.transfer.also w
      | none => m.transfer
  word : t.machine.word =
    if t.fault.isSome ∨ (m.pending? c).isSome then none else (m.chosen? c).or m.word

theorem tells_of_halted {m : Machine δ} (h : m.halted = true) (c : Call) : m.Tells c ⟨m, none, []⟩ := by
  have hChosen : m.chosen? c = none := if_pos h
  have hPending : m.pending? c = none := if_pos h
  exact ⟨by simp [hChosen, carriedOut, hPending], fun _ _ => rfl,
    by simp [hChosen, hPending], by simp [hChosen, hPending]⟩

end

variable {δ : Type} [OutputDevice δ] {m : Machine δ} {c : Call} {w : ControlWord}

/-! ## One half -/

theorem tells_issue (m : Machine δ) (w : ControlWord) : m.Tells (.issue w) (m.issue w) := by
  cases hRun : m.halted with
  | true =>
      rw [issue_of_halted hRun]
      exact tells_of_halted hRun _
  | false =>
      have hChosen : m.chosen? (.issue w) = some w := by simp [chosen?, hRun]
      have hPending : m.pending? (.issue w) = none := by simp [pending?]
      rcases issue_cases (m := m) w hRun with ⟨hHlt, hEq⟩ | ⟨-, e, -, hEq⟩ | ⟨hHlt, -, hEq⟩
      · rw [hEq]
        exact ⟨by simp [hChosen, carriedOut, hPending, Event.isObserved],
          fun h => by simp [hChosen] at h, by simp [hChosen, hPending, hHlt],
          by simp [hChosen, hPending]⟩
      · rw [hEq]
        exact ⟨by simp [hChosen, carriedOut, hPending, Event.isObserved],
          fun h => by simp [hChosen] at h, by simp [dropped], by simp [dropped]⟩
      · rw [hEq]
        exact ⟨by simp [hChosen, carriedOut, hPending, Event.isObserved],
          fun h => by simp [hChosen] at h, by simp [hChosen, hPending, hHlt, noted, Transfer.also],
          by simp [hChosen, hPending, noted]⟩

theorem tells_decodeStep (m : Machine δ) : m.Tells .decode m.decodeStep := by
  cases hRun : m.halted with
  | true =>
      rw [decodeStep_of_halted hRun]
      exact tells_of_halted hRun _
  | false =>
      have hRun' : m.refreshProgram.halted = false := (halted_refreshProgram m).trans hRun
      have hNotes : m.refreshProgram.transfer = m.transfer := by
        unfold refreshProgram
        split <;> rfl
      have hWord : m.refreshProgram.word = m.word := by
        unfold refreshProgram
        split <;> rfl
      obtain ⟨hTrace, -, hNoted, hKept⟩ := tells_issue m.refreshProgram m.refreshProgram.selectWord
      rw [← decodeStep_eq hRun] at hTrace hNoted hKept
      simp only [chosen?, hRun', pending?, carriedOut, hNotes, hWord, counter_refreshProgram] at hTrace hNoted hKept
      refine ⟨?_, fun h => by simp [chosen?, hRun] at h, ?_, ?_⟩
      · simpa only [chosen?, hRun, pending?, carriedOut] using hTrace
      · simpa only [chosen?, hRun, pending?] using hNoted
      · simpa only [chosen?, hRun, pending?] using hKept

theorem tells_executeStep (m : Machine δ) : m.Tells .execute m.executeStep := by
  by_cases hNothing : m.halted = true ∨ m.word = none
  · have hChosen : m.chosen? .execute = none := by simp [chosen?]
    have hPending : m.pending? .execute = none := by
      rcases hNothing with hHalted | hWord
      · exact if_pos hHalted
      · simp [pending?, hWord]
    rw [executeStep_of_nothing hNothing]
    exact ⟨by simp [hChosen, carriedOut, hPending], fun _ _ => rfl,
      by simp [hChosen, hPending], by simp [hChosen, hPending]⟩
  · obtain ⟨hRun, hWord⟩ := not_or.mp hNothing
    obtain ⟨w, hWord⟩ := Option.ne_none_iff_exists'.mp hWord
    rw [Bool.not_eq_true] at hRun
    have hChosen : m.chosen? .execute = none := by simp [chosen?]
    have hPending : m.pending? .execute = some w := by simp [pending?, hRun, hWord]
    cases hFault : (Transfer.resolveAll m.datapath m.bus m.transfer.nodes).fault with
    | some e =>
        have hEq : observed m.executeStep.events = [.failure e] ∧ m.executeStep.fault = some e ∧
            m.executeStep.machine.transfer = .none ∧ m.executeStep.machine.word = none := by
          simp [executeStep, hRun, hWord, Transfer.execute, hFault, Transfer.summary,
            Event.isObserved]
        obtain ⟨hEvents, hFailed, hNotes, hNoWord⟩ := hEq
        exact ⟨by simp [hEvents, hChosen, hFailed, carriedOut], fun _ h => by simp [hPending] at h,
          by simp [hNotes, hFailed], by simp [hNoWord, hFailed]⟩
    | none =>
        have hEq : observed m.executeStep.events =
              (if m.transfer.isIdle then [] else [.transfer m.transfer.drivers.head?
                m.transfer.listeners m.executeStep.machine.lastBus]) ∧
            m.executeStep.fault = none ∧ m.executeStep.machine.transfer = .none ∧
            m.executeStep.machine.word = none := by
          cases hOci : w.has .oci <;> cases hIdle : m.transfer.isIdle <;>
            simp [executeStep, hRun, hWord, Transfer.execute, hFault, Transfer.summary, hOci, hIdle,
              complete, Event.isObserved]
        obtain ⟨hEvents, hWent, hNotes, hNoWord⟩ := hEq
        refine ⟨?_, fun _ h => by simp [hPending] at h, by simp [hNotes, hPending],
          by simp [hNoWord, hPending]⟩
        rw [hEvents, hChosen, hWent, carriedOut, hPending, hWent]
        by_cases hNodes : m.transfer.nodes = []
        · simp [hNodes, Transfer.isIdle_iff.mpr hNodes]
        · simp [hNodes, mt Transfer.isIdle_iff.mp hNodes]

theorem tells_perform (m : Machine δ) (hHalf : c.IsHalf) : m.Tells c (m.perform c) := by
  cases c with
  | decode => exact tells_decodeStep m
  | execute => exact tells_executeStep m
  | issue w => exact tells_issue m w
  | _ => exact hHalf.elim

/-! ## Sequences of halves -/

theorem filterMap_fault?_observed (events : List Event) :
    (observed events).filterMap Event.fault? = events.filterMap Event.fault? := by
  induction events with
  | nil => rfl
  | cons e es ih =>
      rw [observed_cons, List.filterMap_cons, ← ih]
      cases e <;> rfl

omit [OutputDevice δ] in
theorem Tells.faults {t : Transition δ} (h : m.Tells c t) :
    t.events.filterMap Event.fault? = t.fault.toList := by
  have hStarts : ((m.chosen? c).toList.map (Event.cycleStart m.counter ·)).filterMap Event.fault? =
      [] := by
    cases m.chosen? c <;> rfl
  have hFailures : (t.fault.toList.map Event.failure).filterMap Event.fault? = t.fault.toList := by
    cases t.fault <;> rfl
  have hTransfers : (m.carriedOut c t).filterMap Event.fault? = [] := by
    unfold carriedOut
    split <;> rfl
  rw [← filterMap_fault?_observed, h.trace, List.filterMap_append, List.filterMap_append, hStarts,
    hFailures, hTransfers, List.nil_append, List.append_nil]

theorem faults_transitions {cs : List Call} (hHalves : ∀ c ∈ cs, c.IsHalf) (m : Machine δ) :
    ((m.transitions cs).flatMap Transition.events).filterMap Event.fault? =
      (m.transitions cs).filterMap Transition.fault := by
  induction cs generalizing m with
  | nil => rfl
  | cons c cs ih =>
      have hFirst := (tells_perform m (hHalves c List.mem_cons_self)).faults
      have hRest := ih (fun d hd => hHalves d (List.mem_cons_of_mem c hd)) (m.perform c).machine
      rw [transitions, List.flatMap_cons, List.filterMap_append, hFirst, hRest, List.filterMap_cons]
      cases (m.perform c).fault <;> rfl

/-! ## Registers and transfers -/

def busOnly : List RegName := [.a, .b, .ip, .op, .out, .ma, .oa]

/-- The transfers among some events account for what changed between two states: a register that
changed is listed by one, and a register that is listed holds the value that was told. -/
structure Explains (events : List Event) (m m' : Machine δ) : Prop where
  changed : ∀ r ∈ busOnly, m'.register r ≠ m.register r →
    ∃ source targets v, .transfer source targets v ∈ events ∧ .register r ∈ targets
  told : ∀ r ∈ busOnly, ∀ source targets v, .transfer source targets v ∈ events →
    .register r ∈ targets → m'.register r = v

omit [OutputDevice δ] in
theorem explains_nil (m : Machine δ) : Explains [] m m :=
  ⟨fun _ _ h => absurd rfl h, fun _ _ _ _ _ h => nomatch h⟩

omit [OutputDevice δ] in
theorem register_immediate_of_busOnly {r : RegName} (hr : r ∈ busOnly) (c : Contents δ)
    (w : ControlWord) : (c.immediate w).register r = c.register r := by
  simp only [busOnly, List.mem_cons, List.not_mem_nil, or_false] at hr
  rcases hr with rfl | rfl | rfl | rfl | rfl | rfl | rfl <;> rfl

theorem transfer_not_mem_decodeStep (m : Machine δ) {source : Option Node} {targets : List Node}
    {v : UInt8} : .transfer source targets v ∉ m.decodeStep.events := by
  have hPending : m.pending? .decode = none := by simp [pending?]
  rw [← mem_observed rfl, (tells_decodeStep m).trace, carriedOut, hPending]
  simp

theorem Holds.explains (hm : m.Holds w) (hw : w.Transferable) (hRun : m.halted = false) :
    Explains m.executeStep.events m m.executeStep.machine := by
  have hDelivers := delivers_executeStep hm hw hRun
  have hPending : m.pending? .execute = some w := by simp [pending?, hRun, hm.word]
  obtain ⟨rest, hListeners, hRest⟩ := hm.notes.listeners
  have hListens : ∀ n, n ∈ m.transfer.listeners ↔ n ∈ w.listeners := by
    intro n
    rw [hListeners, List.mem_append]
    exact or_iff_left_of_imp (hRest n)
  have hTrace : ∀ source targets v, .transfer source targets v ∈ m.executeStep.events ↔
      .transfer source targets v ∈ m.carriedOut .execute m.executeStep := by
    intro source targets v
    rw [← mem_observed rfl, (tells_executeStep _).trace, hDelivers.fault]
    simp [chosen?]
  have hRegister : ∀ r ∈ busOnly, m.executeStep.machine.register r =
      if .register r ∈ m.transfer.listeners then m.executeStep.machine.lastBus
      else m.register r := by
    intro r hr
    have hNotFr : r ≠ .fr := fun hFr => by simp [hFr, busOnly] at hr
    rw [hDelivers.register r hNotFr, hDelivers.lastBus, if_congr (hListens _) rfl rfl]
  refine ⟨fun r hr hChanged => ?_, fun r hr source targets v hMem hListed => ?_⟩
  · have hListed : .register r ∈ m.transfer.listeners := by
      by_contra hNot
      rw [hRegister r hr, if_neg hNot] at hChanged
      exact hChanged rfl
    have hNodes : m.transfer.nodes ≠ [] := List.ne_nil_of_mem (List.mem_append_right _ hListed)
    have hTold : m.carriedOut .execute m.executeStep =
        [.transfer m.transfer.drivers.head? m.transfer.listeners m.executeStep.machine.lastBus] :=
      if_pos ⟨by simp [hPending], hDelivers.fault, hNodes⟩
    exact ⟨_, _, _, (hTrace _ _ _).mpr (hTold ▸ List.mem_cons_self), hListed⟩
  · rw [hTrace, carriedOut] at hMem
    split at hMem
    · obtain ⟨-, rfl, rfl⟩ : source = m.transfer.drivers.head? ∧
          targets = m.transfer.listeners ∧ v = m.executeStep.machine.lastBus := by
        simpa using hMem
      rw [hRegister r hr, if_pos hListed]
    · cases hMem

def pairEvents (m : Machine δ) : List Event :=
  m.decodeStep.events ++ m.decodeStep.machine.executeStep.events

def pair (m : Machine δ) : Machine δ := m.decodeStep.machine.executeStep.machine

theorem Explains.pair
    (h : Explains m.decodeStep.machine.executeStep.events m.decodeStep.machine m.pair)
    (hKept : ∀ r ∈ busOnly, m.decodeStep.machine.register r = m.register r) :
    Explains m.pairEvents m m.pair := by
  refine ⟨fun r hr hChanged => ?_, fun r hr source targets v hMem => ?_⟩
  · rw [← hKept r hr] at hChanged
    obtain ⟨source, targets, v, hMem, hListed⟩ := h.changed r hr hChanged
    exact ⟨source, targets, v, List.mem_append_right _ hMem, hListed⟩
  · rcases List.mem_append.mp hMem with hDecoded | hExecuted
    · exact absurd hDecoded (transfer_not_mem_decodeStep m)
    · exact h.told r hr source targets v hExecuted

theorem Sequenced.explains (h : m.Sequenced) : Explains m.pairEvents m m.pair := by
  have hReady : ∀ r, m.refreshProgram.register r = m.register r := fun r =>
    congrArg (Contents.register · r) (contents_refreshProgram m)
  have hNothing : m.decodeStep.machine.halted = true ∨ m.decodeStep.machine.word = none →
      Explains m.decodeStep.machine.executeStep.events m.decodeStep.machine m.pair := by
    intro hIdle
    rw [Machine.pair, executeStep_of_nothing hIdle]
    exact explains_nil _
  cases hRun : m.halted with
  | true =>
      have hEq := decodeStep_of_halted hRun
      exact (hNothing (.inl (by rw [hEq]; exact hRun))).pair fun r _ => by rw [hEq]
  | false =>
      rcases h.decodeStep_cases hRun with ⟨-, -, hEq⟩ | ⟨e, -, hRefuses⟩ | ⟨-, hDecodes⟩
      · exact (hNothing (.inl (by rw [hEq]))).pair fun r _ => by rw [hEq]; exact hReady r
      · refine (hNothing (.inr hRefuses.atRest.word)).pair fun r _ => ?_
        exact (congrArg (Contents.register · r) hRefuses.contents).trans (hReady r)
      · have hw := orderly_selectWord (orderly_refreshProgram h.program)
        have hRun' : m.decodeStep.machine.halted = false :=
          (hDecodes.control.halted.trans (halted_refreshProgram m)).trans hRun
        refine (hDecodes.holds.explains hw.transferable hRun').pair fun r hr => ?_
        have hContents := congrArg (Contents.register · r) hDecodes.contents
        simp only [register_immediate_of_busOnly hr] at hContents
        exact hContents.trans (hReady r)

/-- Any half, behind any calls on any machine, tells the word that it takes up, then its fault, or
the transfer that it carries out, and nothing else; so a sequence of halves tells the faults that it
returns. From power-on, with any programs, a register that is written over the bus only changes in
a cycle exactly as the transfer of the cycle tells. -/
theorem tells_of_halves :
    (∀ (m : Machine δ) (before : List Call) (c : Call), c.IsHalf →
      (m.performAll before).Tells c ((m.performAll before).perform c)) ∧
    (∀ (m : Machine δ) (cs : List Call), (∀ c ∈ cs, c.IsHalf) →
      ((m.transitions cs).flatMap Transition.events).filterMap Event.fault? =
        (m.transitions cs).filterMap Transition.fault) ∧
    ∀ (config : MachineConfig) (device : δ) (m : Machine δ),
      Reaches HalvesAndEdits (powerOn config device) m → Explains m.pairEvents m m.pair := by
  refine ⟨fun m before c hHalf => tells_perform _ hHalf, fun m cs hHalves =>
    faults_transitions hHalves m, fun config device m hReaches => ?_⟩
  exact Sequenced.explains (hReaches.induct (sequenced_powerOn config device)
    fun _ _ hSequenced hAllowed => hSequenced.perform hAllowed)

def addressed : Machine Panel := (loaded {} Panel.blank [0x84, 0]).performAll [.decode, .execute]

theorem tells_of_halves_addressed :
    .transfer (some .memory) [.register .ip] 0x84 ∈ addressed.pairEvents ∧
      addressed.pair.register .ip = 0x84 := by
  have hLoaded : Reaches HalvesAndEdits (powerOn {} Panel.blank)
      (loaded {} Panel.blank [0x84, 0]) := reaches_loaded rfl (by decide)
  have hReaches : Reaches HalvesAndEdits (powerOn {} Panel.blank) addressed :=
    hLoaded.performAll (by simp [HalvesAndEdits])
  obtain ⟨-, -, hExplains⟩ := tells_of_halves (δ := Panel)
  have hTold : .transfer (some .memory) [.register .ip] 0x84 ∈ addressed.pairEvents := by decide
  exact ⟨hTold, (hExplains {} Panel.blank addressed hReaches).told .ip (by decide) _ _ _ hTold
    (by decide)⟩

end Machine

end Microbus
