import Microbus.Proofs.Cycle.Core

/-! # The two halves of a cycle

Between calls a machine that runs its own micro-programs is in one of two conditions: at rest, or
holding the word that was decoded last, possibly several times over. Decoding leads from either to
the second or reports a stack fault; executing leads back to rest. For both halves it is stated
what they do to the contents and to the control unit.
-/

namespace Microbus
set_option autoImplicit false

structure Transfer.NotesWord (t : Transfer) (w : ControlWord) : Prop where
  drivers : ∃ rest, t.drivers = w.drivers ++ rest ∧ ∀ n ∈ rest, n ∈ w.drivers
  listeners : ∃ rest, t.listeners = w.listeners ++ rest ∧ ∀ n ∈ rest, n ∈ w.listeners

namespace Transfer

variable {δ : Type} [OutputDevice δ]

theorem notesWord_none (w : ControlWord) : NotesWord ⟨[] ++ w.drivers, [] ++ w.listeners⟩ w :=
  ⟨⟨[], by simp, by simp⟩, ⟨[], by simp, by simp⟩⟩

theorem NotesWord.again {t : Transfer} {w : ControlWord} (h : t.NotesWord w) :
    NotesWord ⟨t.drivers ++ w.drivers, t.listeners ++ w.listeners⟩ w := by
  obtain ⟨ds, hDrivers, hDs⟩ := h.drivers
  obtain ⟨ls, hListeners, hLs⟩ := h.listeners
  refine ⟨⟨ds ++ w.drivers, by simp [hDrivers], ?_⟩, ⟨ls ++ w.listeners, by simp [hListeners], ?_⟩⟩
  · intro n hn
    exact (List.mem_append.mp hn).elim (hDs n) id
  · intro n hn
    exact (List.mem_append.mp hn).elim (hLs n) id

theorem NotesWord.mem_nodes_iff {t : Transfer} {w : ControlWord} (h : t.NotesWord w) (n : Node) :
    n ∈ t.nodes ↔ n ∈ w.drivers ∨ n ∈ w.listeners := by
  obtain ⟨ds, hDrivers, hDs⟩ := h.drivers
  obtain ⟨ls, hListeners, hLs⟩ := h.listeners
  rw [nodes, hDrivers, hListeners]
  simp only [List.mem_append]
  exact or_congr (or_iff_left_of_imp (hDs n)) (or_iff_left_of_imp (hLs n))

/-- A word that the bus can carry out drives it once, hands the value to its listeners in order,
and finds nothing to do at nodes that were noted again. -/
theorem NotesWord.carries {t : Transfer} {w : ControlWord} (ht : t.NotesWord w)
    (hw : w.Transferable) {d : Datapath δ} {b : Bus} (hMark : ∀ n, d.mark n = w.markOf n) (hBus : b.held = .none) :
    ∃ after : Bus, after.held = w.drivers.head?.map d.contents.drive ∧
      Carries d b t.nodes (d.contents.latchAll (d.contents.busValue w) w.listeners) after := by
  obtain ⟨ds, hDrivers, hDs⟩ := ht.drivers
  obtain ⟨ls, hListeners, hLs⟩ := ht.listeners
  have hAlone := hw.driverAlone
  rw [nodes, hDrivers, hListeners]
  cases hOwn : w.drivers with
  | nil =>
      have hNoListeners : w.listeners = [] := by
        by_contra h
        exact hw.driven h hOwn
      have hds : ds = [] := by simpa [hOwn, List.eq_nil_iff_forall_not_mem] using hDs
      have hls : ls = [] := by simpa [hNoListeners, List.eq_nil_iff_forall_not_mem] using hLs
      subst hds hls
      rw [hNoListeners]
      exact ⟨b, hBus, Carries.nil d b⟩
  | cons n more =>
      obtain rfl : more = [] := by simpa [hOwn] using hAlone
      have hn : n ∈ w.drivers := by simp [hOwn]
      have hDriver : d.mark n = .transmit := by
        rw [hMark, ControlWord.markOf, if_neg (hw.apart n hn), if_pos hn]
      have hListener : ∀ k ∈ w.listeners, k ≠ n ∧ d.mark k = .receive := by
        intro k hk
        refine ⟨fun he => hw.apart n hn (he ▸ hk), ?_⟩
        rw [hMark, ControlWord.markOf, if_pos hk]
      have hValue : d.contents.busValue w = d.contents.drive n := by
        simp [Contents.busValue, hOwn]
      have hDrive := (Carries.transmit hDriver hBus).again (by simpa [hOwn] using hDs)
      refine ⟨⟨some (d.contents.drive n), d.contents.drive n⟩, rfl, hDrive.append ?_⟩
      have hReceive : ∀ k ∈ w.listeners,
          (resolveAll d b ([n] ++ ds)).part.mark k = .receive := by
        intro k hk
        obtain ⟨hne, hk⟩ := hListener k hk
        have hNotMem : k ∉ [n] ++ ds := by
          simpa [hne] using fun h => hne (by simpa [hOwn] using hDs k h)
        rw [hDrive.mark, if_neg hNotMem, hk]
      have hHeld : (⟨some (d.contents.drive n), d.contents.drive n⟩ : Bus).held =
          some (d.contents.drive n) := rfl
      have hLatch := (Carries.receive hHeld w.nodup_listeners hReceive).again hLs
      rw [hDrive.contents] at hLatch
      rw [hValue]
      exact hLatch

end Transfer

namespace Datapath

variable {δ : Type}

theorem get_applyDirect (d : Datapath δ) (w : ControlWord) :
    (d.applyDirect w).get = (d.contents.direct w).register := by
  funext r
  cases r with
  | pc =>
      simp only [get, applyDirect, Contents.direct]
      split <;> rfl
  | x =>
      simp only [get, applyDirect, Contents.direct]
      split <;> rfl
  | sp =>
      simp only [get, applyDirect, Contents.direct]
      cases w.has .sp1 <;> cases w.has .sm1 <;> rfl
  | _ => rfl

theorem contents_applyAlu (d : Datapath δ) (w : ControlWord) :
    (d.applyAlu w).contents = d.contents.set .alu (d.contents.arithmetic w).1 := by
  have hGet : (d.applyAlu w).get = (d.set .alu (d.contents.arithmetic w).1).get := by
    funext r
    cases r with
    | fr =>
        simp only [get, applyAlu]
        split <;> rfl
    | _ => rfl
  rw [← contents_set]
  simp only [contents, hGet]
  rfl

theorem pending_applyAlu (d : Datapath δ) (w : ControlWord) :
    (d.applyAlu w).fr.pending =
      if w.has .eo then some (d.contents.arithmetic w).2 else d.fr.pending := by
  simp only [applyAlu]
  split <;> rfl

theorem contents_applyDirect (d : Datapath δ) (w : ControlWord) :
    (d.applyDirect w).contents = d.contents.direct w := by
  simp only [contents, get_applyDirect]
  rfl

theorem contents_prepare (d : Datapath δ) (w : ControlWord) :
    ((d.applyDirect w).applyAlu w).contents = d.contents.immediate w := by
  rw [contents_applyAlu, contents_applyDirect]
  rfl

theorem pending_prepare (d : Datapath δ) (w : ControlWord) :
    ((d.applyDirect w).applyAlu w).fr.pending =
      if w.has .eo then some ((d.contents.immediate w).arithmetic w).2 else d.fr.pending := by
  rw [pending_applyAlu, contents_applyDirect]
  rfl

theorem contents_clock (d : Datapath δ) :
    d.clock.contents = match d.fr.pending with
      | some f => d.contents.set .fr f.toByte
      | none => d.contents := by
  cases hPending : d.fr.pending with
  | none => simp only [clock, FlagRegister.clock, hPending]; rfl
  | some f =>
      have hClock : d.clock = { d.set .fr f.toByte with
          alu := d.alu.clock, fr := ⟨d.fr.register.set f.toByte, none⟩ } := by
        simp only [clock, FlagRegister.clock, hPending, set]
      rw [hClock]
      exact contents_set d .fr f.toByte

theorem pending_clock (d : Datapath δ) : d.clock.fr.pending = none := by
  cases hPending : d.fr.pending <;> simp [clock, FlagRegister.clock, hPending]

variable [OutputDevice δ]

@[simp] theorem mark_prepare (d : Datapath δ) (w : ControlWord) (n : Node) :
    ((d.applyDirect w).applyAlu w).mark n = d.mark n := by
  cases n with
  | register r =>
      cases r with
      | pc =>
          simp only [mark, slot, applyDirect, applyAlu]
          split <;> rfl
      | x =>
          simp only [mark, slot, applyDirect, applyAlu]
          split <;> rfl
      | sp =>
          simp only [mark, slot, applyDirect, applyAlu]
          cases w.has .sp1 <;> cases w.has .sm1 <;> rfl
      | fr =>
          simp only [mark, slot, applyDirect, applyAlu]
          split <;> rfl
      | _ => rfl
  | memory | outputData => rfl

@[simp] theorem mark_clock (d : Datapath δ) (n : Node) : d.clock.mark n = d.mark n := by
  have hFlags : d.fr.clock.register.mark = d.fr.register.mark := by
    cases hPending : d.fr.pending <;> simp [FlagRegister.clock, hPending, Register.set]
  cases n with
  | register r =>
      cases r with
      | fr => exact hFlags
      | _ => rfl
  | memory | outputData => rfl

end Datapath

namespace Machine

variable {δ : Type}

def contents (m : Machine δ) : Contents δ := m.datapath.contents

def core (m : Machine δ) : Core δ := ⟨m.contents, m.stackTop, m.halted⟩

theorem stackFault?_eq (m : Machine δ) (w : ControlWord) :
    m.stackFault? w = m.core.stackFault? m.config w := rfl

structure SameControl (m m' : Machine δ) : Prop where
  counter : m'.counter = m.counter
  halted : m'.halted = m.halted
  program : m'.program = m.program
  stackTop : m'.stackTop = m.stackTop
  config : m'.config = m.config

variable [OutputDevice δ]

/-- No word waits, nothing is noted or marked, the bus is free and no flags are queued. -/
structure AtRest (m : Machine δ) : Prop where
  word : m.word = none
  transfer : m.transfer = .none
  bus : m.bus.held = none
  mark : ∀ n, m.datapath.mark n = .idle
  pending : m.datapath.fr.pending = none

/-- A word waits, decoded once or several times over since the machine was at rest. -/
structure Holds (m : Machine δ) (w : ControlWord) : Prop where
  word : m.word = some w
  notes : m.transfer.NotesWord w
  bus : m.bus.held = none
  mark : ∀ n, m.datapath.mark n = w.markOf n
  pending : m.datapath.fr.pending = if w.has .eo then some (m.contents.arithmetic w).2 else none

structure Decodes (m : Machine δ) (w : ControlWord) (t : Transition δ) : Prop where
  fault : t.fault = none
  holds : t.machine.Holds w
  contents : t.machine.contents = m.contents.immediate w
  control : m.SameControl t.machine

/-- A step fails, and only what was decoded is lost. -/
structure Refuses (m : Machine δ) (e : Fault) (t : Transition δ) : Prop where
  fault : t.fault = some e
  atRest : t.machine.AtRest
  contents : t.machine.contents = m.contents
  control : m.SameControl t.machine

structure Executes (m : Machine δ) (w : ControlWord) (t : Transition δ) : Prop where
  fault : t.fault = none
  atRest : t.machine.AtRest
  contents : t.machine.contents = m.contents.carry w
  counter : t.machine.counter = if w.has .msr then .first else m.counter.next
  halted : t.machine.halted = m.halted
  program : t.machine.program = m.program
  stackTop : t.machine.stackTop =
    if w.has .si then t.machine.contents.register .sp else m.stackTop
  config : t.machine.config = m.config

theorem contents_complete (m : Machine δ) (w : ControlWord) :
    (m.complete w).contents =
      let told :=
        if w.has .oci then
          { m.contents with device := OutputDevice.command m.contents.device m.lastBus }
        else m.contents
      match m.datapath.fr.pending with
      | some f => told.set .fr f.toByte
      | none => told := by
  have hClock := Datapath.contents_clock { m.datapath with
    port := if w.has .oci then m.datapath.port.command m.lastBus else m.datapath.port }
  refine hClock.trans ?_
  cases w.has .oci <;> rfl

theorem mark_complete (m : Machine δ) (w : ControlWord) (n : Node) :
    (m.complete w).datapath.mark n = m.datapath.mark n := by
  refine (Datapath.mark_clock _ n).trans ?_
  cases w.has .oci with
  | false => rfl
  | true =>
      cases n with
      | register r => cases r <;> rfl
      | memory | outputData => rfl

variable {m : Machine δ} {w : ControlWord}

theorem apply_eq_ok (hDrive : ∀ n ∈ w.drivers, n.canDrive = true)
    (hFault : m.core.stackFault? m.config w = none) :
    m.apply w = .ok { m with
      transfer := ⟨m.transfer.drivers ++ w.drivers, m.transfer.listeners ++ w.listeners⟩
      datapath := (((m.datapath.markAll .transmit w.drivers).markAll .receive
        w.listeners).applyDirect w).applyAlu w } := by
  simp only [apply, stackFault?_eq, hFault, Transfer.noteDrivers_eq_ok _ _ hDrive,
    Transfer.noteListeners_eq]

theorem apply_eq_error {e : Fault} (hFault : m.core.stackFault? m.config w = some e) :
    m.apply w = .error e := by
  simp only [apply, stackFault?_eq, hFault]

theorem decodes_issue (hm : m.AtRest ∨ m.Holds w) (hDrive : ∀ n ∈ w.drivers, n.canDrive = true)
    (hRun : m.halted = false) (hHlt : w.has .hlt = false)
    (hFault : m.core.stackFault? m.config w = none) :
    m.Decodes w (m.issue w) := by
  have hNotes : Transfer.NotesWord
      ⟨m.transfer.drivers ++ w.drivers, m.transfer.listeners ++ w.listeners⟩ w := by
    rcases hm with hm | hm
    · rw [hm.transfer]
      exact Transfer.notesWord_none w
    · exact hm.notes.again
  have hBus : m.bus.held = none := hm.elim AtRest.bus Holds.bus
  have hContents : ((((m.datapath.markAll .transmit w.drivers).markAll .receive
      w.listeners).applyDirect w).applyAlu w).contents = m.contents.immediate w := by
    simp only [Datapath.contents_prepare, Datapath.contents_markAll, contents]
  have hIssue : m.issue w = ⟨{ m with
      transfer := ⟨m.transfer.drivers ++ w.drivers, m.transfer.listeners ++ w.listeners⟩
      datapath := (((m.datapath.markAll .transmit w.drivers).markAll .receive
        w.listeners).applyDirect w).applyAlu w
      word := some w }, none, [.cycleStart m.counter w]⟩ := by
    simp [issue, hRun, hHlt, apply_eq_ok hDrive hFault]
  rw [hIssue]
  refine ⟨rfl, ⟨rfl, hNotes, hBus, ?_, ?_⟩, hContents, ⟨rfl, rfl, rfl, rfl, rfl⟩⟩
  · intro n
    have hMark : n ∉ w.listeners → n ∉ w.drivers → m.datapath.mark n = .idle := by
      intro hL hD
      rcases hm with hm | hm
      · exact hm.mark n
      · rw [hm.mark, ControlWord.markOf, if_neg hL, if_neg hD]
    simp only [Datapath.mark_prepare, Datapath.mark_markAll, ControlWord.markOf]
    split
    · rfl
    · split
      · rfl
      · exact hMark ‹_› ‹_›
  · have hPending : w.has .eo = false → m.datapath.fr.pending = none := by
      intro hEo
      rcases hm with hm | hm
      · exact hm.pending
      · simp [hm.pending, hEo]
    simp only [contents, hContents, Datapath.pending_prepare, Datapath.contents_markAll,
      Datapath.pending_markAll]
    cases hEo : w.has .eo
    · simp [hPending hEo]
    · rfl

theorem refuses_issue {e : Fault} (hm : m.AtRest ∨ m.Holds w) (hw : w.Orderly)
    (hRun : m.halted = false) (hHlt : w.has .hlt = false)
    (hFault : m.core.stackFault? m.config w = some e) :
    m.Refuses e (m.issue w) := by
  have hIssue : m.issue w = ⟨{ m with
      datapath := m.datapath.markAll .idle m.transfer.nodes, transfer := .none, word := none },
      some e, [.cycleStart m.counter w, .failure e]⟩ := by
    simp [issue, hRun, hHlt, apply_eq_error hFault, Transfer.abort_eq]
  have hEo : w.has .eo = false := by
    obtain ⟨-, hMoves, -⟩ := Core.stackFault?_eq_some_iff.mp hFault
    cases hEo : w.has .eo with
    | false => rfl
    | true =>
        obtain ⟨hUp, hDown⟩ := hw.flagsAlone hEo
        simp [hUp, hDown] at hMoves
  rw [hIssue]
  refine ⟨rfl, ⟨rfl, rfl, hm.elim AtRest.bus Holds.bus, ?_, ?_⟩, ?_, ⟨rfl, rfl, rfl, rfl, rfl⟩⟩
  · intro n
    rw [Datapath.mark_markAll]
    rcases hm with hm | hm
    · simp [hm.mark]
    · by_cases hn : n ∈ w.drivers ∨ n ∈ w.listeners
      · rw [if_pos ((hm.notes.mem_nodes_iff n).mpr hn)]
      · obtain ⟨hD, hL⟩ := not_or.mp hn
        simp [hm.mark, ControlWord.markOf, hD, hL]
  · rw [Datapath.pending_markAll]
    rcases hm with hm | hm
    · exact hm.pending
    · simp [hm.pending, hEo]
  · exact Datapath.contents_markAll m.datapath .idle m.transfer.nodes

def transferred (m : Machine δ) (w : ControlWord) : Machine δ :=
  let r := Transfer.resolveAll m.datapath m.bus m.transfer.nodes
  { m with
    transfer := .none
    word := none
    datapath := r.part.markAll .idle m.transfer.nodes
    bus := r.bus
    lastBus := m.contents.busValue w }

theorem executeStep_eq (hm : m.Holds w) (hw : w.Transferable) (hRun : m.halted = false) :
    m.executeStep.fault = none ∧ m.executeStep.machine = (m.transferred w).complete w := by
  obtain ⟨after, hHeld, hCarries⟩ := hm.notes.carries hw hm.mark hm.bus
  have hValue : after.held.getD 0 = m.contents.busValue w := by
    rw [hHeld]
    rfl
  simp [executeStep, hRun, hm.word, Transfer.execute, hCarries.fault, hCarries.bus,
    Transfer.abort_eq, hValue, transferred]

theorem executes_executeStep (hm : m.Holds w) (hw : w.Transferable) (hRun : m.halted = false) :
    m.Executes w m.executeStep := by
  obtain ⟨_, -, hCarries⟩ := hm.notes.carries hw hm.mark hm.bus
  obtain ⟨hFault, hMachine⟩ := executeStep_eq hm hw hRun
  have hMoved : (m.transferred w).contents =
      m.contents.latchAll (m.contents.busValue w) w.listeners :=
    (Datapath.contents_markAll _ _ _).trans hCarries.contents
  have hPending : (m.transferred w).datapath.fr.pending =
      if w.has .eo then some (m.contents.arithmetic w).2 else none :=
    ((Datapath.pending_markAll _ _ _).trans hCarries.pending).trans hm.pending
  have hMark : ∀ n, (m.transferred w).datapath.mark n = .idle := by
    intro n
    refine (Datapath.mark_markAll _ _ _ n).trans ?_
    split
    · rfl
    · next hn =>
        obtain ⟨hD, hL⟩ := not_or.mp (mt (hm.notes.mem_nodes_iff n).mpr hn)
        rw [hCarries.mark, if_neg hn, hm.mark, ControlWord.markOf, if_neg hL, if_neg hD]
  have hContents : ((m.transferred w).complete w).contents = m.contents.carry w := by
    have hBus : (m.transferred w).lastBus = m.contents.busValue w := rfl
    rw [contents_complete, hMoved, hPending, hBus]
    cases hEo : w.has .eo <;> simp [Contents.carry, hEo]
  refine ⟨hFault, ?_, ?_, ?_, ?_, ?_, ?_, ?_⟩ <;> rw [hMachine]
  · refine ⟨rfl, rfl, rfl, ?_, Datapath.pending_clock _⟩
    exact fun n => (mark_complete (m.transferred w) w n).trans (hMark n)
  · exact hContents
  all_goals rfl

end Machine

end Microbus
