import Microbus.Proofs.Cycle.Outcomes

/-! # Words whose drivers listen

A node has room for one mark. Asked both to drive the bus and to listen, it is noted twice but keeps
the later mark only: it is resolved among the drivers, and listens there. For every word without
`IO` this module says what comes of its transfer. The law that the bus has one writer holds of the
words that keep drivers and listeners apart; among the others some fail that have one driver, some
succeed that have two, and some change a register before they fail.
-/

namespace Microbus
set_option autoImplicit false

namespace ControlWord

def senders (w : ControlWord) : List Node := w.drivers.filter fun n => n ∉ w.listeners

def listensFirst (w : ControlWord) : Bool :=
  (w.drivers ++ w.listeners).head?.any fun n => n ∈ w.listeners

/-- The drivers between the first two senders: they listen while the first sender drives. -/
def caught (w : ControlWord) : List Node :=
  match w.drivers with
  | [] => []
  | n :: ns => if n ∈ w.listeners then [] else ns.takeWhile fun k => k ∈ w.listeners

/-- The law that the bus has one writer: two drivers meet, one driver serves every listener, and
nothing listens to a bus that has no driver. -/
structure SingleWriter (w : ControlWord) (fault : Option Fault) : Prop where
  conflict : 2 ≤ w.drivers.length → ∃ held refused, fault = some (.busConflict held refused)
  served : w.drivers.length = 1 → fault = none
  undriven : w.drivers = [] → w.listeners ≠ [] → fault = some .busUnwritten

def Apart (w : ControlWord) : Prop := ∀ n ∈ w.drivers, n ∉ w.listeners

theorem drivers_ordered (w : ControlWord) : w.drivers.Pairwise (fun n _ => n ≠ .memory) ∧
    .register .ma ∉ w.drivers ∧ .register .oa ∉ w.drivers ∧ .outputData ∉ w.drivers := by
  have hSublist : w.drivers.Sublist (driveLines.map Prod.snd) :=
    List.filter_sublist.map Prod.snd
  have hAll : (driveLines.map Prod.snd).Pairwise fun n _ => n ≠ .memory := by decide
  exact ⟨hAll.sublist hSublist, fun h => absurd (hSublist.subset h) (by decide),
    fun h => absurd (hSublist.subset h) (by decide),
    fun h => absurd (hSublist.subset h) (by decide)⟩

theorem caught_subset {w : ControlWord} {n : Node} (h : n ∈ w.caught) :
    n ∈ w.drivers ∧ n ∈ w.listeners := by
  unfold caught at h
  split at h
  · cases h
  · next k ks hDrivers =>
      split at h
      · cases h
      · refine ⟨?_, by simpa using List.all_eq_true.mp List.all_takeWhile n h⟩
        rw [hDrivers]
        exact List.mem_cons_of_mem k ((List.takeWhile_sublist _).subset h)

theorem Apart.caught_eq_nil {w : ControlWord} (h : w.Apart) : w.caught = [] := by
  refine List.eq_nil_iff_forall_not_mem.mpr ?_
  intro n hn
  exact h n (caught_subset hn).1 (caught_subset hn).2

inductive Order (w : ControlWord) : Prop
  | nothing (hDrivers : w.drivers = []) (hListeners : w.listeners = [])
  | listener {n : Node} {ns : List Node} (hFirst : w.listensFirst = true) (hCaught : w.caught = [])
      (hn : n ∈ w.listeners) (hNodes : w.drivers ++ w.listeners = n :: ns)
  | sender {n : Node} (hFirst : w.listensFirst = false) (hn : n ∉ w.listeners)
      (hSenders : w.senders = [n]) (hDrivers : w.drivers = n :: w.caught)
  | senders {n k : Node} {ks rest : List Node} (hFirst : w.listensFirst = false)
      (hn : n ∉ w.listeners) (hk : k ∉ w.listeners) (hSenders : w.senders = n :: k :: rest)
      (hDrivers : w.drivers = n :: (w.caught ++ k :: ks))

theorem order (w : ControlWord) : w.Order := by
  cases hDrivers : w.drivers with
  | nil =>
      cases hListeners : w.listeners with
      | nil => exact .nothing hDrivers hListeners
      | cons n ns =>
          have hNodes : w.drivers ++ w.listeners = n :: ns := by simp [hDrivers, hListeners]
          refine .listener ?_ ?_ ?_ hNodes
          all_goals simp [listensFirst, caught, hDrivers, hListeners]
  | cons n ns =>
      by_cases hn : n ∈ w.listeners
      · have hNodes : w.drivers ++ w.listeners = n :: (ns ++ w.listeners) := by simp [hDrivers]
        refine .listener ?_ ?_ hn hNodes
        all_goals simp [listensFirst, caught, hDrivers, hn]
      · have hFirst : w.listensFirst = false := by simp [listensFirst, hDrivers, hn]
        obtain ⟨rest, hSplit, hHead⟩ :
            ∃ rest, ns = w.caught ++ rest ∧ ∀ k ∈ rest.head?, k ∉ w.listeners := by
          refine ⟨ns.dropWhile fun k => k ∈ w.listeners, ?_, ?_⟩
          · simp [caught, hDrivers, hn]
          · intro k hk
            have hNot := List.head?_dropWhile_not (fun k => decide (k ∈ w.listeners)) ns
            rw [Option.mem_def.mp hk] at hNot
            simpa using hNot
        have hSilent : w.caught.filter (fun k => k ∉ w.listeners) = [] := by
          rw [List.filter_eq_nil_iff]
          intro k hk
          simpa using (caught_subset hk).2
        rw [hSplit] at hDrivers
        have hSenders : w.senders = n :: rest.filter fun k => k ∉ w.listeners := by
          rw [senders, hDrivers, List.filter_cons_of_pos (by simpa using hn), List.filter_append,
            hSilent, List.nil_append]
        cases rest with
        | nil =>
            rw [List.append_nil] at hDrivers
            exact .sender hFirst hn hSenders hDrivers
        | cons k ks =>
            have hk : k ∉ w.listeners := hHead k rfl
            rw [List.filter_cons_of_pos (by simpa using hk)] at hSenders
            exact .senders hFirst hn hk hSenders hDrivers

end ControlWord

variable {δ : Type}

namespace Contents

/-- The fault of a transfer: something listens before the bus is driven, or two senders meet. -/
def clash? (c : Contents δ) (w : ControlWord) : Option Fault :=
  if w.listensFirst then some .busUnwritten
  else
    match w.senders with
    | n :: k :: _ => some (.busConflict (c.drive n) (c.drive k))
    | _ => none

theorem singleWriter_clash? {w : ControlWord} (h : w.Apart) (c : Contents δ) :
    w.SingleWriter (c.clash? w) := by
  have hSenders : w.senders = w.drivers := by
    rw [ControlWord.senders, List.filter_eq_self]
    intro n hn
    simpa using h n hn
  have hFirst : ∀ n ns, w.drivers = n :: ns → w.listensFirst = false := by
    intro n ns hDrivers
    simpa [ControlWord.listensFirst, hDrivers] using h n (by simp [hDrivers])
  refine ⟨?_, ?_, ?_⟩
  · intro hTwo
    obtain ⟨n, k, ks, hDrivers⟩ : ∃ n k ks, w.drivers = n :: k :: ks := by
      match hDrivers : w.drivers with
      | n :: k :: ks => exact ⟨n, k, ks, rfl⟩
      | [_] | [] => simp [hDrivers] at hTwo
    refine ⟨c.drive n, c.drive k, ?_⟩
    simp [clash?, hFirst n _ hDrivers, hSenders, hDrivers]
  · intro hOne
    obtain ⟨n, hDrivers⟩ := List.length_eq_one_iff.mp hOne
    simp [clash?, hFirst n _ hDrivers, hSenders, hDrivers]
  · intro hNone hSome
    obtain ⟨n, ns, hListeners⟩ := List.exists_cons_of_ne_nil hSome
    simp [clash?, ControlWord.listensFirst, hNone, hListeners]

theorem memory_not_mem_caught {w : ControlWord} {c : Contents δ} (h : c.clash? w ≠ none) :
    .memory ∉ w.caught := by
  cases w.order with
  | nothing hNone hSilent =>
      simp [clash?, ControlWord.listensFirst, ControlWord.senders, hNone, hSilent] at h
  | listener hFirst hCaught hn hNodes => simp [hCaught]
  | sender hFirst hn hSenders hDrivers => simp [clash?, hFirst, hSenders] at h
  | @senders n k ks rest hFirst hn hk hSenders hDrivers =>
      intro hMem
      have hLast := w.drivers_ordered.1
      rw [hDrivers, List.pairwise_cons, List.pairwise_append] at hLast
      exact hLast.2.2.2 .memory hMem k List.mem_cons_self rfl

variable [OutputDevice δ]

theorem drive_latchAll {n : Node} {ns : List Node} (h : n ∉ ns) (hMa : .register .ma ∉ ns)
    (hOa : .register .oa ∉ ns) (c : Contents δ) (v : UInt8) :
    (c.latchAll v ns).drive n = c.drive n := by
  cases n with
  | register r => rw [drive, register_latchAll, if_neg h, drive]
  | memory => rw [drive, register_latchAll, if_neg hMa, memory_latchAll h, drive]
  | outputData => rw [drive, register_latchAll, if_neg hOa, drive]

end Contents

namespace Transfer

variable [OutputDevice δ]

theorem NotesWord.nodes_eq {t : Transfer} {w : ControlWord} (ht : t.NotesWord w) :
    ∃ more, t.nodes = w.drivers ++ more ∧ ∀ n ∈ more, n ∈ w.drivers ∨ n ∈ w.listeners := by
  obtain ⟨ds, hDrivers, hDs⟩ := ht.drivers
  obtain ⟨ls, hListeners, hLs⟩ := ht.listeners
  refine ⟨ds ++ (w.listeners ++ ls), by simp [nodes, hDrivers, hListeners], ?_⟩
  intro n hn
  rcases List.mem_append.mp hn with hn | hn
  · exact .inl (hDs n hn)
  · exact .inr ((List.mem_append.mp hn).elim id (hLs n))

theorem NotesWord.exists_head {t : Transfer} {w : ControlWord} (ht : t.NotesWord w) {n : Node}
    {ns : List Node} (h : w.drivers ++ w.listeners = n :: ns) : ∃ rest, t.nodes = n :: rest := by
  obtain ⟨ds, hDrivers, hDs⟩ := ht.drivers
  obtain ⟨ls, hListeners, -⟩ := ht.listeners
  rw [nodes, hDrivers, hListeners]
  cases hOwn : w.drivers with
  | nil =>
      obtain rfl : ds = [] := by simpa [hOwn, List.eq_nil_iff_forall_not_mem] using hDs
      rw [hOwn, List.nil_append] at h
      exact ⟨ns ++ ls, by simp [h]⟩
  | cons k ks =>
      rw [hOwn, List.cons_append, List.cons.injEq] at h
      exact ⟨ks ++ ds ++ (w.listeners ++ ls), by simp [h.1]⟩

section

variable {w : ControlWord} {d : Datapath δ} {b : Bus} {n : Node} {ks : List Node}

theorem carries_caught (hDrivers : w.drivers = n :: (w.caught ++ ks)) (hn : n ∉ w.listeners)
    (hMark : ∀ n, d.mark n = w.markOf n) (hBus : b.held = .none) :
    Carries d b (n :: w.caught) (d.contents.latchAll (d.contents.busValue w) w.caught)
      ⟨some (d.contents.busValue w), d.contents.busValue w⟩ := by
  have hValue : d.contents.busValue w = d.contents.drive n := by
    simp [Contents.busValue, hDrivers]
  have hNodup := w.nodup_drivers
  rw [hDrivers, List.nodup_cons, List.nodup_append] at hNodup
  have hSend : d.mark n = .transmit := by
    rw [hMark, ControlWord.markOf, if_neg hn, if_pos (by simp [hDrivers])]
  have hFirst := Carries.transmit hSend hBus
  have hListen : ∀ k ∈ w.caught, (resolveAll d b [n]).part.mark k = .receive := by
    intro k hk
    have hkn : k ≠ n := by
      rintro rfl
      exact hNodup.1 (List.mem_append_left ks hk)
    rw [hFirst.mark, if_neg (by simpa using hkn), hMark, ControlWord.markOf,
      if_pos (ControlWord.caught_subset hk).2]
  have hHeld : (⟨some (d.contents.drive n), d.contents.drive n⟩ : Bus).held =
      some (d.contents.drive n) := rfl
  have hLatch := Carries.receive hHeld hNodup.2.1 hListen
  rw [hFirst.contents] at hLatch
  rw [hValue]
  exact hFirst.append hLatch

theorem resolve_secondSender {k : Node} (hDrivers : w.drivers = n :: (w.caught ++ k :: ks))
    (hk : k ∉ w.listeners) (hMark : ∀ n, d.mark n = w.markOf n)
    (h : Carries d b (n :: w.caught) (d.contents.latchAll (d.contents.busValue w) w.caught)
      ⟨some (d.contents.busValue w), d.contents.busValue w⟩) :
    (resolveAll d b (n :: w.caught)).part.resolve k
        ⟨some (d.contents.busValue w), d.contents.busValue w⟩ =
      ⟨(resolveAll d b (n :: w.caught)).part.rested k,
        ⟨some (d.contents.busValue w), d.contents.busValue w⟩,
        some (.busConflict (d.contents.drive n) (d.contents.drive k)), []⟩ := by
  have hValue : d.contents.busValue w = d.contents.drive n := by
    simp [Contents.busValue, hDrivers]
  have hNodup := w.nodup_drivers
  rw [hDrivers, ← List.cons_append, List.nodup_append] at hNodup
  have hNew : k ∉ n :: w.caught := fun hMem => hNodup.2.2 k hMem k List.mem_cons_self rfl
  obtain ⟨-, hMa, hOa, -⟩ := w.drivers_ordered
  have hCaught : ∀ j, j ∉ w.drivers → j ∉ w.caught :=
    fun j hj hMem => hj (ControlWord.caught_subset hMem).1
  have hSend : (resolveAll d b (n :: w.caught)).part.mark k = .transmit := by
    rw [h.mark, if_neg hNew, hMark, ControlWord.markOf, if_neg hk, if_pos (by simp [hDrivers])]
  have hDrive : (d.contents.latchAll (d.contents.busValue w) w.caught).drive k =
      d.contents.drive k :=
    Contents.drive_latchAll (fun hMem => hNew (List.mem_cons_of_mem n hMem)) (hCaught _ hMa)
      (hCaught _ hOa) _ _
  rw [Datapath.resolve_conflict hSend rfl, h.contents, hDrive, ← hValue]

end

theorem NotesWord.ends {t : Transfer} {w : ControlWord} (ht : t.NotesWord w) {d : Datapath δ}
    {b : Bus} (hMark : ∀ n, d.mark n = w.markOf n) (hBus : b.held = .none) :
    Ends d b t.nodes (d.contents.latchAll (d.contents.busValue w) w.caught)
      (d.contents.clash? w) := by
  obtain ⟨more, hNodes, hMore⟩ := ht.nodes_eq
  cases w.order with
  | nothing hNone hSilent =>
      have hClash : d.contents.clash? w = .none := by
        simp [Contents.clash?, ControlWord.listensFirst, ControlWord.senders, hNone, hSilent]
      have hEmpty : t.nodes = [] := by
        simpa [hNodes, hNone, hSilent, List.eq_nil_iff_forall_not_mem] using hMore
      rw [hClash, hEmpty]
      exact ⟨rfl, fun h => absurd rfl h⟩
  | @listener n ns hFirst hCaught hn hAll =>
      have hClash : d.contents.clash? w = some .busUnwritten := by
        simp [Contents.clash?, hFirst]
      obtain ⟨rest, hHead⟩ := ht.exists_head hAll
      have hListen : d.mark n = .receive := (hMark n).trans (if_pos hn)
      rw [hClash, hCaught, hHead]
      exact (Carries.nil d b).fails (Datapath.resolve_unwritten hListen hBus) rest
  | @sender n hFirst hn hSenders hDrivers =>
      have hClash : d.contents.clash? w = .none := by
        simp [Contents.clash?, hFirst, hSenders]
      have hNoMore : w.drivers = n :: (w.caught ++ []) := by rw [List.append_nil, hDrivers]
      have hCarries := carries_caught hNoMore hn hMark hBus
      rw [hClash, hNodes, hDrivers]
      refine hCarries.serves rfl ?_ _
      intro k hk hNot
      have hListen : k ∈ w.listeners := (hMore k hk).resolve_left (hDrivers ▸ hNot)
      rw [hMark, ControlWord.markOf, if_pos hListen]
      decide
  | @senders n k ks rest hFirst hn hk hSenders hDrivers =>
      have hClash : d.contents.clash? w =
          some (.busConflict (d.contents.drive n) (d.contents.drive k)) := by
        simp [Contents.clash?, hFirst, hSenders]
      have hCarries := carries_caught hDrivers hn hMark hBus
      rw [hClash, hNodes, hDrivers, ← List.cons_append, List.append_assoc, List.cons_append]
      exact hCarries.fails (resolve_secondSender hDrivers hk hMark hCarries) _

end Transfer

namespace Machine

variable [OutputDevice δ]

/-- A step gives a word up. The caught drivers have taken the value of the first sender; everything
else is as it was, and nothing of the word is left. -/
structure Abandons (m : Machine δ) (w : ControlWord) (e : Fault) (t : Transition δ) : Prop where
  fault : t.fault = some e
  register : ∀ r, t.machine.register r =
    if .register r ∈ w.caught then m.contents.busValue w else m.register r
  memory : t.machine.memory = m.memory
  device : t.machine.device = m.device
  control : m.SameControl t.machine
  atRest : t.machine.AtRest
  mode : t.machine.datapath.alu.mode = .add
  lastBus : t.machine.lastBus = 0

variable {m : Machine δ} {w : ControlWord} {e : Fault}

theorem Quiet.notesWord_noted (hm : m.Quiet) (w : ControlWord) :
    (m.noted w).transfer.NotesWord w := by
  have hEq : (m.noted w).transfer = ⟨[] ++ w.drivers, [] ++ w.listeners⟩ := by
    simp [noted, hm.transfer, Transfer.none]
  rw [hEq]
  exact Transfer.notesWord_none w

theorem Quiet.ends_noted (hm : m.Quiet) (w : ControlWord) :
    Transfer.Ends (m.noted w).datapath (m.noted w).bus (m.noted w).transfer.nodes
      ((m.noted w).contents.latchAll ((m.noted w).contents.busValue w) w.caught)
      ((m.noted w).contents.clash? w) :=
  (hm.notesWord_noted w).ends (hm.mark_noted w) hm.bus

theorem issue_of_fault_eq_none (hRun : m.halted = false) (hHlt : w.has .hlt = false)
    (hIssue : (m.issue w).fault = none) : (m.issue w).machine = m.noted w := by
  rcases issue_cases (m := m) w hRun with ⟨hHalts, -⟩ | ⟨-, e, -, hEq⟩ | ⟨-, -, hEq⟩
  · rw [hHlt] at hHalts
    cases hHalts
  · rw [hEq] at hIssue
    cases hIssue
  · rw [hEq]

theorem Quiet.fault_noted (hm : m.Quiet) (hRun : m.halted = false) (w : ControlWord) :
    (m.noted w).executeStep.fault = (m.noted w).contents.clash? w := by
  have hEnds : (m.noted w).resolution.fault = (m.noted w).contents.clash? w :=
    (hm.ends_noted w).fault
  rw [← hEnds]
  exact fault_executeStep hRun rfl

theorem Quiet.abandons_noted (hm : m.Quiet) (hRun : m.halted = false)
    (hFault : (m.noted w).executeStep.fault = some e) :
    (m.noted w).Abandons w e (m.noted w).executeStep := by
  have hClash : (m.noted w).contents.clash? w ≠ none := by
    rw [← hm.fault_noted hRun w, hFault]
    exact nofun
  rcases executeStep_cases (m := m.noted w) hRun rfl with ⟨-, -, -, hMachine⟩ | ⟨-, hNone, -⟩
  · have hContents : (m.noted w).executeStep.machine.contents =
        (m.noted w).contents.latchAll ((m.noted w).contents.busValue w) w.caught := by
      rw [hMachine, contents_abandoned]
      exact (hm.ends_noted w).contents hClash
    obtain ⟨-, -, -, hData⟩ := w.drivers_ordered
    refine ⟨hFault, ?_, ?_, ?_, ?_, atRest_executeStep hRun rfl (hm.mark_noted_of_not_mem w),
      ?_, ?_⟩
    · intro r
      exact (congrArg (Contents.register · r) hContents).trans (Contents.register_latchAll _ _ _ r)
    · exact (congrArg Contents.memory hContents).trans
        (Contents.memory_latchAll (Contents.memory_not_mem_caught hClash) _ _)
    · exact (congrArg Contents.device hContents).trans
        (Contents.device_latchAll_of_not_mem (fun h => hData (ControlWord.caught_subset h).1) _ _)
    all_goals rw [hMachine]
    · exact ⟨rfl, rfl, rfl, rfl, rfl⟩
    all_goals rfl
  · rw [hNone] at hFault
    cases hFault

/-- The fault of a cycle, for every word that is not refused. Words that keep drivers and listeners
apart obey the law of the single writer. -/
theorem fault_executeStep_issue (hm : m.Quiet) (hRun : m.halted = false)
    (hHlt : w.has .hlt = false) (hIo : w.has .io = false) (hStack : m.stackFault? w = none) :
    (m.issue w).fault = none ∧
      (m.issue w).machine.executeStep.fault = (m.issue w).machine.contents.clash? w ∧
      (w.Apart → w.SingleWriter (m.issue w).machine.executeStep.fault) := by
  rcases issue_cases (m := m) w hRun with ⟨hHalts, -⟩ | ⟨-, e, hRefusal, -⟩ | ⟨-, -, hIssue⟩
  · rw [hHlt] at hHalts
    cases hHalts
  · rw [stackFault?_eq] at hStack
    rw [refusal?_eq_none_iff.mpr ⟨hStack, hIo⟩] at hRefusal
    cases hRefusal
  · have hFault := hm.fault_noted hRun w
    rw [hIssue, hFault]
    exact ⟨rfl, rfl, fun hApart => Contents.singleWriter_clash? hApart _⟩

theorem Quiet.setRegister (hm : m.Quiet) (r : RegName) (v : UInt8) : (m.setRegister r v).Quiet :=
  ⟨hm.word, hm.transfer, hm.bus, fun n => (Datapath.mark_set m.datapath r v n).trans (hm.mark n)⟩

def threeValues : Machine Panel :=
  (((powerOn {} Panel.blank).setRegister .a 1).setRegister .b 2).setRegister .x 3

theorem quiet_threeValues : threeValues.Quiet :=
  (((atRest_powerOn {} Panel.blank).quiet.setRegister .a 1).setRegister .b 2).setRegister .x 3

def caughtBetween : ControlWord := .ofList [.ao, .bo, .bi, .xo]

theorem fault_executeStep_issue_caughtBetween :
    (threeValues.issue caughtBetween).fault = none ∧
      (threeValues.issue caughtBetween).machine.executeStep.fault = some (.busConflict 1 3) := by
  obtain ⟨hIssue, hFault, -⟩ :=
    fault_executeStep_issue quiet_threeValues rfl (w := caughtBetween) rfl rfl rfl
  exact ⟨hIssue, hFault.trans rfl⟩

/-- A and B drive the bus, and B listens as well: no conflict is found. -/
theorem not_forall_singleWriter : ¬ ∀ (m : Machine Panel) (w : ControlWord), m.Quiet →
    m.halted = false → w.has .hlt = false → w.has .io = false → m.stackFault? w = none →
      w.SingleWriter (m.issue w).machine.executeStep.fault := by
  intro h
  have hLaw := h threeValues (.ofList [.ao, .bo, .bi]) quiet_threeValues rfl rfl rfl rfl
  obtain ⟨held, refused, hConflict⟩ := hLaw.conflict (by decide)
  cases hConflict

/-- A cycle that fails in its second half is given up. Registers that both drive and listen may
have changed on the way; a word without such nodes changes none. Its flags are stored neither then
nor by later cycles that do not ask for flags. -/
theorem abandons_executeStep_issue (hm : m.Quiet) (hRun : m.halted = false)
    (hHlt : w.has .hlt = false) (hIssue : (m.issue w).fault = none)
    (hFault : (m.issue w).machine.executeStep.fault = some e) :
    (m.issue w).machine.Abandons w e (m.issue w).machine.executeStep ∧
      (w.Apart → ∀ r, (m.issue w).machine.executeStep.machine.register r =
        (m.issue w).machine.register r) ∧
      ∀ ws : List ControlWord, (∀ v ∈ ws, v.has .eo = false) →
        ((m.issue w).machine.executeStep.machine.cycleAll ws).register .fr =
          (m.issue w).machine.register .fr := by
  rw [issue_of_fault_eq_none hRun hHlt hIssue] at hFault ⊢
  have hAbandons := hm.abandons_noted hRun hFault
  have hKept : ∀ r, .register r ∉ w.caught →
      (m.noted w).executeStep.machine.register r = (m.noted w).register r := by
    intro r hr
    rw [hAbandons.register, if_neg hr]
  refine ⟨hAbandons, ?_, ?_⟩
  · intro hApart r
    exact hKept r (by simp [hApart.caught_eq_nil])
  · intro ws hWs
    have hFr : .register .fr ∉ w.caught := fun h =>
      w.fr_not_mem_nodes (List.mem_append_left _ (ControlWord.caught_subset h).1)
    exact (flags_cycleAll (.inr hAbandons.atRest) hWs).trans (hKept .fr hFr)

theorem abandons_executeStep_issue_caughtBetween :
    (threeValues.issue caughtBetween).machine.Abandons caughtBetween (.busConflict 1 3)
        (threeValues.issue caughtBetween).machine.executeStep ∧
      (threeValues.issue caughtBetween).machine.executeStep.machine.register .b = 1 := by
  have hCycle := abandons_executeStep_issue quiet_threeValues rfl (w := caughtBetween) rfl rfl rfl
  exact ⟨hCycle.1, (hCycle.1.register .b).trans rfl⟩

/-- In the cycle above B holds 2 before the transfer and 1 behind it. -/
theorem not_forall_register_kept : ¬ ∀ (m : Machine Panel) (w : ControlWord) (e : Fault),
    m.Quiet → m.halted = false → w.has .hlt = false → (m.issue w).fault = none →
      (m.issue w).machine.executeStep.fault = some e →
        ∀ r, (m.issue w).machine.executeStep.machine.register r =
          (m.issue w).machine.register r := by
  intro h
  have hSame := h threeValues caughtBetween _ quiet_threeValues rfl rfl rfl rfl .b
  exact absurd hSame (by decide)

end Machine

end Microbus
