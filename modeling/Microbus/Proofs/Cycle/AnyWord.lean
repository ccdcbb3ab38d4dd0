import Microbus.Output.Panel
import Microbus.Proofs.Cycle.Whole

/-! # One cycle of any word

Micro-programs hold orderly words only, but a word can also be issued by hand. For every word that
does not halt and asks no node both to drive the bus and to listen, this module says which of the
two halves fails and with which fault, and otherwise what the cycle leaves in every register, in
the memory and in the device. A machine at rest is all that is asked for.
-/

namespace Microbus
set_option autoImplicit false

variable {δ : Type}

namespace ControlWord

theorem canDrive_of_mem_drivers {w : ControlWord} (hIo : w.has .io = false) :
    ∀ n ∈ w.drivers, n.canDrive = true := by
  have hLines : ∀ p ∈ driveLines, p.1 ≠ .io → p.2.canDrive = true := by decide
  intro n hn
  simp only [drivers, List.mem_map, List.mem_filter] at hn
  obtain ⟨p, ⟨hp, hHas⟩, rfl⟩ := hn
  refine hLines p hp ?_
  rintro hEq
  rw [hEq, hIo] at hHas
  cases hHas

theorem drivers_of_io {w : ControlWord} (hIo : w.has .io = true) :
    ∃ ns, w.drivers = .register .ip :: ns := by
  simp [drivers, driveLines, hIo]

theorem addressesFirst (w : ControlWord) : w.listeners.Pairwise fun n k =>
    (n = .memory → k ≠ .register .ma) ∧ (n = .outputData → k ≠ .register .oa) := by
  have hAll : (latchLines.map Prod.snd).Pairwise fun n k =>
      (n = .memory → k ≠ .register .ma) ∧ (n = .outputData → k ≠ .register .oa) := by decide
  exact hAll.sublist (List.filter_sublist.map Prod.snd)

end ControlWord

namespace Contents

/-- The fault of a transfer: two drivers meet, the first two in the order in which they are noted,
or something listens and nothing drives. -/
def collision? (c : Contents δ) (w : ControlWord) : Option Fault :=
  match w.drivers, w.listeners with
  | n :: k :: _, _ => some (.busConflict (c.drive n) (c.drive k))
  | [], _ :: _ => some .busUnwritten
  | _, _ => none

theorem transferable_of_collision?_eq_none {c : Contents δ} {w : ControlWord}
    (hApart : ∀ n ∈ w.drivers, n ∉ w.listeners) (h : c.collision? w = none) :
    w.Transferable := by
  unfold collision? at h
  cases hDrivers : w.drivers with
  | nil =>
      have hNone : w.listeners = [] := by
        cases hListeners : w.listeners with
        | nil => rfl
        | cons n ns => simp [hDrivers, hListeners] at h
      exact ⟨by simp [hDrivers], fun hSome => absurd hNone hSome, hApart⟩
  | cons n ns =>
      cases ns with
      | nil => exact ⟨by simp [hDrivers], by simp [hDrivers], hApart⟩
      | cons k ks => simp [hDrivers] at h

variable [OutputDevice δ]

theorem latchAll_cons (c : Contents δ) (v : UInt8) (n : Node) (ns : List Node) :
    c.latchAll v (n :: ns) = (c.latch n v).latchAll v ns := rfl

theorem memory_latchAll_of_ordered {ns : List Node} (hNodup : ns.Nodup)
    (hOrder : ns.Pairwise fun n k => n = .memory → k ≠ .register .ma) (c : Contents δ) (v : UInt8) :
    (c.latchAll v ns).memory =
      if .memory ∈ ns then c.memory.write ((c.latchAll v ns).register .ma) v else c.memory := by
  induction ns generalizing c with
  | nil => rfl
  | cons n ns ih =>
      obtain ⟨hNew, hNodup⟩ := List.nodup_cons.mp hNodup
      obtain ⟨hFirst, hOrder⟩ := List.pairwise_cons.mp hOrder
      rw [latchAll_cons]
      by_cases hn : n = .memory
      · subst hn
        have hMa : .register .ma ∉ ns := fun h => hFirst _ h rfl rfl
        rw [memory_latchAll hNew, register_latchAll, if_neg hMa, if_pos List.mem_cons_self]
        rfl
      · have hSame : (c.latch n v).memory = c.memory := by
          cases n with
          | memory => exact absurd rfl hn
          | register r | outputData => rfl
        rw [ih hNodup hOrder, hSame]
        simp [Ne.symm hn]

theorem device_latchAll_of_not_mem {ns : List Node} (h : .outputData ∉ ns) (c : Contents δ)
    (v : UInt8) : (c.latchAll v ns).device = c.device := by
  induction ns generalizing c with
  | nil => rfl
  | cons n ns ih =>
      obtain ⟨hn, hns⟩ := not_or.mp (mt List.mem_cons.mpr h)
      rw [latchAll_cons, ih hns]
      cases n with
      | outputData => exact absurd rfl hn
      | register s | memory => rfl

theorem device_latchAll_of_ordered {ns : List Node} (hNodup : ns.Nodup)
    (hOrder : ns.Pairwise fun n k => n = .outputData → k ≠ .register .oa) (c : Contents δ)
    (v : UInt8) :
    (c.latchAll v ns).device =
      if .outputData ∈ ns then OutputDevice.data c.device ((c.latchAll v ns).register .oa) v
      else c.device := by
  induction ns generalizing c with
  | nil => rfl
  | cons n ns ih =>
      obtain ⟨hNew, hNodup⟩ := List.nodup_cons.mp hNodup
      obtain ⟨hFirst, hOrder⟩ := List.pairwise_cons.mp hOrder
      rw [latchAll_cons]
      by_cases hn : n = .outputData
      · subst hn
        have hOa : .register .oa ∉ ns := fun h => hFirst _ h rfl rfl
        rw [device_latchAll_of_not_mem hNew, register_latchAll, if_neg hOa,
          if_pos List.mem_cons_self]
        rfl
      · have hSame : (c.latch n v).device = c.device := by
          cases n with
          | outputData => exact absurd rfl hn
          | register r | memory => rfl
        rw [ih hNodup hOrder, hSame]
        simp [Ne.symm hn]

theorem register_fr_carry (c : Contents δ) (w : ControlWord) : (c.carry w).register .fr =
    if w.has .eo then (c.arithmetic w).2.toByte else c.register .fr := by
  have hFr : .register .fr ∉ w.listeners := by
    simp [ControlWord.mem_listeners_iff, latchLines]
  have hKept := c.register_latchAll (c.busValue w) w.listeners .fr
  rw [if_neg hFr] at hKept
  cases hEo : w.has .eo with
  | true => simp only [carry, hEo, if_true, set, Function.update_self]
  | false => cases hOci : w.has .oci <;> simpa [carry, hEo, hOci] using hKept

theorem device_carry (c : Contents δ) (w : ControlWord) : (c.carry w).device =
    let told := (c.latchAll (c.busValue w) w.listeners).device
    if w.has .oci then OutputDevice.command told (c.busValue w) else told := by
  cases hEo : w.has .eo <;> cases hOci : w.has .oci <;> simp [carry, hEo, hOci, set]

end Contents

namespace Machine

/-- Why a word is not decoded: it moves the stack pointer out of its region, or else it asks the
instruction register to drive the bus. -/
def refusal? (m : Machine δ) (w : ControlWord) : Option Fault :=
  if m.config.enforceBounds = true ∧
      (w.has .sm1 = true ∧ m.config.stackSize ≤ m.stackTop - m.register .sp ∨
        w.has .sp1 = true ∧ m.register .sp = m.stackTop) then
    some (.stackOverflow (m.register .sp) m.stackTop)
  else if w.has .io then some (.readForbidden "IP")
  else none

theorem refusal?_eq_none_iff {m : Machine δ} {w : ControlWord} :
    m.refusal? w = none ↔ m.core.stackFault? m.config w = none ∧ w.has .io = false := by
  rw [Core.stackFault?_eq_none_iff, refusal?]
  split
  · next hStack => exact ⟨nofun, fun h => absurd hStack h.1⟩
  · next hStack =>
      split
      · next hIo => exact ⟨nofun, fun h => absurd hIo (by simp [h.2])⟩
      · next hIo => exact ⟨fun _ => ⟨hStack, (Bool.not_eq_true _).mp hIo⟩, fun _ => rfl⟩

variable [OutputDevice δ]

structure Prepares (m : Machine δ) (w : ControlWord) (t : Transition δ) : Prop where
  fault : t.fault = none
  word : t.machine.word = some w
  mark : ∀ n, t.machine.datapath.mark n = w.markOf n
  pc : t.machine.register .pc = if w.has .ce then m.register .pc + 1 else m.register .pc
  x : t.machine.register .x = if w.has .x1 then 1 else m.register .x
  sp : t.machine.register .sp =
    match w.has .sp1, w.has .sm1 with
    | true, false => m.register .sp + 1
    | false, true => m.register .sp - 1
    | _, _ => m.register .sp
  alu : t.machine.register .alu =
    ((AluMode.select w).compute (m.register .a) (t.machine.register .x)).1
  register : ∀ r, r ∉ [RegName.pc, .x, .sp, .alu] → t.machine.register r = m.register r
  memory : t.machine.memory = m.memory
  device : t.machine.device = m.device
  control : m.SameControl t.machine

/-- A step hands a byte to everything that listens, the addresses before the places that they
select, and ends the cycle. -/
structure Delivers (m : Machine δ) (w : ControlWord) (v : UInt8) (t : Transition δ) : Prop where
  fault : t.fault = none
  atRest : t.machine.AtRest
  register : ∀ r, r ≠ .fr →
    t.machine.register r = if .register r ∈ w.listeners then v else m.register r
  flags : t.machine.register .fr =
    if w.has .eo then ((AluMode.select w).compute (m.register .a) (m.register .x)).2.toByte
    else m.register .fr
  memory : t.machine.memory =
    if w.has .mi then m.memory.write (t.machine.register .ma) v else m.memory
  device : t.machine.device =
    let told :=
      if w.has .odi then OutputDevice.data m.device (t.machine.register .oa) v else m.device
    if w.has .oci then OutputDevice.command told v else told
  stackTop : t.machine.stackTop = if w.has .si then v else m.stackTop
  counter : t.machine.counter = if w.has .msr then .first else m.counter.next
  lastBus : t.machine.lastBus = v
  halted : t.machine.halted = m.halted
  program : t.machine.program = m.program
  config : t.machine.config = m.config

variable {m : Machine δ} {w : ControlWord}

theorem bus_issue (m : Machine δ) (w : ControlWord) :
    (m.issue w).machine.bus = m.bus ∧ (m.issue w).machine.lastBus = m.lastBus := by
  have hApply : ∀ m', m.apply w = .ok m' → m'.bus = m.bus ∧ m'.lastBus = m.lastBus := by
    intro m' h
    simp only [apply] at h
    split at h
    · cases h
    · split at h
      · cases h
      · cases h
        exact ⟨rfl, rfl⟩
  unfold issue
  split
  · exact ⟨rfl, rfl⟩
  · split
    · exact ⟨rfl, rfl⟩
    · split
      · next m' h => exact hApply m' h
      · exact ⟨rfl, rfl⟩

theorem refuses_issue_of_atRest {e : Fault} (hm : m.AtRest) (hRun : m.halted = false)
    (hHlt : w.has .hlt = false) (hApply : m.apply w = .error e) : m.Refuses e (m.issue w) := by
  have hIssue : m.issue w = ⟨{ m with transfer := .none, word := none }, some e,
      [.cycleStart m.counter w, .failure e]⟩ := by
    simp [issue, hRun, hHlt, hApply, hm.transfer, Transfer.abort, Transfer.nodes, Transfer.none]
  rw [hIssue]
  exact ⟨rfl, ⟨rfl, rfl, hm.bus, hm.mark, hm.pending⟩, rfl, ⟨rfl, rfl, rfl, rfl, rfl⟩⟩

theorem apply_of_io (hIo : w.has .io = true) (hFault : m.core.stackFault? m.config w = none) :
    m.apply w = .error (.readForbidden "IP") := by
  obtain ⟨ns, hDrivers⟩ := ControlWord.drivers_of_io hIo
  simp only [apply, stackFault?_eq, hFault, hDrivers]
  rfl

theorem apply_of_refusal? {e : Fault} (h : m.refusal? w = some e) : m.apply w = .error e := by
  unfold refusal? at h
  split at h
  · next hStack =>
      refine apply_eq_error (Core.stackFault?_eq_some_iff.mpr ⟨hStack.1, hStack.2, ?_⟩)
      exact (Option.some.inj h).symm
  · next hStack =>
      split at h
      · next hIo =>
          obtain rfl := Option.some.inj h
          exact apply_of_io hIo (Core.stackFault?_eq_none_iff.mpr hStack)
      · cases h

theorem decodes_issue_of_refusal? (hm : m.AtRest) (hRun : m.halted = false)
    (hHlt : w.has .hlt = false) (h : m.refusal? w = none) : m.Decodes w (m.issue w) := by
  obtain ⟨hStack, hIo⟩ := refusal?_eq_none_iff.mp h
  exact decodes_issue (.inl hm) (ControlWord.canDrive_of_mem_drivers hIo) hRun hHlt hStack

theorem Decodes.prepares {t : Transition δ} (h : m.Decodes w t) : m.Prepares w t := by
  have hRegister : ∀ r, t.machine.register r = (m.contents.immediate w).register r :=
    fun r => congrArg (Contents.register · r) h.contents
  refine ⟨h.fault, h.holds.word, h.holds.mark, hRegister .pc, hRegister .x, ?_, ?_, ?_,
    congrArg Contents.memory h.contents, congrArg Contents.device h.contents, h.control⟩
  · exact (hRegister .sp).trans (Contents.sp_immediate m.contents w)
  · rw [hRegister, hRegister]
    rfl
  · intro r hr
    rw [hRegister]
    cases r with
    | pc | x | sp | alu => simp at hr
    | _ => rfl

theorem fault_executeStep (hRun : m.halted = false) (hWord : m.word = some w) :
    m.executeStep.fault = (Transfer.resolveAll m.datapath m.bus m.transfer.nodes).fault := by
  simp only [executeStep, hRun, hWord, Transfer.execute, Bool.false_eq_true, if_false]
  split <;> simp_all

theorem fault_executeStep_of_collision? {e : Fault} (hm : m.Holds w) (hRun : m.halted = false)
    (hApart : ∀ n ∈ w.drivers, n ∉ w.listeners) (h : m.contents.collision? w = some e) :
    m.executeStep.fault = some e := by
  obtain ⟨ds, hNoted, hDs⟩ := hm.notes.drivers
  obtain ⟨ls, hHeard, -⟩ := hm.notes.listeners
  rw [fault_executeStep hRun hm.word, Transfer.nodes, hNoted, hHeard]
  have hDrive : ∀ n ∈ w.drivers, m.datapath.mark n = .transmit := by
    intro n hn
    rw [hm.mark, ControlWord.markOf, if_neg (hApart n hn), if_pos hn]
  unfold Contents.collision? at h
  cases hDrivers : w.drivers with
  | nil =>
      cases hListeners : w.listeners with
      | nil => simp [hDrivers, hListeners] at h
      | cons n ns =>
          obtain rfl : Fault.busUnwritten = e := by simpa [hDrivers, hListeners] using h
          have hds : ds = [] := by simpa [hDrivers, List.eq_nil_iff_forall_not_mem] using hDs
          have hMark : m.datapath.mark n = .receive := by
            rw [hm.mark, ControlWord.markOf, if_pos (by simp [hListeners])]
          rw [hds]
          exact Transfer.fault_resolveAll_cons (Datapath.fault_resolve_of_free hMark hm.bus) _
  | cons n ns =>
      cases ns with
      | nil => simp [hDrivers] at h
      | cons k ks =>
          obtain rfl : Fault.busConflict (m.contents.drive n) (m.contents.drive k) = e := by
            simpa [hDrivers] using h
          have hFirst := Transfer.Carries.transmit (hDrive n (by simp [hDrivers])) hm.bus
          have hAppend := Transfer.resolveAll_append (k :: (ks ++ ds ++ (w.listeners ++ ls)))
            hFirst.fault
          have hOther : k ≠ n := by
            have hNodup := w.nodup_drivers
            rw [hDrivers] at hNodup
            rintro rfl
            simp at hNodup
          have hSecond : (Transfer.resolveAll m.datapath m.bus [n]).part.mark k = .transmit := by
            rw [hFirst.mark, if_neg (by simpa using hOther), hDrive k (by simp [hDrivers])]
          have hFault := Datapath.fault_resolve_of_held hSecond
            (congrArg Bus.held hFirst.bus)
          rw [hFirst.contents] at hFault
          have hNodes : n :: k :: ks ++ ds ++ (w.listeners ++ ls) =
              [n] ++ k :: (ks ++ ds ++ (w.listeners ++ ls)) := by simp
          rw [hNodes, hAppend]
          exact Transfer.fault_resolveAll_cons hFault _

theorem delivers_executeStep (hm : m.Holds w) (hw : w.Transferable) (hRun : m.halted = false) :
    m.Delivers w (m.contents.busValue w) m.executeStep := by
  have h := executes_executeStep hm hw hRun
  have hRegister : ∀ r, r ≠ .fr → m.executeStep.machine.register r =
      if .register r ∈ w.listeners then m.contents.busValue w else m.register r := by
    intro r hr
    have hCarry := m.contents.register_carry w hr
    rwa [← h.contents] at hCarry
  have hLatched : ∀ r, r ≠ .fr → (m.contents.latchAll (m.contents.busValue w) w.listeners).register
      r = m.executeStep.machine.register r := by
    intro r hr
    rw [hRegister r hr, Contents.register_latchAll]
    rfl
  have hMi : .memory ∈ w.listeners ↔ w.has .mi = true := by
    simp [ControlWord.mem_listeners_iff, latchLines]
  have hOdi : .outputData ∈ w.listeners ↔ w.has .odi = true := by
    simp [ControlWord.mem_listeners_iff, latchLines]
  have hSi : .register .sp ∈ w.listeners ↔ w.has .si = true := by
    simp [ControlWord.mem_listeners_iff, latchLines]
  refine ⟨h.fault, h.atRest, hRegister, ?_, ?_, ?_, ?_, h.counter, ?_, h.halted, h.program,
    h.config⟩
  · exact (congrArg (Contents.register · .fr) h.contents).trans
      (Contents.register_fr_carry m.contents w)
  · have hMemory := congrArg Contents.memory h.contents
    rw [Contents.memory_carry, Contents.memory_latchAll_of_ordered w.nodup_listeners
      (w.addressesFirst.imp And.left), hLatched .ma (by decide)] at hMemory
    simp only [hMi] at hMemory
    exact hMemory
  · have hDevice := congrArg Contents.device h.contents
    rw [Contents.device_carry, Contents.device_latchAll_of_ordered w.nodup_listeners
      (w.addressesFirst.imp And.right), hLatched .oa (by decide)] at hDevice
    simp only [hOdi] at hDevice
    exact hDevice
  · have hSp : m.executeStep.machine.contents.register .sp = if w.has .si = true then
        m.contents.busValue w else m.register .sp := by
      rw [← if_congr hSi rfl rfl]
      exact hRegister .sp (by decide)
    rw [h.stackTop]
    split
    · next hHas => rw [hSp, if_pos hHas]
    · rfl
  · rw [(executeStep_eq hm hw hRun).2]
    rfl

/-- One cycle of any word that does not halt and has no node on both sides of the bus. Decoding
fails for the stack or for the instruction register and then changes nothing; otherwise its direct
effects have happened. Executing then fails if two nodes drive the bus or nothing drives what is
listened to; otherwise the value of the driver, or zero, goes wherever the word says. -/
theorem delivers_of_apart (hm : m.AtRest) (hRun : m.halted = false) (hHlt : w.has .hlt = false)
    (hApart : ∀ n ∈ w.drivers, n ∉ w.listeners) :
    ((m.issue w).machine.bus = m.bus ∧ (m.issue w).machine.lastBus = m.lastBus) ∧
      match m.refusal? w with
      | some e => m.Refuses e (m.issue w)
      | none =>
          m.Prepares w (m.issue w) ∧
            match (m.issue w).machine.contents.collision? w with
            | some e => (m.issue w).machine.executeStep.fault = some e
            | none => (m.issue w).machine.Delivers w ((m.issue w).machine.contents.busValue w)
                (m.issue w).machine.executeStep := by
  refine ⟨bus_issue m w, ?_⟩
  cases hRefusal : m.refusal? w with
  | some e => exact refuses_issue_of_atRest hm hRun hHlt (apply_of_refusal? hRefusal)
  | none =>
      have hDecodes := decodes_issue_of_refusal? hm hRun hHlt hRefusal
      have hStill : (m.issue w).machine.halted = false := hDecodes.control.halted.trans hRun
      refine ⟨hDecodes.prepares, ?_⟩
      cases hCollision : (m.issue w).machine.contents.collision? w with
      | some e => exact fault_executeStep_of_collision? hDecodes.holds hStill hApart hCollision
      | none =>
          exact delivers_executeStep hDecodes.holds
            (Contents.transferable_of_collision?_eq_none hApart hCollision) hStill

def selfAddressed : ControlWord := .ofList [.so, .sm1, .mai, .mi, .oai, .odi]

theorem delivers_selfAddressed :
    ((powerOn {} Panel.blank).issue selfAddressed).machine.Delivers selfAddressed 0xfe
        ((powerOn {} Panel.blank).issue selfAddressed).machine.executeStep ∧
      ((powerOn {} Panel.blank).issue selfAddressed).machine.executeStep.machine.memory.read 0xfe =
        0xfe := by
  have hCycle := (delivers_of_apart (atRest_powerOn {} Panel.blank) rfl (w := selfAddressed) rfl
    (by decide)).2
  have hDelivers : ((powerOn {} Panel.blank).issue selfAddressed).machine.Delivers selfAddressed
      0xfe ((powerOn {} Panel.blank).issue selfAddressed).machine.executeStep := hCycle.2
  refine ⟨hDelivers, ?_⟩
  rw [hDelivers.memory, hDelivers.register .ma (by decide)]
  exact (Memory.read_write _ _ _ _).trans (if_pos rfl)

end Machine

end Microbus
