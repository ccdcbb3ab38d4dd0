import Microbus.Proofs.Datapath.Transfer

/-! # Words that keep the bus in order

A word is orderly if it names one driver at most, names one whenever anything listens, and asks no
node to do both. Every word of the fetch and of every micro-program is orderly, whatever the opcode
byte and the flags, and only the last word of a micro-program starts the next instruction or halts.
-/

namespace Microbus
set_option autoImplicit false

namespace ControlWord

def markOf (w : ControlWord) (n : Node) : Mark :=
  if n ∈ w.listeners then .receive else if n ∈ w.drivers then .transmit else .idle

/-- A word after which the bus is driven once at most and never read undriven, and which touches
the stack pointer only when it queues no flags. -/
structure Orderly (w : ControlWord) : Prop where
  canDrive : ∀ n ∈ w.drivers, n.canDrive = true
  driverAlone : w.drivers.length ≤ 1
  driven : w.listeners ≠ [] → w.drivers ≠ []
  apart : ∀ n ∈ w.drivers, n ∉ w.listeners
  flagsAlone : w.has .eo = true → w.has .sp1 = false ∧ w.has .sm1 = false

structure Transferable (w : ControlWord) : Prop where
  driverAlone : w.drivers.length ≤ 1
  driven : w.listeners ≠ [] → w.drivers ≠ []
  apart : ∀ n ∈ w.drivers, n ∉ w.listeners

theorem Orderly.transferable {w : ControlWord} (h : w.Orderly) : w.Transferable :=
  ⟨h.driverAlone, h.driven, h.apart⟩

instance (w : ControlWord) : Decidable w.Orderly :=
  decidable_of_iff ((∀ n ∈ w.drivers, n.canDrive = true) ∧ w.drivers.length ≤ 1 ∧
      (w.listeners ≠ [] → w.drivers ≠ []) ∧ (∀ n ∈ w.drivers, n ∉ w.listeners) ∧
      (w.has .eo = true → w.has .sp1 = false ∧ w.has .sm1 = false))
    ⟨fun ⟨h₁, h₂, h₃, h₄, h₅⟩ => ⟨h₁, h₂, h₃, h₄, h₅⟩,
      fun ⟨h₁, h₂, h₃, h₄, h₅⟩ => ⟨h₁, h₂, h₃, h₄, h₅⟩⟩

theorem mem_listeners_iff {w : ControlWord} {n : Node} :
    n ∈ w.listeners ↔ ∃ l, (l, n) ∈ latchLines ∧ w.has l = true := by
  simp [listeners]

theorem nodup_drivers (w : ControlWord) : w.drivers.Nodup := by
  have hAll : (driveLines.map Prod.snd).Nodup := by decide
  exact hAll.sublist (List.filter_sublist.map Prod.snd)

theorem nodup_listeners (w : ControlWord) : w.listeners.Nodup := by
  have hAll : (latchLines.map Prod.snd).Nodup := by decide
  exact hAll.sublist (List.filter_sublist.map Prod.snd)

@[simp] theorem drivers_union_msr (w : ControlWord) :
    (w ∪ ofList [.msr]).drivers = w.drivers := by
  have hLines : ∀ p ∈ driveLines, p.1 ≠ .msr := by decide
  have hFilter : driveLines.filter (fun p => (w ∪ ofList [.msr]).has p.1) =
      driveLines.filter fun p => w.has p.1 := by
    apply List.filter_congr
    intro p hp
    simp [hLines p hp]
  rw [drivers, hFilter, drivers]

@[simp] theorem listeners_union_msr (w : ControlWord) :
    (w ∪ ofList [.msr]).listeners = w.listeners := by
  have hLines : ∀ p ∈ latchLines, p.1 ≠ .msr := by decide
  have hFilter : latchLines.filter (fun p => (w ∪ ofList [.msr]).has p.1) =
      latchLines.filter fun p => w.has p.1 := by
    apply List.filter_congr
    intro p hp
    simp [hLines p hp]
  rw [listeners, hFilter, listeners]

theorem Orderly.union_msr {w : ControlWord} (h : w.Orderly) : (w ∪ ofList [.msr]).Orderly where
  canDrive := by simpa using h.canDrive
  driverAlone := by simpa using h.driverAlone
  driven := by simpa using h.driven
  apart := by simpa using h.apart
  flagsAlone := by simpa using h.flagsAlone

end ControlWord

namespace Opcode

theorem not_isSelfMove_of_ofByte? {b : UInt8} {op : Opcode} (h : ofByte? b = some op) :
    ¬ op.IsSelfMove := by
  have hAll : ∀ high < 16, ∀ low < 16,
      ofHalves? high low ≠ some (move .a .a) ∧ ofHalves? high low ≠ some (move .b .b) := by decide
  have hByte := b.toNat_lt
  obtain ⟨hA, hB⟩ := hAll (b.toNat / 16) (by omega) (b.toNat % 16) (by omega)
  rintro (rfl | rfl)
  · exact hA h
  · exact hB h

theorem orderly_of_mem_words {op : Opcode} (h : ¬ op.IsSelfMove) {ls : List Line}
    (hls : ls ∈ op.words) : (ControlWord.ofList ls).Orderly := by
  revert ls
  cases op with
  | halt | swap | display | call | ret | stackReset => decide
  | loadMemory r | loadImmediate r | store r | push r | pop r => cases r <;> decide
  | move s t => cases s <;> cases t <;> first | decide | simp [IsSelfMove] at h
  | alu o s => cases o <;> cases s <;> decide
  | unary o => cases o <;> decide
  | output k | outputIndirect k => cases k <;> decide
  | jump c => cases c <;> decide

end Opcode

theorem opcodeWords_eq (b : UInt8) (f : Flags) : opcodeWords b f = [] ∨
    ∃ op, Opcode.ofByte? b = some op ∧ opcodeWords b f = op.words.map .ofList := by
  unfold opcodeWords
  split
  · next op hOp =>
      split
      · exact .inr ⟨op, hOp, rfl⟩
      · exact .inl rfl
  · exact .inl rfl

theorem mem_closeProgram {ws : List ControlWord} {w : ControlWord} (h : w ∈ closeProgram ws) :
    w = .ofList [.msr] ∨ ∃ v ∈ ws, w = v ∨ w = v ∪ .ofList [.msr] := by
  fun_induction closeProgram ws with
  | case1 => exact .inl (List.mem_singleton.mp h)
  | case2 v => exact .inr ⟨v, List.mem_singleton_self v, .inr (List.mem_singleton.mp h)⟩
  | case3 v vs _ ih =>
      rcases List.mem_cons.mp h with rfl | h
      · exact .inr ⟨w, List.mem_cons_self, .inl rfl⟩
      · rcases ih h with hMsr | ⟨u, hu, hw⟩
        · exact .inl hMsr
        · exact .inr ⟨u, List.mem_cons_of_mem v hu, hw⟩

theorem orderly_msr : (ControlWord.ofList [.msr]).Orderly := by decide

theorem orderly_of_mem_fetchCycle : ∀ w ∈ fetchCycle, w.Orderly := by decide

theorem forall_mem_microProgram {P : ControlWord → Prop} {b : UInt8} (f : Flags)
    (hMsr : P (.ofList [.msr])) (hUnion : ∀ w, P w → P (w ∪ .ofList [.msr]))
    (hWords : ∀ op, Opcode.ofByte? b = some op → ∀ ls ∈ op.words, P (.ofList ls)) :
    ∀ w ∈ microProgram b f, P w := by
  intro w h
  have hAll : ∀ v ∈ opcodeWords b f, P v := by
    intro v hv
    rcases opcodeWords_eq b f with hNone | ⟨op, hOp, hEq⟩
    · simp [hNone] at hv
    · rw [hEq] at hv
      obtain ⟨ls, hls, rfl⟩ := List.mem_map.mp hv
      exact hWords op hOp ls hls
  rcases mem_closeProgram h with rfl | ⟨v, hv, rfl | rfl⟩
  · exact hMsr
  · exact hAll _ hv
  · exact hUnion v (hAll v hv)

/-- Whatever an opcode byte is and whatever the flags are, no word of its micro-program brings the
bus out of order. -/
theorem orderly_of_mem_microProgram {b : UInt8} {f : Flags} :
    ∀ w ∈ microProgram b f, w.Orderly := by
  refine forall_mem_microProgram f orderly_msr (fun _ hw => hw.union_msr) ?_
  intro op hOp ls hls
  exact Opcode.orderly_of_mem_words (Opcode.not_isSelfMove_of_ofByte? hOp) hls

/-- The words of an instruction: the last one starts the next instruction and nothing halts before
it. -/
inductive Closed : List ControlWord → Prop
  | last {w : ControlWord} : w.has .msr = true → Closed [w]
  | cons {w : ControlWord} {ws : List ControlWord} : w.has .msr = false → w.has .hlt = false →
      Closed ws → Closed (w :: ws)

theorem closed_closeProgram {ws : List ControlWord} (hMsr : ∀ w ∈ ws, w.has .msr = false)
    (hHlt : ∀ w ∈ ws.dropLast, w.has .hlt = false) : Closed (closeProgram ws) := by
  fun_induction closeProgram ws with
  | case1 => exact .last (by simp)
  | case2 w => exact .last (by simp)
  | case3 w ws hws ih =>
      obtain ⟨v, vs, rfl⟩ := List.exists_cons_of_ne_nil hws
      rw [List.dropLast_cons_cons] at hHlt
      refine .cons (hMsr w List.mem_cons_self) (hHlt w List.mem_cons_self) (ih ?_ ?_)
      · exact fun u hu => hMsr u (List.mem_cons_of_mem w hu)
      · exact fun u hu => hHlt u (List.mem_cons_of_mem w hu)

theorem Opcode.lines_of_mem_words (op : Opcode) :
    (∀ ls ∈ op.words, .msr ∉ ls ∧ .ii ∉ ls) ∧ (∀ ls ∈ op.words.dropLast, .hlt ∉ ls) ∧
      op.words.length ≤ 3 := by
  cases op with
  | halt | swap | display | call | ret | stackReset => decide
  | loadMemory r | loadImmediate r | store r | push r | pop r => cases r <;> decide
  | move s t => cases s <;> cases t <;> decide
  | alu o s => cases o <;> cases s <;> decide
  | unary o => cases o <;> decide
  | output k | outputIndirect k => cases k <;> decide
  | jump c => cases c <;> decide

theorem has_ii_of_mem_microProgram {b : UInt8} {f : Flags} :
    ∀ w ∈ microProgram b f, w.has .ii = false := by
  refine forall_mem_microProgram f (by decide) (fun w hw => by simpa using hw) ?_
  intro op _ ls hls
  simpa using (op.lines_of_mem_words.1 ls hls).2

theorem closed_microProgram (b : UInt8) (f : Flags) : Closed (microProgram b f) := by
  rcases opcodeWords_eq b f with hNone | ⟨op, -, hEq⟩
  · rw [microProgram, hNone]
    exact .last (by simp)
  · obtain ⟨hMsr, hHlt, -⟩ := op.lines_of_mem_words
    rw [microProgram, hEq]
    refine closed_closeProgram ?_ ?_
    · intro w hw
      obtain ⟨ls, hls, rfl⟩ := List.mem_map.mp hw
      simpa using (hMsr ls hls).1
    · intro w hw
      rw [← List.map_dropLast] at hw
      obtain ⟨ls, hls, rfl⟩ := List.mem_map.mp hw
      simpa using hHlt ls hls

theorem length_microProgram_le (b : UInt8) (f : Flags) : (microProgram b f).length ≤ 3 := by
  rw [microProgram, length_closeProgram]
  rcases opcodeWords_eq b f with hNone | ⟨op, -, hEq⟩
  · simp [hNone]
  · have hThree := op.lines_of_mem_words.2.2
    simp only [hEq, List.length_map]
    omega

end Microbus
