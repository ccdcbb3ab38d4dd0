import Microbus.Output.Panel
import Microbus.Proofs.Instruction.Correctness

/-! # The stack is last-in first-out

The list of bytes that a run has put on the stack and not taken back is kept beside the run. With
enforced bounds, and as long as nothing else touches the stack, the memory below its top holds that
list from an empty stack on, however instructions follow each other, and what a pop or a return
delivers is its last byte.
-/

namespace Microbus
set_option autoImplicit false

namespace Visible

variable {δ : Type}

/-- The bytes on the stack after the instruction at the program counter, given those before it. -/
def stackAfter (s : Visible δ) (bytes : List UInt8) : List UInt8 :=
  match s.opcode? with
  | some (.push r) => bytes ++ [s.data r]
  | some .call => bytes ++ [s.pc + 2]
  | some (.pop _) | some .ret => bytes.dropLast
  | _ => bytes

/-- The instruction at the program counter does not replace the stack and does not store into its
region. -/
def SparesStack (s : Visible δ) (size : UInt8) : Prop :=
  match s.opcode? with
  | some .stackReset => False
  | some (.store _) => ∀ i < size, s.operand ≠ s.stackTop - i
  | _ => True

structure HoldsStack (s : Visible δ) (bytes : List UInt8) : Prop where
  length : s.depth.toNat = bytes.length
  cell : ∀ i : UInt8, i.toNat < bytes.length →
    bytes[i.toNat]? = some (s.memory.read (s.stackTop - i))

variable {s t : Visible δ} {bytes : List UInt8} {v : UInt8}

theorem toNat_depth_pos (hSome : s.sp ≠ s.stackTop) : 0 < s.depth.toNat := by
  have hZero : s.depth ≠ 0 := by
    rw [depth]
    grind
  exact Nat.pos_of_ne_zero fun hEq => hZero (UInt8.toNat_inj.mp hEq)

theorem toNat_depth_sub_one (hSome : s.sp ≠ s.stackTop) :
    (s.depth - 1).toNat = s.depth.toNat - 1 := by
  have hPos := toNat_depth_pos hSome
  have hByte := s.depth.toNat_lt
  rw [UInt8.toNat_sub]
  simp
  omega

theorem HoldsStack.of_same (h : s.HoldsStack bytes) (hSp : t.sp = s.sp)
    (hTop : t.stackTop = s.stackTop)
    (hCell : ∀ i < s.depth, t.memory.read (s.stackTop - i) = s.memory.read (s.stackTop - i)) :
    t.HoldsStack bytes := by
  have hDepth : t.depth = s.depth := by rw [depth, hTop, hSp, depth]
  refine ⟨hDepth ▸ h.length, fun i hi => ?_⟩
  have hLt : i < s.depth := UInt8.lt_iff_toNat_lt.mpr (h.length ▸ hi)
  rw [hTop, hCell i hLt]
  exact h.cell i hi

theorem HoldsStack.push (h : s.HoldsStack bytes) (hRoom : s.depth < 255)
    (hSp : t.sp = s.sp - 1) (hTop : t.stackTop = s.stackTop)
    (hMemory : t.memory = s.memory.write s.sp v) : t.HoldsStack (bytes ++ [v]) := by
  have hDepth : t.depth.toNat = s.depth.toNat + 1 := by
    have hStep : t.depth = s.depth + 1 := by
      rw [depth, depth, hTop, hSp]
      grind
    have hNat := UInt8.lt_iff_toNat_lt.mp hRoom
    rw [hStep, UInt8.toNat_add]
    simp at hNat ⊢
    omega
  refine ⟨by simp [hDepth, h.length], fun i hi => ?_⟩
  rw [hTop, hMemory, Memory.read_write]
  rcases Nat.lt_or_ge i.toNat bytes.length with hOld | hNew
  · have hApart : s.sp ≠ s.stackTop - i := by
      intro hEq
      have hi : i = s.depth := by
        rw [depth]
        grind
      rw [hi, h.length] at hOld
      exact Nat.lt_irrefl _ hOld
    rw [if_neg hApart, List.getElem?_append_left hOld]
    exact h.cell i hOld
  · have hLast : i.toNat = bytes.length := by
      simp at hi
      omega
    have hi : i = s.depth := UInt8.toNat_inj.mp (hLast.trans h.length.symm)
    have hHere : s.sp = s.stackTop - i := by
      rw [hi, depth]
      grind
    rw [if_pos hHere, hLast, List.getElem?_concat_length]

theorem HoldsStack.pop (h : s.HoldsStack bytes) (hSome : s.sp ≠ s.stackTop)
    (hSp : t.sp = s.sp + 1) (hTop : t.stackTop = s.stackTop) (hMemory : t.memory = s.memory) :
    t.HoldsStack bytes.dropLast := by
  have hDepth : t.depth.toNat = s.depth.toNat - 1 := by
    have hStep : t.depth = s.depth - 1 := by
      rw [depth, depth, hTop, hSp]
      grind
    rw [hStep, toNat_depth_sub_one hSome]
  refine ⟨by rw [hDepth, h.length, List.length_dropLast], fun i hi => ?_⟩
  rw [List.length_dropLast] at hi
  rw [hTop, hMemory, List.getElem?_dropLast, if_pos hi]
  exact h.cell i (by omega)

theorem HoldsStack.getLast?_eq (h : s.HoldsStack bytes) (hSome : s.sp ≠ s.stackTop) :
    bytes.getLast? = some (s.memory.read (s.sp + 1)) := by
  have hAddress : s.stackTop - (s.depth - 1) = s.sp + 1 := by
    rw [depth]
    grind
  have hLast := toNat_depth_sub_one hSome
  have hPos := toNat_depth_pos hSome
  have hCell := h.cell (s.depth - 1) (by rw [hLast, ← h.length]; omega)
  rwa [hAddress, hLast, h.length, ← List.getLast?_eq_getElem?] at hCell

variable {config : MachineConfig}

theorem not_forbids {op : Opcode} (h : ¬ s.Overflows config) (hOp : s.opcode? = some op) :
    ¬ s.Forbids config op := fun hForbids => h ⟨op, hOp, hForbids⟩

theorem depth_lt_of_not_full (hBounds : config.enforceBounds = true) (h : ¬ s.Full config) :
    s.depth < config.stackSize := UInt8.not_le.mp fun hFull => h ⟨hBounds, hFull⟩

theorem ne_of_not_empty (hBounds : config.enforceBounds = true) (h : ¬ s.Empty config) :
    s.sp ≠ s.stackTop := fun hEmpty => h ⟨hBounds, hEmpty⟩

theorem HoldsStack.length_stackAfter_le (h : s.HoldsStack bytes)
    (hBounds : config.enforceBounds = true) (hAllowed : ¬ s.Overflows config)
    (hFits : bytes.length ≤ config.stackSize.toNat) :
    (s.stackAfter bytes).length ≤ config.stackSize.toNat := by
  have hGrows : ¬ s.Full config → bytes.length + 1 ≤ config.stackSize.toNat := by
    intro hFull
    rw [← h.length]
    exact UInt8.lt_iff_toNat_lt.mp (depth_lt_of_not_full hBounds hFull)
  rw [stackAfter]
  split
  · next r hOp => simpa using hGrows (not_forbids hAllowed hOp)
  · next hOp => simpa using hGrows (not_forbids hAllowed hOp)
  · rw [List.length_dropLast]
    omega
  · rw [List.length_dropLast]
    omega
  · exact hFits

variable [OutputDevice δ]

theorem HoldsStack.perform (h : s.HoldsStack bytes) (hBounds : config.enforceBounds = true)
    (hAllowed : ¬ s.Overflows config) (hFits : bytes.length ≤ config.stackSize.toNat)
    (hSpares : s.SparesStack config.stackSize) : s.perform.HoldsStack (s.stackAfter bytes) := by
  have hRoom : ¬ s.Full config → s.depth < 255 := by
    intro hFull
    have hLt := UInt8.lt_iff_toNat_lt.mp (depth_lt_of_not_full hBounds hFull)
    have hSize := config.stackSize.toNat_lt
    rw [UInt8.lt_iff_toNat_lt]
    exact Nat.lt_of_lt_of_le hLt (Nat.le_of_lt_succ hSize)
  rw [Visible.perform, stackAfter]
  rw [SparesStack] at hSpares
  cases hOp : s.opcode? with
  | none => exact h.of_same rfl rfl fun _ _ => rfl
  | some op =>
      have hForbids := not_forbids hAllowed hOp
      rw [hOp] at hSpares
      cases op with
      | push r => cases r <;> exact h.push (hRoom hForbids) rfl rfl rfl
      | call => exact h.push (hRoom hForbids) rfl rfl rfl
      | pop r => cases r <;> exact h.pop (ne_of_not_empty hBounds hForbids) rfl rfl rfl
      | ret => exact h.pop (ne_of_not_empty hBounds hForbids) rfl rfl rfl
      | stackReset => exact hSpares.elim
      | store r =>
          refine h.of_same rfl rfl fun i hi => ?_
          have hInside : i < config.stackSize := by
            rw [UInt8.lt_iff_toNat_lt, h.length] at hi
            exact UInt8.lt_iff_toNat_lt.mpr (Nat.lt_of_lt_of_le hi hFits)
          exact (Memory.read_write s.memory s.operand _ _).trans (if_neg (hSpares i hInside))
      | halt | swap | display | alu o source | outputIndirect k =>
          exact h.of_same rfl rfl fun _ _ => rfl
      | loadMemory r | loadImmediate r => cases r <;> exact h.of_same rfl rfl fun _ _ => rfl
      | move source target => cases target <;> exact h.of_same rfl rfl fun _ _ => rfl
      | unary o => cases o <;> exact h.of_same rfl rfl fun _ _ => rfl
      | output k => cases k <;> exact h.of_same rfl rfl fun _ _ => rfl
      | jump condition =>
          simp only [effect]
          split <;> exact h.of_same rfl rfl fun _ _ => rfl

theorem HoldsStack.delivers (h : s.HoldsStack bytes) (hBounds : config.enforceBounds = true)
    (hAllowed : ¬ s.Overflows config) :
    (∀ r, s.opcode? = some (.pop r) → bytes.getLast? = some (s.perform.data r)) ∧
      (s.opcode? = some .ret → bytes.getLast? = some s.perform.pc) := by
  constructor
  · intro r hOp
    have hSome := ne_of_not_empty hBounds (not_forbids hAllowed hOp)
    have hLast := h.getLast?_eq hSome
    rw [Visible.perform, hOp]
    cases r <;> exact hLast
  · intro hOp
    have hSome := ne_of_not_empty hBounds (not_forbids hAllowed hOp)
    have hLast := h.getLast?_eq hSome
    rw [Visible.perform, hOp]
    exact hLast

end Visible

namespace Machine

variable {δ : Type} [OutputDevice δ]

/-- Runs of instructions that succeed and spare the stack, with the bytes that they have put on the
stack and not taken back. A halted machine carries out no instruction. -/
inductive StackRun (m₀ : Machine δ) : Machine δ → List UInt8 → Prop
  | start : StackRun m₀ m₀ []
  | step {m : Machine δ} {bytes : List UInt8} {cycles : Nat} : StackRun m₀ m bytes →
      m.stepInstruction.result = .ok cycles →
      (m.halted = false → m.visible.SparesStack m.config.stackSize) →
      StackRun m₀ m.stepInstruction.machine
        (if m.halted then bytes else m.visible.stackAfter bytes)

structure KeepsStack (config : MachineConfig) (m : Machine δ) (bytes : List UInt8) : Prop where
  boundary : m.halted = false → m.AtBoundary
  holds : m.visible.HoldsStack bytes
  fits : bytes.length ≤ config.stackSize.toNat
  config : m.config = config

variable {m₀ m : Machine δ} {bytes : List UInt8}

theorem KeepsStack.stepInstruction {config : MachineConfig} {cycles : Nat}
    (h : m.KeepsStack config bytes) (hBounds : config.enforceBounds = true)
    (hOk : m.stepInstruction.result = .ok cycles)
    (hSpares : m.halted = false → m.visible.SparesStack m.config.stackSize) :
    m.stepInstruction.machine.KeepsStack config
      (if m.halted then bytes else m.visible.stackAfter bytes) := by
  cases hRun : m.halted with
  | true =>
      rw [stepInstruction_of_halted hRun]
      exact h
  | false =>
      have hm := h.boundary hRun
      have hAllowed := hm.not_overflows hRun hOk
      obtain ⟨-, hVisible, hConfig, hNext⟩ := stepInstruction_of_not_overflows hm hRun hAllowed
      rw [h.config] at hAllowed hConfig
      have hSpares := hSpares hRun
      rw [h.config] at hSpares
      refine ⟨hNext, ?_, h.holds.length_stackAfter_le hBounds hAllowed h.fits, hConfig⟩
      rw [hVisible]
      exact h.holds.perform hBounds hAllowed h.fits hSpares

theorem keepsStack_of_stackRun (hStart : m₀.AtBoundary)
    (hBounds : m₀.config.enforceBounds = true) (hEmpty : m₀.register .sp = m₀.stackTop)
    (h : StackRun m₀ m bytes) : m.KeepsStack m₀.config bytes := by
  induction h with
  | start =>
      have hDepth : m₀.visible.depth = 0 := by
        change m₀.stackTop - m₀.register .sp = 0
        rw [hEmpty, UInt8.sub_self]
      refine ⟨fun _ => hStart, ⟨by rw [hDepth]; rfl, ?_⟩, Nat.zero_le _, rfl⟩
      intro i hi
      exact absurd hi (Nat.not_lt_zero _)
  | step _ hOk hSpares ih => exact ih.stepInstruction hBounds hOk hSpares

/-- The stack is last-in first-out. From an empty stack on, after any run of instructions that
succeed and spare the stack, the depth is the number of bytes put there and not taken back, the
memory below the top of the stack holds them in order, and a pop or a return that comes next
delivers the last one. -/
theorem holdsStack_of_stackRun (hStart : m₀.AtBoundary)
    (hBounds : m₀.config.enforceBounds = true) (hEmpty : m₀.register .sp = m₀.stackTop)
    (h : StackRun m₀ m bytes) :
    m.visible.HoldsStack bytes ∧
      ∀ cycles, m.halted = false → m.stepInstruction.result = .ok cycles →
        (∀ r, m.visible.opcode? = some (.pop r) →
          bytes.getLast? = some (m.stepInstruction.machine.visible.data r)) ∧
        (m.visible.opcode? = some .ret →
          bytes.getLast? = some m.stepInstruction.machine.visible.pc) := by
  have hKeeps := keepsStack_of_stackRun hStart hBounds hEmpty h
  refine ⟨hKeeps.holds, ?_⟩
  intro cycles hRun hOk
  have hm := hKeeps.boundary hRun
  have hAllowed := hm.not_overflows hRun hOk
  rw [(stepInstruction_of_not_overflows hm hRun hAllowed).2.1]
  rw [hKeeps.config] at hAllowed
  exact hKeeps.holds.delivers hBounds hAllowed

def beforePopToB : Machine Panel :=
  (loaded {} Panel.blank [0x12, 7, 0xb0, 0, 0xb3, 0]).stepInstruction.machine.stepInstruction.machine

theorem holdsStack_beforePopToB : beforePopToB.visible.HoldsStack [7] ∧
    [7].getLast? = some (beforePopToB.stepInstruction.machine.visible.data .b) := by
  have hStart := atBoundary_loaded {} Panel.blank [0x12, 7, 0xb0, 0, 0xb3, 0]
  have hLoadOk : (loaded {} Panel.blank [0x12, 7, 0xb0, 0, 0xb3, 0]).stepInstruction.result =
      .ok 5 := rfl
  have hLoad : StackRun (loaded {} Panel.blank [0x12, 7, 0xb0, 0, 0xb3, 0]) _ [] :=
    StackRun.start.step hLoadOk fun _ => trivial
  have hPushOk : (loaded {} Panel.blank
      [0x12, 7, 0xb0, 0, 0xb3, 0]).stepInstruction.machine.stepInstruction.result = .ok 6 := rfl
  have hPush : StackRun (loaded {} Panel.blank [0x12, 7, 0xb0, 0, 0xb3, 0]) beforePopToB [7] :=
    hLoad.step hPushOk fun _ => trivial
  obtain ⟨hHolds, hDelivers⟩ := holdsStack_of_stackRun hStart rfl rfl hPush
  exact ⟨hHolds, (hDelivers 7 rfl rfl).1 .b rfl⟩

end Machine

end Microbus
