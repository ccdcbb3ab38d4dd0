import Microbus.Proofs.Instruction.Words

/-! # What instructions mean

The meaning of an instruction in terms of what a programmer sees, without control words: the
registers that instructions name, the memory, the device, the top of the stack and whether the
machine halted. Main statement of the module: the words of an opcode, run on the core behind the
fetch, have just this effect, or are refused by the bounds of the stack before anything visible
happens.
-/

namespace Microbus
set_option autoImplicit false

structure Visible (δ : Type) where
  a : UInt8
  b : UInt8
  x : UInt8
  sp : UInt8
  pc : UInt8
  fr : UInt8
  out : UInt8
  oa : UInt8
  memory : Memory
  device : δ
  stackTop : UInt8
  halted : Bool

namespace Visible

variable {δ : Type}

def data (s : Visible δ) : DataReg → UInt8
  | .a => s.a
  | .b => s.b

def setData (s : Visible δ) (r : DataReg) (v : UInt8) : Visible δ :=
  match r with
  | .a => { s with a := v }
  | .b => { s with b := v }

def moved (s : Visible δ) : MoveSource → UInt8
  | .a => s.a
  | .b => s.b
  | .sp => s.sp

def setMoved (s : Visible δ) (t : MoveTarget) (v : UInt8) : Visible δ :=
  match t with
  | .a => { s with a := v }
  | .b => { s with b := v }
  | .x => { s with x := v }

def second (s : Visible δ) (n : UInt8) : AluSource → UInt8
  | .b => s.b
  | .x => s.x
  | .memory => s.memory.read n
  | .memoryAtB => s.memory.read s.b
  | .memoryAtX => s.memory.read s.x

def compute (s : Visible δ) (mode : AluMode) (v : UInt8) : Visible δ :=
  { s with a := (mode.compute s.a v).1, fr := (mode.compute s.a v).2.toByte }

variable [OutputDevice δ]

/-- What an opcode does with its operand, once the program counter points behind the
instruction. -/
def effect (s : Visible δ) (op : Opcode) (n : UInt8) : Visible δ :=
  match op with
  | .halt => { s with halted := true }
  | .loadMemory r => s.setData r (s.memory.read n)
  | .loadImmediate r => s.setData r n
  | .store r => { s with memory := s.memory.write n (s.data r) }
  | .move source target => s.setMoved target (s.moved source)
  | .swap => { s with a := s.b, b := s.a, x := s.a }
  | .alu op source => { s with x := s.second n source }.compute op.mode (s.second n source)
  | .unary .not => s.compute .not 0
  | .unary .shl => s.compute .shl 0
  | .unary .shr => s.compute .shr 0
  | .unary .inc => { s with x := 1 }.compute .add 1
  | .unary .dec => { s with x := 1 }.compute .sub 1
  | .display => { s with out := s.a }
  | .output .command => { s with device := OutputDevice.command s.device n }
  | .output .address => { s with oa := n }
  | .output .data => { s with device := OutputDevice.data s.device s.oa n }
  | .outputIndirect _ => s
  | .jump condition => if condition.holds (.ofByte s.fr) then { s with pc := n } else s
  | .call => { s with memory := s.memory.write s.sp s.pc, sp := s.sp - 1, pc := n }
  | .ret => { s with sp := s.sp + 1, pc := s.memory.read (s.sp + 1) }
  | .push r => { s with memory := s.memory.write s.sp (s.data r), sp := s.sp - 1 }
  | .pop r => { s with sp := s.sp + 1 }.setData r (s.memory.read (s.sp + 1))
  | .stackReset => { s with sp := n, stackTop := n }

def opcode? (s : Visible δ) : Option Opcode := Opcode.ofByte? (s.memory.read s.pc)

def operand (s : Visible δ) : UInt8 := s.memory.read (s.pc + 1)

def advance (s : Visible δ) : Visible δ := { s with pc := s.pc + 2 }

def perform (s : Visible δ) : Visible δ :=
  match s.opcode? with
  | some op => s.advance.effect op s.operand
  | none => s.advance

def depth (s : Visible δ) : UInt8 := s.stackTop - s.sp

def Full (s : Visible δ) (config : MachineConfig) : Prop :=
  config.enforceBounds = true ∧ config.stackSize ≤ s.depth

def Empty (s : Visible δ) (config : MachineConfig) : Prop :=
  config.enforceBounds = true ∧ s.sp = s.stackTop

/-- Whether the bounds of the stack forbid an opcode: a push or a call with a full stack, a pop or
a return with an empty one. -/
def Forbids (s : Visible δ) (config : MachineConfig) : Opcode → Prop
  | .push _ | .call => s.Full config
  | .pop _ | .ret => s.Empty config
  | _ => False

end Visible

namespace Core

variable {δ : Type} [OutputDevice δ]

def visible (s : Core δ) : Visible δ where
  a := s.contents.register .a
  b := s.contents.register .b
  x := s.contents.register .x
  sp := s.contents.register .sp
  pc := s.contents.register .pc
  fr := s.contents.register .fr
  out := s.contents.register .out
  oa := s.contents.register .oa
  memory := s.contents.memory
  device := s.contents.device
  stackTop := s.stackTop
  halted := s.halted

theorem visible_fetched (s : Core δ) : s.fetched.visible = s.visible.advance := by
  have hPc : s.fetched.contents.register .pc = s.contents.register .pc + 2 :=
    UInt8.add_assoc (s.contents.register .pc) 1 1
  have hVisible : s.fetched.visible =
      { s.visible with pc := s.fetched.contents.register .pc } := rfl
  rw [hVisible, hPc]
  rfl

variable {s : Core δ} {config : MachineConfig}

theorem run_nothing (s : Core δ) (config : MachineConfig) :
    (s.run config (closeProgram [])).1.visible = s.visible ∧
      (s.run config (closeProgram [])).2 = none := by
  rw [run_eq_foldl s config (by decide)]
  exact ⟨rfl, rfl⟩

theorem run_of_full {w : ControlWord} {ws : List ControlWord} (hHlt : w.has .hlt = false)
    (hDown : w.has .sm1 = true) (h : s.visible.Full config) :
    s.run config (.ofList [.so, .mai] :: w :: ws) = (s.cycle (.ofList [.so, .mai]),
      some (.stackOverflow s.visible.sp s.visible.stackTop)) := by
  rw [run_cons_of_none (by decide) (stackFault?_of_still s config (by decide) (by decide))]
  exact run_cons_of_some hHlt (stackFault?_eq_some_iff.mpr ⟨h.1, .inl ⟨hDown, h.2⟩, rfl⟩)

theorem run_of_not_full {w : ControlWord} {ws : List ControlWord} (hHlt : w.has .hlt = false)
    (hUp : w.has .sp1 = false) (h : ¬ s.visible.Full config) :
    s.run config (.ofList [.so, .mai] :: w :: ws) =
      ((s.cycle (.ofList [.so, .mai])).cycle w).run config ws := by
  rw [run_cons_of_none (by decide) (stackFault?_of_still s config (by decide) (by decide))]
  refine run_cons_of_none hHlt (stackFault?_eq_none_iff.mpr ?_)
  rintro ⟨hBounds, ⟨-, hFull⟩ | ⟨hMoves, -⟩⟩
  · exact h ⟨hBounds, hFull⟩
  · exact absurd hMoves (by simp [hUp])

theorem run_of_empty {ws : List ControlWord} (h : s.visible.Empty config) :
    s.run config (.ofList [.sp1] :: ws) =
      (s, some (.stackOverflow s.visible.sp s.visible.stackTop)) :=
  run_cons_of_some (by decide)
    (stackFault?_eq_some_iff.mpr ⟨h.1, .inr ⟨by decide, h.2⟩, rfl⟩)

theorem run_of_not_empty {ws : List ControlWord} (h : ¬ s.visible.Empty config) :
    s.run config (.ofList [.sp1] :: ws) = (s.cycle (.ofList [.sp1])).run config ws := by
  refine run_cons_of_none (by decide) (stackFault?_eq_none_iff.mpr ?_)
  rintro ⟨hBounds, ⟨hMoves, -⟩ | ⟨-, hEmpty⟩⟩
  · exact absurd hMoves (by decide)
  · exact h ⟨hBounds, hEmpty⟩

/-- The words of an opcode that the bounds of the stack forbid leave everything visible alone. -/
theorem run_of_forbids {op : Opcode} (h : s.visible.Forbids config op) :
    (s.run config (closeProgram (op.words.map .ofList))).1.visible = s.visible ∧
      (s.run config (closeProgram (op.words.map .ofList))).2 =
        some (.stackOverflow s.visible.sp s.visible.stackTop) := by
  cases op with
  | push r =>
      change (s.run config [_, _]).1.visible = _ ∧ (s.run config [_, _]).2 = _
      rw [run_of_full (by cases r <;> decide) (by cases r <;> decide) h]
      exact ⟨rfl, rfl⟩
  | call =>
      change (s.run config [_, _, _]).1.visible = _ ∧ (s.run config [_, _, _]).2 = _
      rw [run_of_full (by decide) (by decide) h]
      exact ⟨rfl, rfl⟩
  | pop r | ret =>
      change (s.run config [_, _, _]).1.visible = _ ∧ (s.run config [_, _, _]).2 = _
      rw [run_of_empty h]
      exact ⟨rfl, rfl⟩
  | _ => exact h.elim

/-- The words of an opcode that nothing forbids have the effect of the opcode. -/
theorem run_of_not_forbids {op : Opcode} (h : ¬ s.visible.Forbids config op)
    (hApplies : op.applies (.ofByte s.visible.fr) = true) :
    (s.run config (closeProgram (op.words.map .ofList))).1.visible =
        s.visible.effect op (s.contents.register .op) ∧
      (s.run config (closeProgram (op.words.map .ofList))).2 = none := by
  cases op with
  | halt => exact ⟨rfl, rfl⟩
  | swap | display | stackReset =>
      rw [run_eq_foldl s config (by decide)]
      exact ⟨rfl, rfl⟩
  | loadMemory r | loadImmediate r | store r =>
      cases r <;> (rw [run_eq_foldl s config (by decide)]; exact ⟨rfl, rfl⟩)
  | move source target =>
      cases source <;> cases target <;>
        (rw [run_eq_foldl s config (by decide)]; exact ⟨rfl, rfl⟩)
  | alu op source =>
      cases op <;> cases source <;>
        (rw [run_eq_foldl s config (by decide)]; exact ⟨rfl, rfl⟩)
  | unary op => cases op <;> (rw [run_eq_foldl s config (by decide)]; exact ⟨rfl, rfl⟩)
  | output kind | outputIndirect kind =>
      cases kind <;> (rw [run_eq_foldl s config (by decide)]; exact ⟨rfl, rfl⟩)
  | jump condition =>
      have hHolds : condition.holds (.ofByte s.visible.fr) = true := hApplies
      rw [run_eq_foldl s config (by cases condition <;> decide), Visible.effect, if_pos hHolds]
      exact ⟨rfl, rfl⟩
  | push r =>
      change (s.run config [_, _]).1.visible = _ ∧ (s.run config [_, _]).2 = _
      rw [run_of_not_full (by cases r <;> decide) (by cases r <;> decide) h]
      cases r <;> exact ⟨rfl, rfl⟩
  | call =>
      change (s.run config [_, _, _]).1.visible = _ ∧ (s.run config [_, _, _]).2 = _
      rw [run_of_not_full (by decide) (by decide) h, run_eq_foldl _ config (by decide)]
      exact ⟨rfl, rfl⟩
  | ret =>
      change (s.run config [_, _, _]).1.visible = _ ∧ (s.run config [_, _, _]).2 = _
      rw [run_of_not_empty h, run_eq_foldl _ config (by decide)]
      exact ⟨rfl, rfl⟩
  | pop r =>
      change (s.run config [_, _, _]).1.visible = _ ∧ (s.run config [_, _, _]).2 = _
      rw [run_of_not_empty h, run_eq_foldl _ config (by cases r <;> decide)]
      cases r <;> exact ⟨rfl, rfl⟩

end Core

end Microbus
