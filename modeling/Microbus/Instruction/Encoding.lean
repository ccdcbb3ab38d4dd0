import Microbus.Instruction.Basic

/-! # Encoding of instructions

An instruction is two bytes, the opcode and the operand. The high half of an opcode byte gives the
family: loads, stores and moves, five families of arithmetic, single operand arithmetic, output,
jumps, stack. Reading and writing agree on every opcode but the two moves of a register to itself,
which have a byte that reads as no instruction.
-/

namespace Microbus
set_option autoImplicit false

namespace Opcode

def toByte : Opcode → UInt8
  | halt => 0x01
  | loadMemory .a => 0x10
  | loadMemory .b => 0x11
  | loadImmediate .a => 0x12
  | loadImmediate .b => 0x13
  | store .a => 0x20
  | store .b => 0x21
  | move s t =>
      (match s with | .a => 0x22 | .b => 0x25 | .sp => 0x28) +
        (match t with | .a => 0 | .b => 1 | .x => 2)
  | swap => 0x2b
  | alu op s =>
      (match op with | .add => 0x30 | .sub => 0x40 | .or => 0x50 | .xor => 0x60 | .and => 0x70) +
        (match s with | .b => 0 | .x => 1 | .memory => 2 | .memoryAtB => 3 | .memoryAtX => 4)
  | unary .not => 0x81
  | unary .shl => 0x82
  | unary .shr => 0x83
  | unary .inc => 0x84
  | unary .dec => 0x85
  | display => 0x90
  | output k => match k with | .command => 0x91 | .address => 0x92 | .data => 0x93
  | outputIndirect k => match k with | .command => 0x94 | .address => 0x95 | .data => 0x96
  | jump c =>
      match c with
      | .always => 0xa0 | .carry => 0xa1 | .noCarry => 0xa2 | .zero => 0xa3 | .notZero => 0xa4
      | .parity => 0xa5 | .noParity => 0xa6
  | call => 0xa7
  | ret => 0xa8
  | push .a => 0xb0
  | pop .a => 0xb1
  | push .b => 0xb2
  | pop .b => 0xb3
  | stackReset => 0xb4

def aluSource? : Nat → Option AluSource
  | 0 => some .b
  | 1 => some .x
  | 2 => some .memory
  | 3 => some .memoryAtB
  | 4 => some .memoryAtX
  | _ => none

/-- The opcode of a byte, by its high and low half. -/
def ofHalves? : Nat → Nat → Option Opcode
  | 0x0, 0x1 => some halt
  | 0x1, 0x0 => some (loadMemory .a)
  | 0x1, 0x1 => some (loadMemory .b)
  | 0x1, 0x2 => some (loadImmediate .a)
  | 0x1, 0x3 => some (loadImmediate .b)
  | 0x2, 0x0 => some (store .a)
  | 0x2, 0x1 => some (store .b)
  | 0x2, 0x3 => some (move .a .b)
  | 0x2, 0x4 => some (move .a .x)
  | 0x2, 0x5 => some (move .b .a)
  | 0x2, 0x7 => some (move .b .x)
  | 0x2, 0x8 => some (move .sp .a)
  | 0x2, 0x9 => some (move .sp .b)
  | 0x2, 0xa => some (move .sp .x)
  | 0x2, 0xb => some swap
  | 0x3, low => (aluSource? low).map (alu .add)
  | 0x4, low => (aluSource? low).map (alu .sub)
  | 0x5, low => (aluSource? low).map (alu .or)
  | 0x6, low => (aluSource? low).map (alu .xor)
  | 0x7, low => (aluSource? low).map (alu .and)
  | 0x8, 0x1 => some (unary .not)
  | 0x8, 0x2 => some (unary .shl)
  | 0x8, 0x3 => some (unary .shr)
  | 0x8, 0x4 => some (unary .inc)
  | 0x8, 0x5 => some (unary .dec)
  | 0x9, 0x0 => some display
  | 0x9, 0x1 => some (output .command)
  | 0x9, 0x2 => some (output .address)
  | 0x9, 0x3 => some (output .data)
  | 0x9, 0x4 => some (outputIndirect .command)
  | 0x9, 0x5 => some (outputIndirect .address)
  | 0x9, 0x6 => some (outputIndirect .data)
  | 0xa, 0x0 => some (jump .always)
  | 0xa, 0x1 => some (jump .carry)
  | 0xa, 0x2 => some (jump .noCarry)
  | 0xa, 0x3 => some (jump .zero)
  | 0xa, 0x4 => some (jump .notZero)
  | 0xa, 0x5 => some (jump .parity)
  | 0xa, 0x6 => some (jump .noParity)
  | 0xa, 0x7 => some call
  | 0xa, 0x8 => some ret
  | 0xb, 0x0 => some (push .a)
  | 0xb, 0x1 => some (pop .a)
  | 0xb, 0x2 => some (push .b)
  | 0xb, 0x3 => some (pop .b)
  | 0xb, 0x4 => some stackReset
  | _, _ => none

def ofByte? (b : UInt8) : Option Opcode := ofHalves? (b.toNat / 16) (b.toNat % 16)

def IsSelfMove (op : Opcode) : Prop := op = move .a .a ∨ op = move .b .b

instance (op : Opcode) : Decidable op.IsSelfMove := inferInstanceAs (Decidable (_ ∨ _))

theorem ofByte?_toByte {op : Opcode} (h : ¬ op.IsSelfMove) : ofByte? op.toByte = some op := by
  cases op with
  | halt | swap | display | call | ret | stackReset => rfl
  | loadMemory r | loadImmediate r | store r | push r | pop r => cases r <;> rfl
  | move s t => cases s <;> cases t <;> first | rfl | simp [IsSelfMove] at h
  | alu o s => cases o <;> cases s <;> rfl
  | unary o => cases o <;> rfl
  | output k | outputIndirect k => cases k <;> rfl
  | jump c => cases c <;> rfl

end Opcode

structure InvalidOpcode where
  byte : UInt8
  deriving DecidableEq

def InvalidOpcode.message (e : InvalidOpcode) : String :=
  "invalid opcode " ++ Text.Hex.markedByte e.byte

namespace Instruction

/-- The bytes of an instruction; an unused operand is written as zero. -/
def toBytes (i : Instruction) : List UInt8 :=
  [i.op.toByte, if i.op.hasOperand then i.operand else 0]

def decode (opcode operand : UInt8) : Except InvalidOpcode Instruction :=
  match Opcode.ofByte? opcode with
  | some op => .ok ⟨op, operand⟩
  | none => .error ⟨opcode⟩

end Instruction

end Microbus
