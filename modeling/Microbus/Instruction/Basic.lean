import Microbus.Alu

/-! # Instructions

The instruction set as data. An opcode says what an instruction does and with which registers;
the operand byte beside it is an address or a number for those opcodes that use it.
-/

namespace Microbus
set_option autoImplicit false

inductive DataReg where
  | a
  | b
  deriving DecidableEq

inductive MoveSource where
  | a
  | b
  | sp
  deriving DecidableEq

inductive MoveTarget where
  | a
  | b
  | x
  deriving DecidableEq

inductive BinaryOp where
  | add
  | sub
  | or
  | xor
  | and
  deriving DecidableEq

def BinaryOp.mode : BinaryOp → AluMode
  | add => .add
  | sub => .sub
  | or => .or
  | xor => .xor
  | and => .and

inductive AluSource where
  | b
  | x
  | memory -- the cell that the operand byte addresses
  | memoryAtB -- the cell that register B addresses
  | memoryAtX -- the cell that register X addresses
  deriving DecidableEq

inductive UnaryOp where
  | not
  | shl
  | shr
  | inc
  | dec
  deriving DecidableEq

inductive OutputKind where
  | command
  | address
  | data
  deriving DecidableEq

inductive Condition where
  | always
  | carry
  | noCarry
  | zero
  | notZero
  | parity
  | noParity
  deriving DecidableEq

namespace Condition

def all : List Condition := [always, carry, noCarry, zero, notZero, parity, noParity]

def holds (c : Condition) (f : Flags) : Bool :=
  match c with
  | always => true
  | carry => f.carry
  | noCarry => !f.carry
  | zero => f.zero
  | notZero => !f.zero
  | parity => f.parity
  | noParity => !f.parity

end Condition

inductive Opcode where
  | halt
  | loadMemory (target : DataReg) -- loads the cell that the operand addresses
  | loadImmediate (target : DataReg) -- loads the operand
  | store (source : DataReg) -- stores into the cell that the operand addresses
  | move (source : MoveSource) (target : MoveTarget)
  | swap -- exchanges A and B by way of X
  | alu (op : BinaryOp) (source : AluSource)
  | unary (op : UnaryOp)
  | display -- shows A on the number display
  | output (kind : OutputKind) -- sends the operand to the output port
  | outputIndirect (kind : OutputKind) -- has an encoding but does nothing
  | jump (condition : Condition)
  | call
  | ret
  | push (source : DataReg)
  | pop (target : DataReg)
  | stackReset -- makes the operand the stack pointer and the new top of the stack
  deriving DecidableEq

def Opcode.hasOperand : Opcode → Bool
  | loadMemory _ | loadImmediate _ | store _ | alu _ .memory | output _ | outputIndirect _
  | jump _ | call | stackReset => true
  | _ => false

/-- An opcode with its operand byte. -/
structure Instruction where
  op : Opcode
  operand : UInt8
  deriving DecidableEq

end Microbus
