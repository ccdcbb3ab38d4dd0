import Microbus.Instruction.Encoding

/-! # Instructions as text

The words of the assembly language, and the text of an instruction in it. A pair of bytes that is
no instruction is written as raw bytes.
-/

namespace Microbus
set_option autoImplicit false

def DataReg.keyword : DataReg → String
  | a => "a"
  | b => "b"

def MoveSource.keyword : MoveSource → String
  | a => "a"
  | b => "b"
  | sp => "sp"

def MoveTarget.keyword : MoveTarget → String
  | a => "a"
  | b => "b"
  | x => "x"

def BinaryOp.mnemonic : BinaryOp → String
  | add => "add"
  | sub => "sub"
  | or => "or"
  | xor => "xor"
  | and => "and"

def UnaryOp.mnemonic : UnaryOp → String
  | not => "not"
  | shl => "bitsl"
  | shr => "bitsr"
  | inc => "inc"
  | dec => "dec"

def OutputKind.keyword : OutputKind → String
  | command => "cmd"
  | address => "addr"
  | data => "dat"

def Condition.mnemonic : Condition → String
  | always => "jmp"
  | carry => "jmpc"
  | noCarry => "jmpnc"
  | zero => "jmpz"
  | notZero => "jmpnz"
  | parity => "jmpp"
  | noParity => "jmpnp"

namespace Instruction

def text (i : Instruction) : String :=
  let n := toString i.operand.toNat
  match i.op with
  | .halt => "halt"
  | .loadMemory r => "load $" ++ n ++ " -> " ++ r.keyword
  | .loadImmediate r => "load " ++ n ++ " -> " ++ r.keyword
  | .store r => "store " ++ r.keyword ++ " -> $" ++ n
  | .move s t => "move " ++ s.keyword ++ "," ++ t.keyword
  | .swap => "swap"
  | .alu op s =>
      op.mnemonic ++
        match s with
        | .b => " b"
        | .x => " x"
        | .memory => " $" ++ n
        | .memoryAtB => " $b"
        | .memoryAtX => " $x"
  | .unary op => op.mnemonic
  | .display => "out"
  | .output k => "out " ++ k.keyword ++ " " ++ n
  | .outputIndirect k => "out " ++ k.keyword ++ " $" ++ n
  | .jump c => c.mnemonic ++ " $" ++ n
  | .call => "call $" ++ n
  | .ret => "return"
  | .push r => "push " ++ r.keyword
  | .pop r => "pop " ++ r.keyword
  | .stackReset => "stkrest"

end Instruction

def disassemble (opcode operand : UInt8) : String :=
  match Instruction.decode opcode operand with
  | .ok i => i.text
  | .error _ =>
      ".byte " ++ Text.Hex.markedByte opcode ++ ", " ++ Text.Hex.markedByte operand

end Microbus
