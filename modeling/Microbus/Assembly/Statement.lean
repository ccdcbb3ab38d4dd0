import Microbus.Assembly.Line
import Microbus.Text.Lowercase

/-! # Statements

What one line comes to before labels are resolved: a complete instruction, a branch to a label, or
nothing but a place to jump to.
-/

namespace Microbus.Assembly
set_option autoImplicit false

inductive Branch where
  | jump (condition : Condition)
  | call
  deriving DecidableEq

namespace Branch

def opcode : Branch → Opcode
  | jump c => .jump c
  | call => .call

def mnemonic : Branch → String
  | jump c => c.mnemonic
  | call => "call"

end Branch

/-- What a line comes to. A noop takes up a place among the lines but gives no bytes. -/
inductive StatementKind where
  | instruction (i : Instruction)
  | branch (op : Branch) (label : String)
  | noop
  deriving DecidableEq

/-- A statement with its line in the source text and its place among the statements, for which
labels stand. Both count from one. -/
structure Statement where
  line : Nat
  index : Nat
  kind : StatementKind
  deriving DecidableEq

def StatementKind.text : StatementKind → String
  | instruction i => i.text
  | branch op label => op.mnemonic ++ " " ++ label
  | noop => "noop"

inductive Command where
  | load
  | store
  | arithmetic (op : BinaryOp)
  | output
  | branch (op : Branch)
  | move
  | push
  | pop
  | plain (kind : StatementKind)
  deriving DecidableEq

namespace Command

def single (op : Opcode) (operand : UInt8) : Command := plain (.instruction ⟨op, operand⟩)

/-- The command of a mnemonic in lower case. The stack is reset to its usual start. -/
def ofMnemonic? : String → Option Command
  | "load" => some load
  | "store" => some store
  | "add" => some (arithmetic .add)
  | "sub" => some (arithmetic .sub)
  | "or" => some (arithmetic .or)
  | "xor" => some (arithmetic .xor)
  | "and" => some (arithmetic .and)
  | "not" => some (single (.unary .not) 0)
  | "bitsl" => some (single (.unary .shl) 0)
  | "bitsr" => some (single (.unary .shr) 0)
  | "inc" => some (single (.unary .inc) 0)
  | "dec" => some (single (.unary .dec) 0)
  | "out" => some output
  | "jmp" => some (branch (.jump .always))
  | "jmpc" => some (branch (.jump .carry))
  | "jmpnc" => some (branch (.jump .noCarry))
  | "jmpz" => some (branch (.jump .zero))
  | "jmpnz" => some (branch (.jump .notZero))
  | "jmpp" => some (branch (.jump .parity))
  | "jmpnp" => some (branch (.jump .noParity))
  | "call" => some (branch .call)
  | "move" => some move
  | "push" => some push
  | "pop" => some pop
  | "swap" => some (single .swap 0)
  | "return" => some (single .ret 0)
  | "halt" => some (single .halt 0)
  | "stkrest" => some (single .stackReset 0xff)
  | "noop" => some (plain .noop)
  | _ => none

def form? : Command → Option Form
  | load => some .load
  | store => some .store
  | arithmetic _ => some .arithmetic
  | branch _ => some .branch
  | move => some .move
  | push | pop => some .stack
  | output | plain _ => none

end Command

def readOperands {α : Type} (s : SourceLine) (line : Nat) (problem : Problem)
    (p : Reader α) : Except Refusal α :=
  match Reader.whole p s.operands with
  | .ok a => .ok a
  | .error place => .error (.malformed line (columnOf s.code place) problem)

def withLiteral (s : SourceLine) (line : Nat) (op : Opcode) (l : Literal) :
    Except Refusal StatementKind := do
  let operand ← l.evaluate s.code line
  return .instruction ⟨op, operand⟩

def withSource (s : SourceLine) (line : Nat) (immediate memory : Opcode) :
    LoadSource → Except Refusal StatementKind
  | .immediate l => withLiteral s line immediate l
  | .memory l => withLiteral s line memory l

namespace Command

/-- Reads the operands of a command, which are known to be there if the command needs any. -/
def complete (c : Command) (s : SourceLine) (line : Nat) : Except Refusal StatementKind :=
  match c with
  | load => do
      let (source, r) ← readOperands s line (.operands .load)
        (Reader.pairOf Reader.loadSource Reader.dataReg)
      withSource s line (.loadImmediate r) (.loadMemory r) source
  | store => do
      let (r, l) ← readOperands s line (.operands .store)
        (Reader.pairOf Reader.dataReg Reader.address)
      withLiteral s line (.store r) l
  | arithmetic op => do
      let operand ← readOperands s line (.operands .arithmetic) Reader.aluOperand
      match operand with
      | .b => return .instruction ⟨.alu op .b, 0⟩
      | .x => return .instruction ⟨.alu op .x, 0⟩
      | .memory l => withLiteral s line (.alu op .memory) l
      | .memoryAtB => return .instruction ⟨.alu op .memoryAtB, 0⟩
      | .memoryAtX => return .instruction ⟨.alu op .memoryAtX, 0⟩
  | output =>
      if Text.allBlank s.operands then return .instruction ⟨.display, 0⟩
      else do
        let (kind, source) ← readOperands s line (.operands .output) Reader.outputOperands
        match source with
        | none => .error (.incomplete line (.operands .output))
        | some source => withSource s line (.output kind) (.outputIndirect kind) source
  | branch op => do
      let target ← readOperands s line (.operands .branch) Reader.target
      match target with
      | .address l => withLiteral s line op.opcode l
      | .label name => return .branch op (Text.lowercase name)
  | move => do
      let (source, target) ← readOperands s line (.operands .move)
        (Reader.pairOf Reader.moveSource Reader.moveTarget)
      return .instruction ⟨.move source target, 0⟩
  | push => do
      let r ← readOperands s line (.operands .stack) Reader.dataReg
      return .instruction ⟨.push r, 0⟩
  | pop => do
      let r ← readOperands s line (.operands .stack) Reader.dataReg
      return .instruction ⟨.pop r, 0⟩
  | plain kind => do
      readOperands s line .unexpectedOperand Reader.atEnd
      return kind

def parse (c : Command) (s : SourceLine) (line : Nat) : Except Refusal StatementKind :=
  match c.form? with
  | some form =>
      if Text.allBlank s.operands then .error (.incomplete line (.operands form))
      else c.complete s line
  | none => c.complete s line

end Command

def SourceLine.statement (s : SourceLine) (line : Nat) : Except Refusal StatementKind :=
  let word := String.ofList s.mnemonic.text
  match Command.ofMnemonic? word.toLower with
  | some c => c.parse s line
  | none => .error (.malformed line (columnOf s.code s.mnemonic.place) (.unknownCommand word))

end Microbus.Assembly
