import Microbus.Assembly.Literal
import Microbus.Instruction.Text

/-! # Operands

The operands of the commands. Registers and kinds of output are keywords, memory cells are marked
by a dollar sign, and a branch goes to an address or to a label.
-/

namespace Microbus.Assembly
set_option autoImplicit false

inductive LoadSource where
  | immediate (value : Literal)
  | memory (address : Literal)
  deriving DecidableEq

inductive AluOperand where
  | b
  | x
  | memory (address : Literal)
  | memoryAtB
  | memoryAtX
  deriving DecidableEq

inductive Target where
  | address (address : Literal)
  | label (name : String)
  deriving DecidableEq

namespace Reader

def name : Reader String := fun s =>
  match run1 Text.isWordChar s with
  | .ok (cs, rest) => .ok (String.ofList cs, rest)
  | .error place => .error place

def loadSource : Reader LoadSource :=
  orElse (LoadSource.memory <$> address) (LoadSource.immediate <$> literal)

def dataReg : Reader DataReg :=
  firstOf (keywordFor DataReg.a.keyword .a) [keywordFor DataReg.b.keyword .b]

def moveSource : Reader MoveSource :=
  firstOf (keywordFor MoveSource.a.keyword .a)
    [keywordFor MoveSource.b.keyword .b, keywordFor MoveSource.sp.keyword .sp]

def moveTarget : Reader MoveTarget :=
  firstOf (keywordFor MoveTarget.a.keyword .a)
    [keywordFor MoveTarget.b.keyword .b, keywordFor MoveTarget.x.keyword .x]

def outputKind : Reader OutputKind :=
  firstOf (keywordFor OutputKind.command.keyword .command)
    [keywordFor OutputKind.address.keyword .address, keywordFor OutputKind.data.keyword .data]

def memoryAt (word : String) (operand : AluOperand) : Reader AluOperand := do
  let _ ← exactly ['$']
  spaces
  keywordFor word operand

def aluOperand : Reader AluOperand :=
  firstOf (memoryAt "b" .memoryAtB)
    [memoryAt "x" .memoryAtX, AluOperand.memory <$> address, keywordFor "b" .b,
      keywordFor "x" .x]

def bareLiteral : Reader Literal := do
  let l ← literal
  wordEnd
  return l

/-- Where a branch goes: a label is a word that is no literal. -/
def target : Reader Target :=
  firstOf (Target.address <$> address)
    [Target.address <$> bareLiteral, Target.label <$> name]

/-- A kind of output with what is sent, if that is there. -/
def outputOperands : Reader (OutputKind × Option LoadSource) := do
  let kind ← outputKind
  let source ← optional (do spaces1; loadSource)
  return (kind, source)

end Reader

end Microbus.Assembly
