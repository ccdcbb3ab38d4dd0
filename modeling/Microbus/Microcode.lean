import Microbus.Instruction.Encoding

/-! # Micro-programs

Every instruction is carried out by control words, one for each cycle. Four words fetch the opcode
and the operand; the opcode then selects at most four more. The last word of an instruction starts
the next one.
-/

namespace Microbus
set_option autoImplicit false

def fetchCycle : List ControlWord :=
  [.ofList [.co, .mai], .ofList [.mo, .ii, .ce], .ofList [.co, .mai], .ofList [.mo, .opi, .ce]]

def DataReg.driveLine : DataReg → Line
  | a => .ao
  | b => .bo

def DataReg.latchLine : DataReg → Line
  | a => .ai
  | b => .bi

def MoveSource.driveLine : MoveSource → Line
  | a => .ao
  | b => .bo
  | sp => .so

def MoveTarget.latchLine : MoveTarget → Line
  | a => .ai
  | b => .bi
  | x => .xi

def OutputKind.latchLine : OutputKind → Line
  | command => .oci
  | address => .oai
  | data => .odi

namespace Opcode

def words : Opcode → List (List Line)
  | halt => [[.hlt]]
  | loadMemory r => [[.opo, .mai], [.mo, r.latchLine]]
  | loadImmediate r => [[.opo, r.latchLine]]
  | store r => [[.opo, .mai], [r.driveLine, .mi]]
  | move s t => [[s.driveLine, t.latchLine]]
  | swap => [[.ao, .xi], [.bo, .ai], [.xo, .bi]]
  | alu op s =>
      let compute := op.mode.line?.toList ++ [.eo, .ai]
      match s with
      | .b => [[.bo, .xi], compute]
      | .x => [compute]
      | .memory => [[.opo, .mai], [.mo, .xi], compute]
      | .memoryAtB => [[.bo, .mai], [.mo, .xi], compute]
      | .memoryAtX => [[.xo, .mai], [.mo, .xi], compute]
  | unary op =>
      match op with
      | .not => [[.not, .eo, .ai]]
      | .shl => [[.bsl, .eo, .ai]]
      | .shr => [[.bsr, .eo, .ai]]
      | .inc => [[.x1, .eo, .ai]]
      | .dec => [[.x1, .sub, .eo, .ai]]
  | display => [[.ao, .oi]]
  | output k => [[.opo, k.latchLine]]
  | outputIndirect _ => []
  | jump _ => [[.opo, .ci]]
  | call => [[.so, .mai], [.co, .mi, .sm1], [.opo, .ci]]
  | ret => [[.sp1], [.so, .mai], [.mo, .ci]]
  | push r => [[.so, .mai], [r.driveLine, .mi, .sm1]]
  | pop r => [[.sp1], [.so, .mai], [.mo, r.latchLine]]
  | stackReset => [[.opo, .si]]

/-- Whether an opcode does anything under the given flags: a jump whose condition is not met does
not. -/
def applies (op : Opcode) (f : Flags) : Bool :=
  match op with
  | jump c => c.holds f
  | _ => true

end Opcode

/-- The words of an opcode byte, without the start of the next instruction. A byte that is no
opcode has none. -/
def opcodeWords (byte : UInt8) (f : Flags) : List ControlWord :=
  match Opcode.ofByte? byte with
  | some op => if op.applies f then op.words.map .ofList else []
  | none => []

/-- Raises the line that starts the next instruction in the last word; without any word, one is
added for it. -/
def closeProgram : List ControlWord → List ControlWord
  | [] => [.ofList [.msr]]
  | [w] => [w ∪ .ofList [.msr]]
  | w :: ws => w :: closeProgram ws

def microProgram (byte : UInt8) (f : Flags) : List ControlWord := closeProgram (opcodeWords byte f)

theorem length_closeProgram (ws : List ControlWord) :
    (closeProgram ws).length = max 1 ws.length := by
  fun_induction closeProgram ws with
  | case1 => rfl
  | case2 => rfl
  | case3 w ws hws ih =>
      have hPos : 0 < ws.length := List.length_pos_iff.mpr fun h => hws h
      simp only [List.length_cons, ih]
      omega

end Microbus
