import Microbus.Assembly.Statement
import Microbus.Text.Words

/-! # Programs

A source text becomes bytes in two passes. The first turns lines into statements and gathers the
labels, each of which stands for the index of its statement; the second resolves labels and
encodes. What was gathered stays visible when a pass refuses the text.
-/

namespace Microbus.Assembly
set_option autoImplicit false

structure LabelTable where
  entries : List (String × Nat)
  deriving DecidableEq

namespace LabelTable

def empty : LabelTable := ⟨[]⟩

def find? (t : LabelTable) (label : String) : Option Nat := t.entries.lookup label

/-- Makes a label stand for an index, whatever it stood for before. -/
def insert (t : LabelTable) (label : String) (index : Nat) : LabelTable :=
  ⟨(label, index) :: t.entries.filter fun e => e.1 != label⟩

end LabelTable

structure Program where
  labels : LabelTable
  statements : Array Statement
  deriving DecidableEq

/-- A program with the reason why the rest of the source text was refused, if it was. -/
structure Pass where
  program : Program
  refusal : Option Refusal

namespace Program

def empty : Program := ⟨.empty, #[]⟩

def nextIndex (p : Program) : Nat := p.statements.size + 1

/-- Defines the label of a line, which must be new. -/
def addLabel (p : Program) (s : SourceLine) (line : Nat) : Pass :=
  match s.label with
  | none => ⟨p, none⟩
  | some piece =>
      let name := String.ofList piece.text
      let label := Text.lowercase name
      let added := { p with labels := p.labels.insert label p.nextIndex }
      match p.labels.find? label with
      | none => ⟨added, none⟩
      | some _ =>
          ⟨added, some (.malformed line (columnOf s.code piece.place) (.duplicateLabel name))⟩

def addStatement (p : Program) (line : Nat) (kind : StatementKind) : Program :=
  { p with statements := p.statements.push ⟨line, p.nextIndex, kind⟩ }

def addLine (p : Program) (text : List Char) (line : Nat) : Pass :=
  match splitLine text line with
  | .error e => ⟨p, some e⟩
  | .ok none => ⟨p, none⟩
  | .ok (some s) =>
      let labelled := p.addLabel s line
      match labelled.refusal with
      | some _ => labelled
      | none =>
          match s.statement line with
          | .error e => ⟨labelled.program, some e⟩
          | .ok kind => ⟨labelled.program.addStatement line kind, none⟩

def addLines (p : Program) (line : Nat) : List (List Char) → Pass
  | [] => ⟨p, none⟩
  | text :: rest =>
      let pass := p.addLine text line
      match pass.refusal with
      | some _ => pass
      | none => pass.program.addLines (line + 1) rest

def scan (source : String) : Pass := empty.addLines 1 (Text.lines source)

/-- The bytes of a statement once labels are resolved. A label stands for its index modulo 256. -/
def encode (labels : LabelTable) (s : Statement) : Except Refusal (List UInt8) :=
  match s.kind with
  | .noop => .ok []
  | .instruction i => .ok i.toBytes
  | .branch op label =>
      match labels.find? label with
      | some index => .ok (Instruction.toBytes ⟨op.opcode, UInt8.ofNat index⟩)
      | none => .error (.unknownLabel s.line label)

def encodeAll (labels : LabelTable) : List Statement → Except Refusal (List UInt8)
  | [] => .ok []
  | s :: rest => do
      let first ← encode labels s
      let others ← encodeAll labels rest
      return first ++ others

def bytes (p : Program) : Except Refusal (List UInt8) := encodeAll p.labels p.statements.toList

def listing (p : Program) : String :=
  String.join (p.statements.toList.map fun s => s.kind.text ++ "\n")

end Program

structure Assembled where
  program : Program
  result : Except Refusal (List UInt8)

def assemble (source : String) : Assembled :=
  let pass := Program.scan source
  match pass.refusal with
  | some e => ⟨pass.program, .error e⟩
  | none => ⟨pass.program, pass.program.bytes⟩

end Microbus.Assembly
