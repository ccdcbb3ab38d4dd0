import Microbus.Assembly.Statement

/-! # The grammar of a line

The forms that a line of source text can take, said without readers. A line is its text in front of
the comment: perhaps a label, then a mnemonic, then what the command of that mnemonic takes. Each
form comes with what the line amounts to. A branch to a word of digits goes to an address if they
are a number, and to a label of that name if their value does not fit into 64 bits.
-/

namespace Microbus.Assembly.Grammar
set_option autoImplicit false

def Gap (s : List Char) : Prop := ∀ c ∈ s, Text.isSpace c = true

def Word (s : List Char) : Prop := s ≠ [] ∧ ∀ c ∈ s, Text.isWordChar c = true

def Keyword (word : String) (s : List Char) : Prop := s.map Char.toLower = word.toList

structure Number (s : List Char) (n : Nat) : Prop where
  nonempty : s ≠ []
  digits : ∀ c ∈ s, c.isDigit = true
  value : digitsValue s = n
  small : n < 0x8000_0000_0000_0000

inductive Constant : List Char → Int → Prop
  | number {s : List Char} {n : Nat} : Number s n → Constant s n
  | operation {s g h t : List Char} {sign : Sign} {n k : Nat} : Number s n → Gap g → Gap h →
      Number t k → inRange (n + sign.apply k) = true →
      Constant (s ++ (g ++ sign.char :: (h ++ t))) (n + sign.apply k)

inductive Cell : List Char → Int → Prop
  | mk {g s : List Char} {v : Int} : Gap g → Constant s v → Cell ('$' :: (g ++ s)) v

inductive Separator : List Char → Prop
  | comma {g h : List Char} : Gap g → Gap h → Separator (g ++ ',' :: h)
  | arrow {g h : List Char} : Gap g → Gap h → Separator (g ++ '-' :: '>' :: h)

/-- The operands of a command without the spaces around them. -/
inductive Operands : Command → List Char → StatementKind → Prop
  | loadImmediate {s t u : List Char} {v : Int} {r : DataReg} : Constant s v → Separator t →
      Keyword r.keyword u →
      Operands .load (s ++ (t ++ u)) (.instruction ⟨.loadImmediate r, .ofInt v⟩)
  | loadMemory {s t u : List Char} {v : Int} {r : DataReg} : Cell s v → Separator t →
      Keyword r.keyword u →
      Operands .load (s ++ (t ++ u)) (.instruction ⟨.loadMemory r, .ofInt v⟩)
  | store {s t u : List Char} {v : Int} {r : DataReg} : Keyword r.keyword s → Separator t →
      Cell u v → Operands .store (s ++ (t ++ u)) (.instruction ⟨.store r, .ofInt v⟩)
  | withB {s : List Char} {op : BinaryOp} : Keyword "b" s →
      Operands (.arithmetic op) s (.instruction ⟨.alu op .b, 0⟩)
  | withX {s : List Char} {op : BinaryOp} : Keyword "x" s →
      Operands (.arithmetic op) s (.instruction ⟨.alu op .x, 0⟩)
  | withMemory {s : List Char} {v : Int} {op : BinaryOp} : Cell s v →
      Operands (.arithmetic op) s (.instruction ⟨.alu op .memory, .ofInt v⟩)
  | withMemoryAtB {g s : List Char} {op : BinaryOp} : Gap g → Keyword "b" s →
      Operands (.arithmetic op) ('$' :: (g ++ s)) (.instruction ⟨.alu op .memoryAtB, 0⟩)
  | withMemoryAtX {g s : List Char} {op : BinaryOp} : Gap g → Keyword "x" s →
      Operands (.arithmetic op) ('$' :: (g ++ s)) (.instruction ⟨.alu op .memoryAtX, 0⟩)
  | toCell {s : List Char} {v : Int} {op : Branch} : Cell s v →
      Operands (.branch op) s (.instruction ⟨op.opcode, .ofInt v⟩)
  | toConstant {s : List Char} {v : Int} {op : Branch} : Constant s v →
      Operands (.branch op) s (.instruction ⟨op.opcode, .ofInt v⟩)
  | toLabel {s : List Char} {op : Branch} : Word s → (∀ v, ¬ Constant s v) →
      Operands (.branch op) s (.branch op (Text.lowercase (String.ofList s)))
  | move {s t u : List Char} {source : MoveSource} {target : MoveTarget} :
      Keyword source.keyword s → Separator t → Keyword target.keyword u →
      Operands .move (s ++ (t ++ u)) (.instruction ⟨.move source target, 0⟩)
  | push {s : List Char} {r : DataReg} : Keyword r.keyword s →
      Operands .push s (.instruction ⟨.push r, 0⟩)
  | pop {s : List Char} {r : DataReg} : Keyword r.keyword s →
      Operands .pop s (.instruction ⟨.pop r, 0⟩)
  | output {s g t : List Char} {v : Int} {k : OutputKind} : Keyword k.keyword s → Gap g →
      g ≠ [] → Constant t v →
      Operands .output (s ++ (g ++ t)) (.instruction ⟨.output k, .ofInt v⟩)
  | outputIndirect {s g t : List Char} {v : Int} {k : OutputKind} : Keyword k.keyword s → Gap g →
      g ≠ [] → Cell t v →
      Operands .output (s ++ (g ++ t)) (.instruction ⟨.outputIndirect k, .ofInt v⟩)
  | plain {kind : StatementKind} : Operands (.plain kind) [] kind

/-- What stands behind a mnemonic: operands between spaces, or nothing visible if A is shown. -/
inductive Rest : Command → List Char → StatementKind → Prop
  | operands {c : Command} {g s h : List Char} {kind : StatementKind} : Gap g →
      Operands c s kind → Gap h → Rest c (g ++ (s ++ h)) kind
  | display {s : List Char} : (∀ c ∈ s, Text.isBlank c = true) →
      Rest .output s (.instruction ⟨.display, 0⟩)

def mnemonics : List (String × Command) :=
  [("load", .load), ("store", .store), ("add", .arithmetic .add), ("sub", .arithmetic .sub),
    ("or", .arithmetic .or), ("xor", .arithmetic .xor), ("and", .arithmetic .and),
    ("not", .single (.unary .not) 0), ("bitsl", .single (.unary .shl) 0),
    ("bitsr", .single (.unary .shr) 0), ("inc", .single (.unary .inc) 0),
    ("dec", .single (.unary .dec) 0), ("out", .output), ("jmp", .branch (.jump .always)),
    ("jmpc", .branch (.jump .carry)), ("jmpnc", .branch (.jump .noCarry)),
    ("jmpz", .branch (.jump .zero)), ("jmpnz", .branch (.jump .notZero)),
    ("jmpp", .branch (.jump .parity)), ("jmpnp", .branch (.jump .noParity)),
    ("call", .branch .call), ("move", .move), ("push", .push), ("pop", .pop),
    ("swap", .single .swap 0), ("return", .single .ret 0), ("halt", .single .halt 0),
    ("stkrest", .single .stackReset 0xff), ("noop", .plain .noop)]

inductive Label : List Char → Option (List Char) → Prop
  | none : Label [] none
  | some {w g : List Char} : Word w → Gap g → g ≠ [] → Label (':' :: (w ++ g)) (some w)

/-- A line up to its comment, with its label and what it comes to. -/
inductive Line : List Char → Option (List Char) → StatementKind → Prop
  | mk {lead front word rest : List Char} {name : String} {c : Command}
      {label : Option (List Char)} {kind : StatementKind} : Gap lead → Label front label →
      (name, c) ∈ mnemonics → Keyword name word → (∀ a ∈ rest.head?, Text.isSpace a = true) →
      Rest c rest kind → Line (lead ++ (front ++ (word ++ rest))) label kind

end Microbus.Assembly.Grammar
