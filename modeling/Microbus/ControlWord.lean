/-! # Control lines and control words

A control line asks one part of the machine for one action in the current cycle. A control word
is the set of lines that are raised together; `ControlWord.has` is the view through which the
rest of the library reads it.
-/

namespace Microbus
set_option autoImplicit false

/-- The control lines, in the order of their bits. -/
inductive Line where
  | io -- instruction register drives the bus
  | ii -- instruction register latches the bus
  | co -- program counter drives the bus
  | ce -- program counter steps
  | ci -- program counter latches the bus
  | opo -- operand register drives the bus
  | opi -- operand register latches the bus
  | ao -- register A drives the bus
  | ai -- register A latches the bus
  | bo -- register B drives the bus
  | bi -- register B latches the bus
  | xo -- register X drives the bus
  | xi -- register X latches the bus
  | x1 -- register X becomes one
  | so -- stack pointer drives the bus
  | si -- stack pointer latches the bus
  | sp1 -- stack pointer steps up
  | sm1 -- stack pointer steps down
  | sub -- selects subtraction
  | or -- selects bitwise or
  | xor -- selects bitwise exclusive or
  | and -- selects bitwise and
  | not -- selects bitwise complement
  | bsr -- selects the shift to the right
  | bsl -- selects the shift to the left
  | eo -- the result of the arithmetic unit drives the bus and its flags are kept
  | oci -- the output device takes the bus value as a command
  | oai -- output address register latches the bus
  | odi -- the output device takes the bus value as data
  | oi -- number display latches the bus
  | mai -- memory address register latches the bus
  | mo -- the addressed memory cell drives the bus
  | mi -- the addressed memory cell latches the bus
  | hlt -- the machine halts
  | msr -- the next cycle starts a new instruction
  deriving DecidableEq

namespace Line

def all : List Line :=
  [io, ii, co, ce, ci, opo, opi, ao, ai, bo, bi, xo, xi, x1, so, si, sp1, sm1, sub, or, xor, and,
    not, bsr, bsl, eo, oci, oai, odi, oi, mai, mo, mi, hlt, msr]

def index (l : Line) : Nat := l.ctorIdx

def name : Line → String
  | io => "IO" | ii => "II" | co => "CO" | ce => "CE" | ci => "CI" | opo => "OPO" | opi => "OPI"
  | ao => "AO" | ai => "AI" | bo => "BO" | bi => "BI" | xo => "XO" | xi => "XI" | x1 => "X1"
  | so => "SO" | si => "SI" | sp1 => "SP1" | sm1 => "SM1" | sub => "SUB" | or => "OR"
  | xor => "XOR" | and => "AND" | not => "NOT" | bsr => "BSR" | bsl => "BSL" | eo => "EO"
  | oci => "OCI" | oai => "OAI" | odi => "ODI" | oi => "OI" | mai => "MAI" | mo => "MO"
  | mi => "MI" | hlt => "HLT" | msr => "MSR"

def ofName? (s : String) : Option Line := all.find? fun l => l.name == s

theorem index_lt (l : Line) : l.index < 35 := by cases l <;> decide

theorem getElem?_all_index (l : Line) : all[l.index]? = some l := by cases l <;> rfl

theorem index_inj {l k : Line} : l.index = k.index ↔ l = k := by
  constructor
  · intro h
    have hl := getElem?_all_index l
    rw [h, getElem?_all_index k] at hl
    exact (Option.some.inj hl).symm
  · rintro rfl
    rfl

theorem mem_all (l : Line) : l ∈ all := by cases l <;> decide

end Line

structure ControlWord where
  bits : BitVec 35
  deriving DecidableEq

namespace ControlWord

def has (w : ControlWord) (l : Line) : Bool := w.bits.getLsbD l.index

def empty : ControlWord := ⟨0⟩

def union (v w : ControlWord) : ControlWord := ⟨v.bits ||| w.bits⟩

instance : EmptyCollection ControlWord := ⟨empty⟩

instance : Union ControlWord := ⟨union⟩

def ofList : List Line → ControlWord
  | [] => ∅
  | l :: ls => ⟨BitVec.twoPow 35 l.index⟩ ∪ ofList ls

def lines (w : ControlWord) : List Line := Line.all.filter w.has

def names (w : ControlWord) : List String := w.lines.map Line.name

@[simp] theorem has_empty (l : Line) : (∅ : ControlWord).has l = false := by
  change (0 : BitVec 35).getLsbD l.index = false
  simp

@[simp] theorem has_union (v w : ControlWord) (l : Line) :
    (v ∪ w).has l = (v.has l || w.has l) := by
  change (v.bits ||| w.bits).getLsbD l.index = _
  simp [has]

@[simp] theorem has_ofList (ls : List Line) (l : Line) :
    (ofList ls).has l = decide (l ∈ ls) := by
  induction ls with
  | nil => simp [ofList]
  | cons k ls ih =>
      have hk := k.index_lt
      rw [ofList, has_union, ih]
      simp only [has, BitVec.getLsbD_twoPow, hk, decide_true, Bool.true_and, List.mem_cons,
        Bool.decide_or, Line.index_inj, eq_comm (a := k)]

end ControlWord

end Microbus
