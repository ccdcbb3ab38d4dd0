import Microbus.Assembly.Problem
import Microbus.Assembly.Reader

/-! # Operand literals

A literal is a number, or a sum or difference of two. Further terms are read as well, so that they
can be refused. Numbers and results have to fit into 64 bits with a sign; the value is then taken
modulo 256.
-/

namespace Microbus.Assembly
set_option autoImplicit false

inductive Sign where
  | plus
  | minus
  deriving DecidableEq

namespace Sign

def char : Sign → Char
  | plus => '+'
  | minus => '-'

def ofChar? (c : Char) : Option Sign :=
  if c = '+' then some plus else if c = '-' then some minus else none

def apply : Sign → Int → Int
  | plus, n => n
  | minus, n => -n

end Sign

structure Literal where
  place : List Char
  first : Nat
  rest : List (Sign × Nat)
  deriving DecidableEq

def digitsValue (ds : List Char) : Nat := ds.foldl (fun n d => 10 * n + (d.toNat - 48)) 0

def inRange (n : Int) : Bool := decide (-0x8000_0000_0000_0000 ≤ n) && decide (n < 0x8000_0000_0000_0000)

namespace Reader

def number : Reader Nat := fun s =>
  match s.takeWhile Char.isDigit with
  | [] => .error s
  | ds =>
      if inRange (digitsValue ds) then .ok (digitsValue ds, s.dropWhile Char.isDigit) else .error s

def term? (s : List Char) : Option ((Sign × Nat) × List Char) :=
  match s.dropWhile Text.isSpace with
  | [] => none
  | c :: r => do
      let sign ← Sign.ofChar? c
      match number (r.dropWhile Text.isSpace) with
      | .ok (n, rest) => some ((sign, n), rest)
      | .error _ => none

theorem length_number_le {s rest : List Char} {n : Nat} (h : number s = .ok (n, rest)) :
    rest.length ≤ s.length := by
  unfold number at h
  split at h
  · cases h
  · split at h
    · cases h
      exact (List.dropWhile_sublist _).length_le
    · cases h

theorem length_term?_lt {s rest : List Char} {t : Sign × Nat} (h : term? s = some (t, rest)) :
    rest.length < s.length := by
  unfold term? at h
  split at h
  · cases h
  · rename_i c r hSpace
    obtain ⟨sign, _, h⟩ := Option.bind_eq_some_iff.mp h
    split at h
    · rename_i n left hNumber
      cases h
      have hLeft := length_number_le hNumber
      have hDrop := (List.dropWhile_sublist Text.isSpace (l := r)).length_le
      have hAll := (List.dropWhile_sublist Text.isSpace (l := s)).length_le
      rw [hSpace, List.length_cons] at hAll
      omega
    · cases h

def terms (s : List Char) : List (Sign × Nat) × List Char :=
  match _h : term? s with
  | none => ([], s)
  | some (t, rest) =>
      let more := terms rest
      (t :: more.1, more.2)
  termination_by s.length
  decreasing_by exact length_term?_lt (by assumption)

def literal : Reader Literal := fun s =>
  match number s with
  | .error place => .error place
  | .ok (n, rest) => .ok (⟨s, n, (terms rest).1⟩, (terms rest).2)

def address : Reader Literal := do
  let _ ← exactly ['$']
  spaces
  literal

end Reader

namespace Literal

/-- The value of a literal of one or two terms, not yet taken modulo 256. -/
def value? (l : Literal) : Except Problem Int :=
  let checked (n : Int) : Except Problem Int :=
    if inRange n then .ok n else .error .literalRange
  match l.rest with
  | [] => checked l.first
  | [(sign, n)] => checked (l.first + sign.apply n)
  | _ => .error .literalTerms

/-- The byte of a literal; below zero it is counted down from 256. -/
def byte? (l : Literal) : Except Problem UInt8 := l.value?.map UInt8.ofInt

def evaluate (l : Literal) (code : List Char) (line : Nat) : Except Refusal UInt8 :=
  match l.byte? with
  | .ok b => .ok b
  | .error problem => .error (.malformed line (columnOf code l.place) problem)

end Literal

def evaluateText (text : String) (line : Nat) : Except Refusal UInt8 :=
  let code := text.toList
  match Reader.whole Reader.literal code with
  | .ok l => l.evaluate code line
  | .error place => .error (.malformed line (columnOf code place) .literal)

end Microbus.Assembly
