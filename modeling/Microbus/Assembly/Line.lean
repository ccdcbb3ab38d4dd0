import Microbus.Assembly.Problem
import Microbus.Assembly.Operand

/-! # Lines

A line of source text is a label, a command and its operands, each of them optional, up to a
comment. A line with nothing before the comment is skipped.
-/

namespace Microbus.Assembly
set_option autoImplicit false

structure Piece where
  text : List Char
  rest : List Char
  deriving DecidableEq

def Piece.place (p : Piece) : List Char := p.text ++ p.rest

structure SourceLine where
  code : List Char
  label : Option Piece
  mnemonic : Piece
  operands : List Char
  deriving DecidableEq

def beforeComment (cs : List Char) : List Char := cs.takeWhile (· != '/')

def takeLabel (s : List Char) : Option Piece × List Char :=
  match s with
  | ':' :: r =>
      match r.takeWhile Text.isWordChar with
      | [] => (none, s)
      | word => (some ⟨word, r.dropWhile Text.isWordChar⟩, r.dropWhile Text.isWordChar)
  | _ => (none, s)

/-- The mnemonic at the front of a text: letters up to a space or the end. -/
def takeMnemonic (s : List Char) : Option Piece :=
  match s.takeWhile Char.isAlpha with
  | [] => none
  | word =>
      match s.dropWhile Char.isAlpha with
      | [] => some ⟨word, []⟩
      | c :: r => if Text.isSpace c then some ⟨word, c :: r⟩ else none

/-- Splits a line; nothing comes of a line that is blank before its comment. -/
def splitLine (text : List Char) (line : Nat) : Except Refusal (Option SourceLine) :=
  let code := beforeComment text
  let (label, afterLabel) := takeLabel (code.dropWhile Text.isSpace)
  let command := afterLabel.dropWhile Text.isSpace
  match takeMnemonic command with
  | some mnemonic => .ok (some ⟨code, label, mnemonic, mnemonic.rest⟩)
  | none =>
      match label, Text.allBlank command with
      | none, true => .ok none
      | some l, true => .error (.incomplete line (.command (String.ofList l.text)))
      | _, false => .error (.malformed line (columnOf code command) .line)

end Microbus.Assembly
