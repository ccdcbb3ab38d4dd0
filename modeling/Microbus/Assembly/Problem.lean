/-! # Problems of a source text

What can be wrong with a line of source text, by cause, and the words for it. A line can be
malformed at a column, it can lack something, or it can name a label that nothing defines.
-/

namespace Microbus.Assembly
set_option autoImplicit false

inductive Form where
  | load
  | store
  | arithmetic
  | output
  | branch
  | move
  | stack
  deriving DecidableEq

namespace Form

def expectation : Form → String
  | load => "expected 'OP' or '$OP', then 'A' or 'B' after 'load' command"
  | store => "expected 'A' or 'B', then '$OP' after 'store' command"
  | arithmetic => "expected 'B', 'X', '$OP', '$B' or '$X'"
  | output => "expected 'cmd', 'addr' or 'dat' after 'out' command"
  | branch => "expected '$OP' or 'label' in jump or call command"
  | move => "expected 'A', 'B' or 'SP', then 'A', 'B' or 'X' after 'move' command"
  | stack => "expected 'A' or 'B' in push or pop command"

def absence : Form → String
  | load => "expected load origin after 'load' command"
  | store => "expected store destination after 'store' command"
  | arithmetic => "expected second operand after arithmetic or logic command"
  | output => "expected 'OP' or '$OP' after output type"
  | branch => "expected '$OP' or 'label' in jump or call command"
  | move => "expected register names after 'move' command"
  | stack => "expected 'A' or 'B' in push or pop command"

end Form

inductive Problem where
  | line
  | duplicateLabel (name : String)
  | unknownCommand (name : String)
  | unexpectedOperand
  | operands (form : Form)
  | literal
  | literalTerms
  | literalRange
  deriving DecidableEq

def Problem.message : Problem → String
  | line => "expected 'command' or 'label' or 'comment'"
  | duplicateLabel name => "duplicate label '" ++ name ++ "'"
  | unknownCommand name => "unknown command '" ++ name ++ "'"
  | unexpectedOperand => "unexpected operand"
  | operands form => form.expectation
  | literal => "expected a literal"
  | literalTerms => "inline operation with more than two operands"
  | literalRange => "literal out of range"

inductive Lack where
  | command (label : String)
  | operands (form : Form)
  deriving DecidableEq

def Lack.message : Lack → String
  | command label => "expected command after label '" ++ label ++ "'"
  | operands form => form.absence

/-- Why a source text is refused; lines and columns count from one. -/
inductive Refusal where
  | malformed (line column : Nat) (problem : Problem)
  | incomplete (line : Nat) (lack : Lack)
  | unknownLabel (line : Nat) (label : String)
  deriving DecidableEq

namespace Refusal

def line : Refusal → Nat
  | malformed line _ _ | incomplete line _ | unknownLabel line _ => line

def message : Refusal → String
  | malformed line column problem =>
      "syntax error in line " ++ toString line ++ ", column " ++ toString column ++ ": " ++
        problem.message
  | incomplete line lack => "missing element in line " ++ toString line ++ ": " ++ lack.message
  | unknownLabel line label => "unknown label \x60" ++ label ++ "\x60 in line " ++ toString line

end Refusal

end Microbus.Assembly
