/-! # Lines and words

A line of a text ends at a line feed, and a carriage return right before the line feed belongs to
the end. What follows the last line feed is a line unless it is empty.

A command is split into words at spaces, tabs and line feeds. Quotes keep blanks together: single
quotes keep everything as it is, double quotes leave the backslash its effect on a dollar sign, a
backquote, a double quote and itself. Elsewhere a backslash makes the next character ordinary.
-/

namespace Microbus.Text
set_option autoImplicit false

def dropReturn : List Char → List Char
  | '\r' :: cs => cs
  | cs => cs

/-- Splits a text into lines; `line` holds the characters of the line at hand, last first. -/
def linesFrom (line : List Char) : List Char → List (List Char)
  | [] => if line.isEmpty then [] else [line.reverse]
  | c :: cs =>
      if c = '\n' then (dropReturn line).reverse :: linesFrom [] cs else linesFrom (c :: line) cs

def lines (text : String) : List (List Char) := linesFrom [] text.toList

namespace Words

inductive Place where
  | between -- between words
  | betweenEscaped -- behind a backslash between words
  | plain -- in a word, outside quotes
  | plainEscaped -- in a word, behind a backslash
  | singleQuoted
  | doubleQuoted
  | doubleEscaped -- in double quotes, behind a backslash
  | remark -- behind a mark that makes the rest of the line a remark
  deriving DecidableEq

def isBreak (c : Char) : Bool := c == ' ' || c == '\t' || c == '\n'

def isEscapable (c : Char) : Bool := c == '$' || c == '\x60' || c == '"' || c == '\\'

def Place.next (place : Place) (c : Char) : Place :=
  match place with
  | .between | .plain =>
      if isBreak c then .between
      else if c = '\\' then (if place = .between then .betweenEscaped else .plainEscaped)
      else if c = '\'' then .singleQuoted
      else if c = '"' then .doubleQuoted
      else if c = '#' ∧ place = .between then .remark
      else .plain
  | .betweenEscaped => if c = '\n' then .between else .plain
  | .plainEscaped => .plain
  | .singleQuoted => if c = '\'' then .plain else .singleQuoted
  | .doubleQuoted =>
      if c = '"' then .plain else if c = '\\' then .doubleEscaped else .doubleQuoted
  | .doubleEscaped => .doubleQuoted
  | .remark => if c = '\n' then .between else .remark

/-- What one more character adds to the word at hand, last character first. -/
def Place.added (place : Place) (c : Char) : List Char :=
  match place with
  | .between | .plain => if place.next c = .plain then [c] else []
  | .betweenEscaped | .plainEscaped => if c = '\n' then [] else [c]
  | .singleQuoted => if c = '\'' then [] else [c]
  | .doubleQuoted => if place.next c = .doubleQuoted then [c] else []
  | .doubleEscaped => if isEscapable c then [c] else if c = '\n' then [] else [c, '\\']
  | .remark => []

/-- Splits a text; `word` holds the characters of the word at hand, last first. A quote that is
not closed makes the text no command. -/
def splitFrom (place : Place) (word : List Char) : List Char → Option (List String)
  | [] =>
      match place with
      | .between | .remark => some []
      | .plain => some [String.ofList word.reverse]
      | .betweenEscaped | .plainEscaped => some [String.ofList ('\\' :: word).reverse]
      | .singleQuoted | .doubleQuoted | .doubleEscaped => none
  | c :: rest =>
      if place = .plain ∧ isBreak c then
        (splitFrom .between [] rest).map (String.ofList word.reverse :: ·)
      else splitFrom (place.next c) (place.added c ++ word) rest

def split (text : String) : Option (List String) := splitFrom .between [] text.toList

end Words

end Microbus.Text
