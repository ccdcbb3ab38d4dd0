import Microbus.Text.CharClass
import Microbus.Text.WordChar

/-! # Readers

A reader takes a value off the front of a text. When it cannot, it gives the text from the point
on at which it noticed; places in a line are such remaining texts throughout, and become offsets
and columns only when they are shown.
-/

namespace Microbus.Assembly
set_option autoImplicit false

/-- Takes a value off the front of a text and leaves the rest, or says where it failed. -/
def Reader (α : Type) := List Char → Except (List Char) (α × List Char)

namespace Reader

variable {α β : Type}

instance : Monad Reader where
  pure a := fun s => .ok (a, s)
  bind p f := fun s =>
    match p s with
    | .ok (a, rest) => f a rest
    | .error place => .error place

/-- Tries another reader at the same text; if both fail, the second says where. -/
def orElse (p q : Reader α) : Reader α := fun s =>
  match p s with
  | .ok r => .ok r
  | .error _ => q s

def optional (p : Reader α) : Reader (Option α) := fun s =>
  match p s with
  | .ok (a, rest) => .ok (some a, rest)
  | .error _ => .ok (none, s)

/-- The first of several readers that succeeds; if all fail, the last says where. -/
def firstOf (p : Reader α) : List (Reader α) → Reader α
  | [] => p
  | q :: qs => orElse p (firstOf q qs)

def spaces : Reader Unit := fun s => .ok ((), s.dropWhile Text.isSpace)

def spaces1 : Reader Unit := fun s =>
  match s with
  | c :: _ => if Text.isSpace c then spaces s else .error s
  | [] => .error s

def run1 (kind : Char → Bool) : Reader (List Char) := fun s =>
  match s.takeWhile kind with
  | [] => .error s
  | run => .ok (run, s.dropWhile kind)

def exactly (t : List Char) : Reader (List Char) := fun s =>
  if t.isPrefixOf s then .ok (t, s.drop t.length) else .error s

def atEnd : Reader Unit := fun s =>
  match s with
  | [] => .ok ((), s)
  | _ :: _ => .error s

def wordEnd : Reader Unit := fun s =>
  match s with
  | c :: _ => if Text.isWordChar c then .error s else .ok ((), s)
  | [] => .ok ((), s)

def keyword (word : String) : Reader Unit := fun s =>
  let n := word.toList.length
  if (s.take n).map Char.toLower = word.toList then wordEnd (s.drop n) else .error s

def keywordFor (word : String) (a : α) : Reader α := fun s =>
  match keyword word s with
  | .ok (_, rest) => .ok (a, rest)
  | .error place => .error place

def separator : Reader (List Char) := do
  spaces
  let mark ← orElse (exactly [',']) (exactly ['-', '>'])
  spaces
  return mark

def pairOf (p : Reader α) (q : Reader β) : Reader (α × β) := do
  let a ← p
  let _ ← separator
  let b ← q
  return (a, b)

/-- A text that a reader takes up whole, but for the spaces around it. -/
def whole (p : Reader α) (s : List Char) : Except (List Char) α :=
  match p (s.dropWhile Text.isSpace) with
  | .error place => .error place
  | .ok (a, rest) =>
      match rest.dropWhile Text.isSpace with
      | [] => .ok a
      | left => .error left

end Reader

def offsetOf (code place : List Char) : Nat :=
  (code.take (code.length - place.length)).foldl (fun size c => size + c.utf8Size) 0

/-- The column of a place in a text: one more than the characters before it in its line. -/
def columnOf (code place : List Char) : Nat :=
  ((code.take (code.length - place.length)).reverse.takeWhile (· != '\n')).length + 1

end Microbus.Assembly
