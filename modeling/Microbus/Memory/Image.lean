import Microbus.Memory.Basic
import Microbus.Text.CharClass

/-! # Memory images as text

An image text holds one token of two digits in base sixteen for every byte, in address order.
Tokens are separated by any white space when read, and written sixteen to a line.
-/

namespace Microbus.Memory.Image
set_option autoImplicit false

def tokensFrom (token : List Char) : List Char → List (List Char)
  | [] => if token.isEmpty then [] else [token.reverse]
  | c :: cs =>
      if Text.isBlank c then
        if token.isEmpty then tokensFrom [] cs else token.reverse :: tokensFrom [] cs
      else tokensFrom (c :: token) cs

def tokens (cs : List Char) : List (List Char) := tokensFrom [] cs

/-- The bytes of tokens; the first that is not a byte is reported with its place. -/
def readTokens (index : Nat) : List (List Char) → Except Fault (List UInt8)
  | [] => .ok []
  | token :: rest =>
      match Text.Hex.byteOf? token with
      | some b => (readTokens (index + 1) rest).map (b :: ·)
      | none => .error (.imageSyntax index (String.ofList token))

/-- The memory that a text describes. Every token is read before they are counted. -/
def parse (text : String) : Except Fault Memory := do
  let bytes ← readTokens 0 (tokens text.toList)
  zero.loadImage bytes

def format : List UInt8 → String
  | [] => ""
  | b :: bs =>
      String.intercalate " " (((b :: bs).take 16).map Text.Hex.byte) ++ "\n" ++
        format (bs.drop 15)
  termination_by bytes => bytes.length
  decreasing_by simp only [List.length_drop, List.length_cons]; omega

end Microbus.Memory.Image
