import Microbus.CommandLine
import Microbus.Text.Words

/-! # The program

Gives the command line the files, channels and input of the system. Everything that is decided is
decided by `CommandLine`.
-/

open Microbus

namespace Microbus.Main
set_option autoImplicit false

/-- The number of a system error, which is given with either sign. -/
def errorNumber (code : UInt32) : UInt32 := if code < 0x8000_0000 then code else 0 - code

def faultOf : IO.Error → FileFault
  | .noFileOrDirectory _ _ _ | .noSuchThing _ _ _ => .missing
  | .inappropriateType _ code _ => if errorNumber code = 20 then .beyondFile else .isFolder
  | .invalidArgument _ code details =>
      if errorNumber code = 36 then .nameTooLong else .other details
  | e => .other (toString e)

def attempt {α : Type} (access : IO α) : IO (Except FileFault α) := do
  try
    return .ok (← access)
  catch e =>
    return .error (faultOf e)

def systemFiles : FileAccess IO where
  read name := attempt (IO.FS.readFile name)
  write name text := attempt (IO.FS.writeFile name text)

def emit (w : CommandLine.Written) : IO Unit := do
  let out ← IO.getStdout
  let err ← IO.getStderr
  out.putStr w.out
  out.flush
  err.putStr w.err
  err.flush

partial def converse (s : CommandLine.Session) : IO UInt32 := do
  match s with
  | .finished code => return UInt32.ofNat code
  | .waiting _ =>
      let out ← IO.getStdout
      out.putStr "> "
      out.flush
      let line ← (← IO.getStdin).getLine
      let (written, next) := s.feed ((Text.lines line).head?.map String.ofList)
      emit written
      converse next

end Microbus.Main

def main (arguments : List String) : IO UInt32 := do
  let (written, session) ← CommandLine.start Main.systemFiles arguments
  Main.emit written
  Main.converse session
