import Microbus.Address
import Microbus.Emulator.Run
import Microbus.Output.Panel
import Microbus.Text.CharClass
import Microbus.Text.Cluster
import Microbus.Text.Words

/-! # The debugging console

While an emulator is paused, a console takes one command a line. A command may be shortened as
long as it stays the only one that begins so.
-/

namespace Microbus.Console
set_option autoImplicit false

inductive Command where
  | resume
  | microstep
  | backtrace
  | registers
  | register
  | set
  | peek
  | displays
  | halt
  | help
  | quit
  deriving DecidableEq

inductive Argument where
  | text (name : String)
  | count (name : String)

def Argument.usage : Argument → String
  | text name => name ++ ":String"
  | count name => name ++ ":usize"

/-- The names that can be typed with what they do; two of them are reserved and do nothing. -/
def names : List (String × Option Command) :=
  [("c", some .resume), ("s", none), ("ms", some .microstep), ("bt", some .backtrace),
    ("b", none), ("pr", some .registers), ("reg", some .register), ("set", some .set),
    ("peek", some .peek), ("lcd", some .displays), ("halt", some .halt), ("help", some .help),
    ("quit", some .quit)]

def Command.arguments : Command → List Argument
  | backtrace => [.count "x"]
  | register => [.text "name"]
  | set => [.text "name", .text "value"]
  | peek => [.text "addr"]
  | _ => []

structure Reply where
  emulator : Emulator Panel
  text : String
  leaves : Bool

def banner : String := "SA2 Debug REPL\n"

def prompt (e : Emulator Panel) : String :=
  "\n" ++
    match e.history.last? with
    | some entry => "Current instruction:\n" ++ entry.text ++ "\n"
    | none => ""

def registerText (e : Emulator Panel) (r : RegName) : String :=
  r.name ++ "=" ++ Text.Hex.upperByte (e.machine.register r)

def errorText (message : String) : String := "Error: " ++ message ++ "\n"

def unknownRegister (name : String) : String := "unknown register \x60" ++ name ++ "\x60"

def argumentText (name : String) (c : Command) (message : String) : String :=
  errorText message ++ "Usage:\n  " ++ name ++ " " ++
    String.intercalate " " (c.arguments.map Argument.usage) ++ "\n"

def say (e : Emulator Panel) (text : String) : Reply := ⟨e, text, false⟩

def microstep (e : Emulator Panel) : Reply :=
  let o := e.microstep
  match o.result with
  | .error err => say o.emulator (errorText err.message)
  | .ok () =>
      let m := o.emulator.machine
      say o.emulator
        ("micro-step " ++ toString m.counter.val ++ ", bus=" ++ Text.Hex.upperByte m.lastBus ++ "\n")

def backtrace (e : Emulator Panel) (count : String) : Reply :=
  match Text.Numeral.read 10 Text.Numeral.wordBound count.toList with
  | .ok n => say e (String.join ((e.history.lastEntries n).map fun entry => entry.text ++ "\n"))
  | .error flaw =>
      say e (argumentText "bt" .backtrace
        ("failed to parse argument value '" ++ count ++ "': " ++ flaw.message))

def registers (e : Emulator Panel) : Reply :=
  say e (String.join (RegName.all.map fun r => registerText e r ++ "\n") ++ "flags=" ++
    Text.memberList "Flags" e.machine.flags.names ++ "\n")

def register (e : Emulator Panel) (name : String) : Reply :=
  match RegName.ofName? name with
  | some r => say e (registerText e r ++ "\n")
  | none => say e (errorText (unknownRegister name))

def set (e : Emulator Panel) (name value : String) : Reply :=
  match RegName.ofName? name with
  | none => say e (errorText (unknownRegister name))
  | some r =>
      match parseAddress value with
      | .ok v => say (e.setRegister r v) ""
      | .error err => say e (errorText err.message)

def peek (e : Emulator Panel) (address : String) : Reply :=
  match parseAddress address with
  | .ok a =>
      say e (Text.Hex.upperByte a ++ "=" ++ Text.Hex.upperByte (e.machine.memory.read a) ++ "\n")
  | .error err => say e (errorText err.message)

def helpText : String :=
  "Available commands:\n" ++
    String.join (names.map fun n => "  " ++ n.1 ++ "\n")

def perform (e : Emulator Panel) (name : String) (c : Command) (arguments : List String) : Reply :=
  match c, arguments with
  | .resume, [] => ⟨{ e with state := .running }, "", true⟩
  | .microstep, [] => microstep e
  | .backtrace, [count] => backtrace e count
  | .registers, [] => registers e
  | .register, [r] => register e r
  | .set, [r, value] => set e r value
  | .peek, [address] => peek e address
  | .displays, [] => say e e.machine.render
  | .halt, [] => ⟨{ e with state := .halted }, "", true⟩
  | .help, _ => say e helpText
  | .quit, _ => ⟨e, "", true⟩
  | c, arguments =>
      say e (argumentText name c
        ("wrong number of arguments: got " ++ toString arguments.length ++ ", expected " ++
          toString c.arguments.length))

def notFoundText (typed : String) (candidates : List String) : String :=
  "Command not found: " ++ typed ++ "\n" ++
    (if candidates.isEmpty then ""
      else "Candidates:\n  " ++ String.intercalate "\n  " candidates ++ "\n") ++
    "Use 'help' to see available commands.\n"

/-- Runs the command of a line, if it holds one. Blank lines do nothing. -/
def runLine (e : Emulator Panel) (line : String) : Reply :=
  if Text.allBlank line.toList then say e ""
  else
    match Text.Words.split line with
    | none => say e (errorText "missing closing quote")
    | some [] => say e ""
    | some (typed :: arguments) =>
        match names.filter fun n => typed.toList.isPrefixOf n.1.toList with
        | [(name, some c)] => perform e name c arguments
        | candidates => say e (notFoundText typed (candidates.map Prod.fst))

def takeLine (e : Emulator Panel) (line : String) : Reply := runLine e (Text.erased line)

end Microbus.Console
