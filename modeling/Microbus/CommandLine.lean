import Microbus.Assembly.Program
import Microbus.Console
import Microbus.Files
import Microbus.Memory.Image
import Microbus.Text.DecimalInput

/-! # The command line

Two commands: one assembles a source file into a memory image, the other runs a source file or an
image until it halts. A run that is paused asks for lines of input; until then and after each line
a session says what it has written and whether it is over.
-/

namespace Microbus.CommandLine
set_option autoImplicit false

inductive Action where
  | assemble (source : String) (destination : Option String) (listing : Bool)
  | run (file : String) (isImage : Bool) (rate : Option Float) (maxCycles : Nat) (debug : Bool)

structure Request where
  action : Action
  threshold : Level

structure Arguments where
  words : List String
  switches : List String
  values : List (String × String)

def longName : String → String
  | "-q" => "--quiet"
  | "-v" => "--verbose"
  | "-o" => "--output"
  | name => name

def switchNames : List String := ["--quiet", "--verbose", "--listing", "--image", "--debug"]

def valueNames : List String := ["--output", "--hz", "--max-cycles"]

def splitValue? (argument : String) : Option (String × String) :=
  match argument.toList.span (· != '=') with
  | (name, '=' :: value) => some (String.ofList name, String.ofList value)
  | _ => none

def sortArguments (sorted : Arguments) : List String → Except String Arguments
  | [] => .ok { sorted with words := sorted.words.reverse }
  | argument :: rest =>
      let name := longName argument
      if name ∈ switchNames then
        sortArguments { sorted with switches := name :: sorted.switches } rest
      else if name ∈ valueNames then
        match rest with
        | value :: rest => sortArguments { sorted with values := (name, value) :: sorted.values } rest
        | [] => .error ("a value is required for '" ++ argument ++ "'")
      else if argument.toList.head? = some '-' ∧ argument.length > 1 then
        match splitValue? argument with
        | some (name, value) =>
            if longName name ∈ valueNames then
              sortArguments { sorted with values := (longName name, value) :: sorted.values } rest
            else .error ("unexpected argument '" ++ argument ++ "' found")
        | none =>
            match argument.toList with
            | '-' :: 'o' :: value =>
                sortArguments
                  { sorted with values := ("--output", String.ofList value) :: sorted.values } rest
            | _ => .error ("unexpected argument '" ++ argument ++ "' found")
      else sortArguments { sorted with words := argument :: sorted.words } rest

def usualMaxCycles : Nat := 1000000

def usage : String :=
  "usage: asm <source> [-o <file>] [--listing] | run <file> [--image] [--hz <rate>] " ++
    "[--max-cycles <n>] [--debug]"

def actionOf (a : Arguments) : Except String Action :=
  match a.words with
  | ["asm", source] =>
      .ok (.assemble source (a.values.lookup "--output") ("--listing" ∈ a.switches))
  | ["run", file] => do
      let rate ←
        match a.values.lookup "--hz" with
        | none => pure none
        | some text =>
            match Text.Decimal.parse? text with
            | some rate => pure (some rate)
            | none => .error ("invalid value '" ++ text ++ "' for '--hz'")
      let maxCycles ←
        match a.values.lookup "--max-cycles" with
        | none => pure usualMaxCycles
        | some text =>
            match Text.Numeral.read 10 Text.Numeral.wordBound text.toList with
            | .ok n => pure n
            | .error flaw =>
                .error ("invalid value '" ++ text ++ "' for '--max-cycles': " ++ flaw.message)
      return .run file ("--image" ∈ a.switches) rate maxCycles ("--debug" ∈ a.switches)
  | _ => .error usage

def requestOf (arguments : List String) : Except String Request := do
  let a ← sortArguments ⟨[], [], []⟩ arguments
  let action ← actionOf a
  let threshold :=
    if "--verbose" ∈ a.switches then Level.trace
    else if "--quiet" ∈ a.switches then Level.warn
    else Level.info
  return ⟨action, threshold⟩

structure Failure where
  message : String
  cause : Option String

def Failure.text (f : Failure) : String :=
  "Error: " ++ f.message ++ "\n" ++
    match f.cause with
    | some cause => "\nCaused by:\n    " ++ cause ++ "\n"
    | none => ""

structure Written where
  out : String
  err : String

namespace Written

def nothing : Written := ⟨"", ""⟩

def append (a b : Written) : Written := ⟨a.out ++ b.out, a.err ++ b.err⟩

instance : Append Written := ⟨append⟩

end Written

inductive Session where
  | waiting (emulator : Emulator Panel)
  | finished (exitCode : Nat)

def failed (f : Failure) : Written × Session := (⟨"", f.text⟩, .finished 1)

def journalText (j : Journal) : String :=
  String.join (j.lines.map fun l => "[" ++ l.1.name ++ "] " ++ l.2 ++ "\n")

def showJournal (e : Emulator Panel) : Written × Emulator Panel :=
  (⟨journalText e.journal, ""⟩, { e with journal := e.journal.cleared })

def report (e : Emulator Panel) : Written × Session :=
  let told := showJournal (e.note (.finished e.cycles))
  (told.1 ++
      ⟨String.join (RegName.all.map fun r => Console.registerText e r ++ "\n") ++ e.machine.render,
        ""⟩,
    .finished 0)

def openConsole (e : Emulator Panel) : Written × Session :=
  (⟨"", Console.banner ++ Console.prompt e⟩, .waiting e)

def proceed (e : Emulator Panel) : Written × Session :=
  match e.state with
  | .paused => openConsole e
  | .halted => report e
  | .running =>
      let o := e.run
      let told := showJournal o.emulator
      let next :=
        match o.result with
        | .error err => failed ⟨err.message, none⟩
        | .ok .paused => openConsole told.2
        | .ok _ => report told.2
      (told.1 ++ next.1, next.2)

/-- Leaves the console. A run that was not told to go on ends here. -/
def leaveConsole (e : Emulator Panel) : Written × Session :=
  proceed (if e.state = .paused then { e with state := .halted } else e)

def Session.feed (s : Session) (line : Option String) : Written × Session :=
  match s with
  | .finished code => (.nothing, .finished code)
  | .waiting e =>
      match line with
      | none => leaveConsole e
      | some line =>
          let reply := Console.takeLine e line
          let told := showJournal reply.emulator
          let next :=
            if reply.leaves || told.2.state != .paused then leaveConsole told.2
            else (⟨"", Console.prompt told.2⟩, .waiting told.2)
          (told.1 ++ ⟨"", reply.text⟩ ++ next.1, next.2)

def Session.feedAll (s : Session) : List String → Written × Nat
  | [] =>
      match s.feed none with
      | (written, .finished code) => (written, code)
      | (written, .waiting _) => (written, 0)
  | line :: rest =>
      match s with
      | .finished code => (.nothing, code)
      | .waiting e =>
          let next := (Session.waiting e).feed (some line)
          let later := next.2.feedAll rest
          (next.1 ++ later.1, later.2)

/-- The image of a source text: its bytes and zeros behind them. With it comes what a listing
shows. -/
def imageOf (source : String) : String × Except Failure Memory :=
  let assembled := Assembly.assemble source
  match assembled.result with
  | .error e => ("", .error ⟨e.message, none⟩)
  | .ok bytes =>
      (assembled.program.listing,
        if bytes.length ≤ Memory.size then .ok (Memory.zero.writeAll 0 bytes)
        else .error ⟨"program is " ++ toString bytes.length ++ " bytes, memory holds " ++
          toString Memory.size, none⟩)

def startRun (image : Memory) (threshold : Level) (rate : Option Float) (maxCycles : Nat)
    (debug : Bool) : Written × Session :=
  let machine := (Machine.powerOn {} Panel.blank).setMemory image
  let checked :=
    match rate with
    | some rate => checkClockRate rate
    | none => .ok ()
  match checked with
  | .error e => failed ⟨e.message, none⟩
  | .ok () =>
      let e := Emulator.ofMachine machine (some maxCycles) (.opened (some threshold))
      proceed (if debug then { e with state := .paused } else e)

variable {m : Type → Type} [Monad m]

def withFile (files : FileAccess m) (name : String)
    (next : String → m (Written × Session)) : m (Written × Session) := do
  match ← files.read name with
  | .ok text => next text
  | .error e => return failed ⟨"reading " ++ name, some e.message⟩

def assembleFile (files : FileAccess m) (source : String) (destination : Option String)
    (listing : Bool) : m (Written × Session) :=
  withFile files source fun text => do
    let (listed, image) := imageOf text
    let shown : Written := ⟨"", if listing then listed else ""⟩
    match image with
    | .error f => return (shown ++ ⟨"", f.text⟩, .finished 1)
    | .ok image =>
        let output := Memory.Image.format image.toList
        match destination with
        | none => return (shown ++ ⟨output, ""⟩, .finished 0)
        | some name =>
            match ← files.write name output with
            | .ok () => return (shown, .finished 0)
            | .error e =>
                let f : Failure := ⟨"writing " ++ name, some e.message⟩
                return (shown ++ ⟨"", f.text⟩, .finished 1)

def start (files : FileAccess m) (arguments : List String) : m (Written × Session) :=
  match requestOf arguments with
  | .error message => return (⟨"", "error: " ++ message ++ "\n"⟩, .finished 2)
  | .ok request =>
      match request.action with
      | .assemble source destination listing => assembleFile files source destination listing
      | .run file isImage rate maxCycles debug =>
          withFile files file fun text => do
            let image :=
              if isImage then (Memory.Image.parse text).mapError fun e => ⟨e.message, none⟩
              else (imageOf text).2
            match image with
            | .error f => return failed f
            | .ok image => return startRun image request.threshold rate maxCycles debug

end Microbus.CommandLine
