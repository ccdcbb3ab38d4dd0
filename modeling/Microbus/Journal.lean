import Microbus.Emulator.History
import Microbus.Transfer

/-! # The journal

A journal gathers what is worth telling while programs are assembled and run. Records are kept as
data and put into words when they are shown; a journal drops at once what lies below its
threshold.
-/

namespace Microbus
set_option autoImplicit false

inductive Level where
  | trace
  | debug
  | info
  | warn
  deriving DecidableEq

namespace Level

def name : Level → String
  | trace => "TRACE"
  | debug => "DEBUG"
  | info => "INFO"
  | warn => "WARN"

def passes (level threshold : Level) : Bool := decide (threshold.ctorIdx ≤ level.ctorIdx)

end Level

inductive JournalRecord where
  | assembled (statements bytes : Nat)
  | machine (event : Event)
  | decoded (entry : HistoryEntry)
  | halted (cycles : Nat)
  | breakpoint (pc : UInt8)
  | finished (cycles : Nat)

/-- The kind of a set with its members in brackets, separated by bars; an empty set shows the number
that it is. -/
def Text.memberList (kind : String) (members : List String) : String :=
  kind ++ "(" ++ (if members.isEmpty then "0x0" else String.intercalate " | " members) ++ ")"

namespace JournalRecord

def level? : JournalRecord → Option Level
  | assembled _ _ => some .debug
  | machine e =>
      match e with
      | .cycleStart _ _ | .transfer _ _ _ => some .trace
      | .failure _ => some .warn
      | .halted => some .debug
      | .device (.unclaimed _ _) => some .trace
      | .device _ => none
  | decoded _ => some .debug
  | halted _ => some .debug
  | breakpoint _ => some .info
  | finished _ => some .info

def eventText : Event → String
  | .cycleStart counter w =>
      "> [" ++ toString counter ++ "] " ++ Text.memberList "ControlWord" w.names
  | .transfer source targets v =>
      let receivers := "[" ++ String.intercalate ", " (targets.map Node.label) ++ "]"
      match source with
      | some n => "  " ++ n.name ++ " -> " ++ receivers ++ ": " ++ Text.Hex.markedByte v
      | none => "  bus idle -> " ++ receivers
  | .failure e => e.message
  | .halted => "halted"
  | .device (.unclaimed address v) =>
      "output data " ++ Text.Hex.markedByte v ++ " to unmapped address " ++
        Text.Hex.markedByte address
  | .device _ => ""

def text : JournalRecord → String
  | assembled statements bytes =>
      "assembled " ++ toString statements ++ " statements into " ++ toString bytes ++ " bytes"
  | machine e => eventText e
  | decoded entry => ">>> " ++ entry.text
  | halted cycles => "halted after " ++ toString cycles ++ " cycles"
  | breakpoint pc => "breakpoint at " ++ Text.Hex.markedByte pc
  | finished cycles => "ran " ++ toString cycles ++ " cycles"

end JournalRecord

/-- Records from a threshold on, latest first; without a threshold none are kept. -/
structure Journal where
  threshold : Option Level
  records : List JournalRecord

namespace Journal

def opened (threshold : Option Level) : Journal := ⟨threshold, []⟩

def note (j : Journal) (r : JournalRecord) : Journal :=
  match j.threshold, r.level? with
  | some threshold, some level =>
      if level.passes threshold then { j with records := r :: j.records } else j
  | _, _ => j

def noteEvents (j : Journal) (events : List Event) : Journal :=
  events.foldl (fun j e => j.note (.machine e)) j

def lines (j : Journal) : List (Level × String) :=
  j.records.reverse.filterMap fun r => r.level?.map fun level => (level, r.text)

def cleared (j : Journal) : Journal := { j with records := [] }

end Journal

end Microbus
