import Microbus.Machine.Basic

/-! # One cycle of the machine

A cycle has two halves. Decoding chooses a control word, marks the nodes it names and applies what
needs no bus; executing carries the transfer out and clocks the datapath. A half that fails leaves
no node marked and no word waiting.
-/

namespace Microbus
set_option autoImplicit false

def driveLines : List (Line × Node) :=
  [(.io, .register .ip), (.co, .register .pc), (.opo, .register .op), (.ao, .register .a),
    (.bo, .register .b), (.xo, .register .x), (.so, .register .sp), (.eo, .register .alu),
    (.mo, .memory)]

/-- The lines that make a node latch the bus, in the order in which the nodes are noted. The
addresses come before the places they select. -/
def latchLines : List (Line × Node) :=
  [(.ii, .register .ip), (.ci, .register .pc), (.opi, .register .op), (.ai, .register .a),
    (.bi, .register .b), (.xi, .register .x), (.si, .register .sp), (.oai, .register .oa),
    (.oi, .register .out), (.mai, .register .ma), (.mi, .memory), (.odi, .outputData)]

def ControlWord.drivers (w : ControlWord) : List Node :=
  (driveLines.filter fun p => w.has p.1).map Prod.snd

def ControlWord.listeners (w : ControlWord) : List Node :=
  (latchLines.filter fun p => w.has p.1).map Prod.snd

namespace Datapath

variable {δ : Type}

def applyDirect (d : Datapath δ) (w : ControlWord) : Datapath δ :=
  { d with
    pc := if w.has .ce then d.pc.set (d.pc.value + 1) else d.pc
    x := if w.has .x1 then d.x.set 1 else d.x
    sp :=
      let raised := if w.has .sp1 then d.sp.set (d.sp.value + 1) else d.sp
      if w.has .sm1 then raised.set (raised.value - 1) else raised }

/-- The arithmetic that a word asks for, on A and X; its flags are queued if it drives the bus. -/
def applyAlu (d : Datapath δ) (w : ControlWord) : Datapath δ :=
  let unit := d.alu.setMode (.select w)
  { d with
    alu := unit.compute d.a.value d.x.value
    fr := if w.has .eo then d.fr.latchFlags (unit.flagsOf d.a.value d.x.value) else d.fr }

def clock (d : Datapath δ) : Datapath δ := { d with alu := d.alu.clock, fr := d.fr.clock }

def giveUp (d : Datapath δ) : Datapath δ := { d with alu := d.alu.clock, fr := d.fr.discard }

end Datapath

namespace Machine

variable {δ : Type} [OutputDevice δ]

def stackDepth (m : Machine δ) : UInt8 := m.stackTop - m.register .sp

/-- The fault of a word that moves the stack pointer out of its region: down from a full stack or
up from an empty one. -/
def stackFault? (m : Machine δ) (w : ControlWord) : Option Fault :=
  if m.config.enforceBounds &&
      ((w.has .sm1 && decide (m.config.stackSize ≤ m.stackDepth)) ||
        (w.has .sp1 && m.register .sp == m.stackTop)) then
    some (.stackOverflow (m.register .sp) m.stackTop)
  else none

def apply (m : Machine δ) (w : ControlWord) : Except Fault (Machine δ) :=
  match m.stackFault? w with
  | some e => .error e
  | none =>
      match m.transfer.noteDrivers m.datapath w.drivers with
      | .error e => .error e
      | .ok (t, d) =>
          let noted := t.noteListeners d w.listeners
          .ok { m with transfer := noted.1, datapath := (noted.2.applyDirect w).applyAlu w }

def issue (m : Machine δ) (w : ControlWord) : Transition δ :=
  if m.halted then ⟨m, none, []⟩
  else
    let start := Event.cycleStart m.counter w
    if w.has .hlt then ⟨{ m with word := some w, halted := true }, none, [start, .halted]⟩
    else
      match m.apply w with
      | .ok applied => ⟨{ applied with word := some w }, none, [start]⟩
      | .error e =>
          ⟨{ m with datapath := m.transfer.abort m.datapath, transfer := .none, word := none },
            some e, [start, .failure e]⟩

/-- The machine with the micro-program of the fetched opcode, chosen when the fetch is over. -/
def refreshProgram (m : Machine δ) : Machine δ :=
  if m.counter = .dispatch then { m with program := microProgram (m.register .ip) m.flags } else m

/-- The word of the current micro-step: the fetch, then the micro-program. A step beyond the
micro-program starts the next instruction. -/
def selectWord (m : Machine δ) : ControlWord :=
  ((fetchCycle ++ m.program)[m.counter.val]?).getD (.ofList [.msr])

def decodeStep (m : Machine δ) : Transition δ :=
  if m.halted then ⟨m, none, []⟩
  else
    let ready := m.refreshProgram
    ready.issue ready.selectWord

def complete (m : Machine δ) (w : ControlWord) : Machine δ :=
  let port := if w.has .oci then m.datapath.port.command m.lastBus else m.datapath.port
  { m with
    datapath := { m.datapath with port := port }.clock
    stackTop := if w.has .si then m.register .sp else m.stackTop
    bus := m.bus.clockReset
    counter := if w.has .msr then .first else m.counter.next }

def executeStep (m : Machine δ) : Transition δ :=
  if m.halted then ⟨m, none, []⟩
  else
    match m.word with
    | none => ⟨m, none, []⟩
    | some w =>
        let r := m.transfer.execute m.datapath m.bus
        let taken := { m with transfer := .none, word := none }
        match r.fault with
        | some e =>
            ⟨{ taken with datapath := r.datapath.giveUp, bus := r.bus.clockReset, lastBus := 0 },
              some e, r.events⟩
        | none =>
            let carried := r.bus.held.getD 0
            let moved := { taken with datapath := r.datapath, bus := r.bus, lastBus := carried }
            ⟨moved.complete w, none,
              r.events ++ if w.has .oci then [.device (.command carried)] else []⟩

def stepCycle (m : Machine δ) : Transition δ :=
  let decoded := m.decodeStep
  match decoded.fault with
  | some _ => decoded
  | none =>
      let executed := decoded.machine.executeStep
      { executed with events := decoded.events ++ executed.events }

end Machine

end Microbus
