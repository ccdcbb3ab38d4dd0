import Microbus.ControlWord
import Microbus.Datapath

/-! # Events and transfers

Events are what the machine reports while it works, in the order in which they happen. A transfer
collects the nodes that were noted for one cycle: those that drive the bus and those that listen.
Carrying it out resolves the drivers, then the listeners, up to the first fault, and leaves no noted
node marked.
-/

namespace Microbus
set_option autoImplicit false

inductive Event where
  | cycleStart (counter : Nat) (word : ControlWord)
  | transfer (source : Option Node) (targets : List Node) (value : UInt8)
  | failure (fault : Fault)
  | halted
  | device (event : DeviceEvent)
  deriving DecidableEq

/-- The nodes noted for a cycle, in the order in which they were noted. -/
structure Transfer where
  drivers : List Node
  listeners : List Node
  deriving DecidableEq

structure Transfer.Outcome (δ : Type) where
  datapath : Datapath δ
  bus : Bus
  fault : Option Fault
  events : List Event

namespace Transfer

variable {δ : Type} [OutputDevice δ]

def none : Transfer := ⟨[], []⟩

def inUse (t : Transfer) : Bool := !t.drivers.isEmpty

def isIdle (t : Transfer) : Bool := t.drivers.isEmpty && t.listeners.isEmpty

def nodes (t : Transfer) : List Node := t.drivers ++ t.listeners

def noteDriver (t : Transfer) (d : Datapath δ) (n : Node) :
    Except Fault (Transfer × Datapath δ) :=
  (d.markTransmit n).map fun marked => ({ t with drivers := t.drivers ++ [n] }, marked)

def noteListener (t : Transfer) (d : Datapath δ) (n : Node) : Transfer × Datapath δ :=
  ({ t with listeners := t.listeners ++ [n] }, d.markReceive n)

def noteDrivers (t : Transfer) (d : Datapath δ) :
    List Node → Except Fault (Transfer × Datapath δ)
  | [] => .ok (t, d)
  | n :: ns =>
      match t.noteDriver d n with
      | .ok (t', d') => t'.noteDrivers d' ns
      | .error e => .error e

def noteListeners (t : Transfer) (d : Datapath δ) : List Node → Transfer × Datapath δ
  | [] => (t, d)
  | n :: ns =>
      let noted := t.noteListener d n
      noted.1.noteListeners noted.2 ns

def abort (t : Transfer) (d : Datapath δ) : Datapath δ := t.nodes.foldl Datapath.unmark d

/-- Resolves nodes in order, up to the first fault. -/
def resolveAll (d : Datapath δ) (bus : Bus) : List Node → Resolution (Datapath δ)
  | [] => ⟨d, bus, .none, []⟩
  | n :: ns =>
      let r := d.resolve n bus
      match r.fault with
      | .some _ => r
      | .none =>
          let rest := resolveAll r.part r.bus ns
          { rest with reports := r.reports ++ rest.reports }

def summary (t : Transfer) (bus : Bus) : Option Fault → List Event
  | .some e => [.failure e]
  | .none => if t.isIdle then [] else [.transfer t.drivers.head? t.listeners (bus.held.getD 0)]

/-- Carries a transfer out. The noted nodes are to be forgotten afterwards. -/
def execute (t : Transfer) (d : Datapath δ) (bus : Bus) : Outcome δ :=
  let r := resolveAll d bus t.nodes
  { datapath := t.abort r.part
    bus := r.bus
    fault := r.fault
    events := r.reports.map .device ++ t.summary r.bus r.fault }

end Transfer

end Microbus
