import Microbus.Microcode
import Microbus.Transfer

/-! # The machine

The datapath with the bus and the control unit that sequences it. The control unit counts the words
of an instruction with three bits: the first steps fetch the instruction, and in the step behind
them its micro-program is chosen.
-/

namespace Microbus
set_option autoImplicit false

abbrev MicroStep := Fin 8

namespace MicroStep

def first : MicroStep := ⟨0, by decide⟩

/-- The step in which the fetched opcode selects its micro-program. -/
def dispatch : MicroStep := ⟨4, by decide⟩

def next (s : MicroStep) : MicroStep := ⟨(s.val + 1) % 8, Nat.mod_lt _ (by decide)⟩

theorem val_dispatch : dispatch.val = fetchCycle.length := rfl

end MicroStep

/-- The stack pointer at power-on, the bytes that the stack may hold, and whether a stack pointer
that leaves its region is a fault. -/
structure MachineConfig where
  stackStart : UInt8 := 0xff
  stackSize : UInt8 := 16
  enforceBounds : Bool := true
  deriving DecidableEq

/-- The machine in front of a device. The word is the one that was decoded and waits, `lastBus` is
what the bus carried in the last executed cycle, or zero, and `stackTop` the stack pointer of an
empty stack. -/
structure Machine (δ : Type) where
  datapath : Datapath δ
  bus : Bus
  transfer : Transfer
  counter : MicroStep
  halted : Bool
  program : List ControlWord
  word : Option ControlWord
  lastBus : UInt8
  stackTop : UInt8
  config : MachineConfig

/-- A machine after a step, the fault if the step failed, and what happened. -/
structure Transition (δ : Type) where
  machine : Machine δ
  fault : Option Fault
  events : List Event

structure Progress (δ : Type) where
  machine : Machine δ
  result : Except Fault Nat
  events : List Event

namespace Machine

variable {δ : Type} [OutputDevice δ]

def powerOn (config : MachineConfig) (device : δ) : Machine δ where
  datapath := .powerOn config.stackStart device
  bus := .idle
  transfer := .none
  counter := .first
  halted := false
  program := []
  word := none
  lastBus := 0
  stackTop := config.stackStart
  config := config

def reset (m : Machine δ) : Machine δ :=
  { m with
    datapath := m.datapath.reset m.config.stackStart
    bus := .idle
    transfer := .none
    counter := .first
    halted := false
    program := []
    word := none
    lastBus := 0
    stackTop := m.config.stackStart }

def resetEvents : List Event := [.device .reset]

def register (m : Machine δ) (r : RegName) : UInt8 := m.datapath.get r

def setRegister (m : Machine δ) (r : RegName) (v : UInt8) : Machine δ :=
  { m with datapath := m.datapath.set r v }

def flags (m : Machine δ) : Flags := m.datapath.fr.flags

def memory (m : Machine δ) : Memory := m.datapath.memory

def setMemory (m : Machine δ) (cells : Memory) : Machine δ :=
  { m with datapath := { m.datapath with ram := { m.datapath.ram with memory := cells } } }

def loadImage (m : Machine δ) (image : List UInt8) : Except Fault (Machine δ) :=
  (m.memory.loadImage image).map m.setMemory

def loadProgram (m : Machine δ) (bytes : List UInt8) (offset : UInt8) :
    Except Fault (Machine δ) :=
  (m.memory.loadAt bytes offset).map m.setMemory

def device (m : Machine δ) : δ := m.datapath.port.device

def render (m : Machine δ) : String := OutputDevice.render m.device

def activeNodes (m : Machine δ) : List Node := m.datapath.activeNodes

end Machine

end Microbus
