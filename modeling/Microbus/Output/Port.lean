import Microbus.Output.Device
import Microbus.Register

/-! # The output port

The end of the output bus inside the machine: the output address register and the data input that
hands every byte it takes to the device. The data input can only listen.
-/

namespace Microbus
set_option autoImplicit false

structure OutputPort (δ : Type) where
  address : Register "OA" true
  mark : Mark
  device : δ

namespace OutputPort

variable {δ : Type} [OutputDevice δ]

def attach (device : δ) : OutputPort δ := ⟨.holding 0, .idle, device⟩

def command (p : OutputPort δ) (v : UInt8) : OutputPort δ :=
  { p with device := OutputDevice.command p.device v }

def send (p : OutputPort δ) (v : UInt8) : OutputPort δ :=
  { p with device := OutputDevice.data p.device p.address.value v }

def noticed (p : OutputPort δ) (v : UInt8) : List DeviceEvent :=
  .data p.address.value v ::
    if OutputDevice.claims p.device p.address.value then [] else [.unclaimed p.address.value v]

instance : BusPart (OutputPort δ) where
  mark := OutputPort.mark
  setMark p m := { p with mark := m }
  refusal _ := some "OD"
  drive p := p.address.value
  latch := send
  report := noticed

instance : LawfulBusPart (OutputPort δ) where
  mark_setMark _ _ := rfl
  setMark_setMark _ _ _ := rfl
  setMark_mark _ := rfl
  mark_latch _ _ := rfl
  mark_settle _ := rfl
  refusal_setMark _ _ := rfl
  drive_setMark _ _ := rfl

def reset (p : OutputPort δ) : OutputPort δ :=
  BusPart.unmark { p with address := p.address.reset 0, device := OutputDevice.reset p.device }

end OutputPort

end Microbus
