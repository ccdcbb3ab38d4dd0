import Microbus.Alu
import Microbus.FlagRegister
import Microbus.Memory.Ram
import Microbus.Node
import Microbus.Output.Port

/-! # The datapath

All storage of the machine. A node is reached through its slot, which knows the kind of part at
the node and how to read and replace it; marking and resolving a node is marking and resolving the
part in its slot.
-/

namespace Microbus
set_option autoImplicit false

structure Datapath (δ : Type) where
  a : Register "A" true
  b : Register "B" true
  x : Register "X" true
  sp : Register "SP" true
  ip : Register "IP" false
  op : Register "OP" true
  pc : Register "PC" true
  out : Register "OUT" false
  alu : AluUnit
  fr : FlagRegister
  ram : Ram
  port : OutputPort δ

namespace Datapath

variable {δ : Type}

def powerOn [OutputDevice δ] (stackStart : UInt8) (device : δ) : Datapath δ where
  a := .holding 0
  b := .holding 0
  x := .holding 0
  sp := .holding stackStart
  ip := .holding 0
  op := .holding 0
  pc := .holding 0
  out := .holding 0
  alu := .blank
  fr := .blank
  ram := .blank
  port := .attach device

def reset [OutputDevice δ] (d : Datapath δ) (stackStart : UInt8) : Datapath δ where
  a := d.a.reset 0
  b := d.b.reset 0
  x := d.x.reset 0
  sp := d.sp.reset stackStart
  ip := d.ip.reset 0
  op := d.op.reset 0
  pc := d.pc.reset 0
  out := d.out.reset 0
  alu := d.alu.reset
  fr := d.fr.reset
  ram := d.ram.reset
  port := d.port.reset

def memory (d : Datapath δ) : Memory := d.ram.memory

/-- The byte in a register, whether or not it can drive the bus. -/
def get (d : Datapath δ) : RegName → UInt8
  | .a => d.a.value
  | .b => d.b.value
  | .x => d.x.value
  | .sp => d.sp.value
  | .ip => d.ip.value
  | .op => d.op.value
  | .pc => d.pc.value
  | .alu => d.alu.value
  | .fr => d.fr.value
  | .out => d.out.value
  | .ma => d.ram.address.value
  | .oa => d.port.address.value

def set (d : Datapath δ) (r : RegName) (v : UInt8) : Datapath δ :=
  match r with
  | .a => { d with a := d.a.set v }
  | .b => { d with b := d.b.set v }
  | .x => { d with x := d.x.set v }
  | .sp => { d with sp := d.sp.set v }
  | .ip => { d with ip := d.ip.set v }
  | .op => { d with op := d.op.set v }
  | .pc => { d with pc := d.pc.set v }
  | .alu => { d with alu := d.alu.set v }
  | .fr => { d with fr := d.fr.set v }
  | .out => { d with out := d.out.set v }
  | .ma => { d with ram := { d.ram with address := d.ram.address.set v } }
  | .oa => { d with port := { d.port with address := d.port.address.set v } }

@[simp] theorem get_set (d : Datapath δ) (r s : RegName) (v : UInt8) :
    (d.set r v).get s = if r = s then v else d.get s := by
  cases r <;> cases s <;> rfl

/-- The part at a node, and how to reach it. -/
structure Slot (δ : Type) where
  Part : Type
  [isPart : LawfulBusPart Part]
  get : Datapath δ → Part
  put : Datapath δ → Part → Datapath δ

attribute [instance] Slot.isPart

variable [OutputDevice δ]

def slot : Node → Slot δ
  | .register .a => ⟨Register "A" true, Datapath.a, fun d p => { d with a := p }⟩
  | .register .b => ⟨Register "B" true, Datapath.b, fun d p => { d with b := p }⟩
  | .register .x => ⟨Register "X" true, Datapath.x, fun d p => { d with x := p }⟩
  | .register .sp => ⟨Register "SP" true, Datapath.sp, fun d p => { d with sp := p }⟩
  | .register .ip => ⟨Register "IP" false, Datapath.ip, fun d p => { d with ip := p }⟩
  | .register .op => ⟨Register "OP" true, Datapath.op, fun d p => { d with op := p }⟩
  | .register .pc => ⟨Register "PC" true, Datapath.pc, fun d p => { d with pc := p }⟩
  | .register .out => ⟨Register "OUT" false, Datapath.out, fun d p => { d with out := p }⟩
  | .register .alu => ⟨AluUnit, Datapath.alu, fun d p => { d with alu := p }⟩
  | .register .fr => ⟨FlagRegister, Datapath.fr, fun d p => { d with fr := p }⟩
  | .register .ma =>
      ⟨Register "MA" true, fun d => d.ram.address,
        fun d p => { d with ram := { d.ram with address := p } }⟩
  | .register .oa =>
      ⟨Register "OA" true, fun d => d.port.address,
        fun d p => { d with port := { d.port with address := p } }⟩
  | .memory => ⟨Ram, Datapath.ram, fun d p => { d with ram := p }⟩
  | .outputData => ⟨OutputPort δ, Datapath.port, fun d p => { d with port := p }⟩

def mark (d : Datapath δ) (n : Node) : Mark := BusPart.mark ((slot n).get d)

def isActing (d : Datapath δ) (n : Node) : Bool := BusPart.isActing ((slot n).get d)

def markTransmit (d : Datapath δ) (n : Node) : Except Fault (Datapath δ) :=
  (BusPart.markTransmit ((slot n).get d)).map ((slot n).put d)

def markReceive (d : Datapath δ) (n : Node) : Datapath δ :=
  (slot n).put d (BusPart.markReceive ((slot n).get d))

def unmark (d : Datapath δ) (n : Node) : Datapath δ :=
  (slot n).put d (BusPart.unmark ((slot n).get d))

def resolve (d : Datapath δ) (n : Node) (bus : Bus) : Resolution (Datapath δ) :=
  let r := BusPart.resolve ((slot n).get d) bus
  ⟨(slot n).put d r.part, r.bus, r.fault, r.reports⟩

def activeNodes (d : Datapath δ) : List Node := Node.all.filter d.isActing

end Datapath

end Microbus
