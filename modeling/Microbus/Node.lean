import Microbus.RegName

/-! # Nodes of the bus

A node is a place where the bus can be driven or latched: a register, the memory cell selected by
the address register, or the data input of the output port.
-/

namespace Microbus
set_option autoImplicit false

inductive Node where
  | register (r : RegName)
  | memory
  | outputData
  deriving DecidableEq

namespace Node

def all : List Node := RegName.all.map register ++ [memory, outputData]

def name : Node → String
  | register r => r.name
  | memory => "MEM"
  | outputData => "OD"

def label : Node → String
  | register r => "Reg(" ++ r.name ++ ")"
  | memory => "Memory"
  | outputData => "OutputData"

theorem mem_all (n : Node) : n ∈ all := by
  cases n with
  | register r => cases r <;> decide
  | memory | outputData => decide

end Node

end Microbus
