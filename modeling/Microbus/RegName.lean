/-! # Names of the registers

The twelve byte registers of the machine and the names by which text refers to them. Case does
not matter when a name is read; only ASCII letters have two cases here.
-/

namespace Microbus
set_option autoImplicit false

/-- The registers, in display order. -/
inductive RegName where
  | a
  | b
  | x
  | sp -- stack pointer
  | ip -- instruction register
  | op -- operand register
  | pc -- program counter
  | alu -- result of the arithmetic unit
  | fr -- flag register
  | out -- number display
  | ma -- memory address
  | oa -- output address
  deriving DecidableEq

namespace RegName

def all : List RegName := [a, b, x, sp, ip, op, pc, alu, fr, out, ma, oa]

def name : RegName → String
  | a => "A" | b => "B" | x => "X" | sp => "SP" | ip => "IP" | op => "OP" | pc => "PC"
  | alu => "ALU" | fr => "FR" | out => "OUT" | ma => "MA" | oa => "OA"

def ofName? (s : String) : Option RegName :=
  all.find? fun r => r.name.toList == s.toList.map Char.toUpper

theorem mem_all (r : RegName) : r ∈ all := by cases r <;> decide

end RegName

end Microbus
