import Microbus.Proofs.Cycle.Word

/-! # What words do to the core

The core is what programs work on: the contents, the top of the stack and whether the machine
halted. What a control word does to the contents falls into two parts: `immediate` needs no bus and
happens when the word is decoded, `carry` follows the bus and happens when it is executed. Running
words up to a fault or a halt is a recursion over the list.
-/

namespace Microbus
set_option autoImplicit false

namespace Contents

variable {δ : Type}

def direct (c : Contents δ) (w : ControlWord) : Contents δ :=
  { c with
    register := fun
      | .pc => if w.has .ce then c.register .pc + 1 else c.register .pc
      | .x => if w.has .x1 then 1 else c.register .x
      | .sp =>
          let raised := if w.has .sp1 then c.register .sp + 1 else c.register .sp
          if w.has .sm1 then raised - 1 else raised
      | r => c.register r }

def arithmetic (c : Contents δ) (w : ControlWord) : UInt8 × Flags :=
  (AluMode.select w).compute (c.register .a) (c.register .x)

def immediate (c : Contents δ) (w : ControlWord) : Contents δ :=
  (c.direct w).set .alu ((c.direct w).arithmetic w).1

theorem sp_immediate (c : Contents δ) (w : ControlWord) : (c.immediate w).register .sp =
    match w.has .sp1, w.has .sm1 with
    | true, false => c.register .sp + 1
    | false, true => c.register .sp - 1
    | _, _ => c.register .sp := by
  have hSteps : (c.immediate w).register .sp =
      let raised := if w.has .sp1 then c.register .sp + 1 else c.register .sp
      if w.has .sm1 then raised - 1 else raised := rfl
  rw [hSteps]
  cases w.has .sp1 <;> cases w.has .sm1
  · rfl
  · rfl
  · rfl
  · exact UInt8.add_sub_cancel (c.register .sp) 1

/-- What a word puts on the bus, zero if nothing. -/
def busValue (c : Contents δ) (w : ControlWord) : UInt8 := (w.drivers.head?.map c.drive).getD 0

variable [OutputDevice δ]

/-- What executing a word does. The flags are those of the operation in front of the transfer. -/
def carry (c : Contents δ) (w : ControlWord) : Contents δ :=
  let moved := c.latchAll (c.busValue w) w.listeners
  let told :=
    if w.has .oci then { moved with device := OutputDevice.command moved.device (c.busValue w) }
    else moved
  if w.has .eo then told.set .fr (c.arithmetic w).2.toByte else told

def cycle (c : Contents δ) (w : ControlWord) : Contents δ := (c.immediate w).carry w

theorem register_carry (c : Contents δ) (w : ControlWord) {r : RegName} (hr : r ≠ .fr) :
    (c.carry w).register r = if .register r ∈ w.listeners then c.busValue w else c.register r := by
  rw [← register_latchAll]
  cases hEo : w.has .eo <;> cases hOci : w.has .oci <;> simp [carry, hEo, hOci, set, hr]

theorem memory_carry (c : Contents δ) (w : ControlWord) :
    (c.carry w).memory = (c.latchAll (c.busValue w) w.listeners).memory := by
  cases hEo : w.has .eo <;> cases hOci : w.has .oci <;> simp [carry, hEo, hOci, set]

theorem memory_carry_of_not_mem {w : ControlWord} (h : .memory ∉ w.listeners) (c : Contents δ) :
    (c.carry w).memory = c.memory := by
  rw [memory_carry, memory_latchAll h]

theorem memory_carry_of_eq {w : ControlWord} (h : w.listeners = [.memory]) (c : Contents δ) :
    (c.carry w).memory = c.memory.write (c.register .ma) (c.busValue w) := by
  rw [memory_carry, h]
  rfl

end Contents

structure Core (δ : Type) where
  contents : Contents δ
  stackTop : UInt8
  halted : Bool

namespace Core

variable {δ : Type}

def stackFault? (s : Core δ) (config : MachineConfig) (w : ControlWord) : Option Fault :=
  let sp := s.contents.register .sp
  if config.enforceBounds &&
      ((w.has .sm1 && decide (config.stackSize ≤ s.stackTop - sp)) ||
        (w.has .sp1 && sp == s.stackTop)) then
    some (.stackOverflow sp s.stackTop)
  else none

section

variable {s : Core δ} {config : MachineConfig} {w : ControlWord}

theorem stackFault?_eq_some_iff {e : Fault} :
    s.stackFault? config w = some e ↔ config.enforceBounds = true ∧
      (w.has .sm1 = true ∧ config.stackSize ≤ s.stackTop - s.contents.register .sp ∨
        w.has .sp1 = true ∧ s.contents.register .sp = s.stackTop) ∧
      e = .stackOverflow (s.contents.register .sp) s.stackTop := by
  simp only [stackFault?, Option.ite_none_right_eq_some, Bool.and_eq_true, Bool.or_eq_true,
    decide_eq_true_eq, beq_iff_eq, Option.some.injEq, eq_comm (a := e), and_assoc]

theorem stackFault?_eq_none_iff :
    s.stackFault? config w = none ↔ ¬ (config.enforceBounds = true ∧
      (w.has .sm1 = true ∧ config.stackSize ≤ s.stackTop - s.contents.register .sp ∨
        w.has .sp1 = true ∧ s.contents.register .sp = s.stackTop)) := by
  simp only [stackFault?, ite_eq_right_iff, Bool.and_eq_true, Bool.or_eq_true,
    decide_eq_true_eq, beq_iff_eq, reduceCtorEq, imp_false]

theorem stackFault?_of_still (s : Core δ) (config : MachineConfig) (hUp : w.has .sp1 = false)
    (hDown : w.has .sm1 = false) : s.stackFault? config w = none := by
  simp [stackFault?_eq_none_iff, hUp, hDown]

end

variable [OutputDevice δ]

def cycle (s : Core δ) (w : ControlWord) : Core δ where
  contents := s.contents.cycle w
  stackTop := if w.has .si then (s.contents.cycle w).register .sp else s.stackTop
  halted := s.halted

def run (s : Core δ) (config : MachineConfig) : List ControlWord → Core δ × Option Fault
  | [] => (s, none)
  | w :: ws =>
      if w.has .hlt then ({ s with halted := true }, none)
      else
        match s.stackFault? config w with
        | some e => (s, some e)
        | none => (s.cycle w).run config ws

section

variable {s : Core δ} {config : MachineConfig} {w : ControlWord} {ws : List ControlWord}

theorem run_cons_of_none (hHlt : w.has .hlt = false) (hFault : s.stackFault? config w = none) :
    s.run config (w :: ws) = (s.cycle w).run config ws := by
  simp [run, hHlt, hFault]

theorem run_cons_of_some {e : Fault} (hHlt : w.has .hlt = false)
    (hFault : s.stackFault? config w = some e) : s.run config (w :: ws) = (s, some e) := by
  simp [run, hHlt, hFault]

theorem run_eq_foldl (s : Core δ) (config : MachineConfig)
    (h : ∀ w ∈ ws, w.has .hlt = false ∧ w.has .sp1 = false ∧ w.has .sm1 = false) :
    s.run config ws = (ws.foldl cycle s, none) := by
  induction ws generalizing s with
  | nil => rfl
  | cons w ws ih =>
      obtain ⟨hHlt, hUp, hDown⟩ := h w List.mem_cons_self
      rw [run_cons_of_none hHlt (stackFault?_of_still s config hUp hDown)]
      exact ih (s.cycle w) fun v hv => h v (List.mem_cons_of_mem w hv)

end

end Core

end Microbus
