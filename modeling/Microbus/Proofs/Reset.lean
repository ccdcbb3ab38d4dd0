import Microbus.Output.Panel
import Microbus.Proofs.Cycle.Outcomes

/-! # Reset

A reset puts every part back to what it is at power-on: values, marks and whatever else a part
keeps. Nothing that is done to a machine changes its configuration, so that a reset always leads
back to the machine as it was built.
-/

namespace Microbus
set_option autoImplicit false

/-! ## Parts -/

theorem Register.reset_eq_holding {name : String} {readable : Bool} (r : Register name readable)
    (v : UInt8) : r.reset v = .holding v := rfl

theorem AluUnit.reset_eq_blank (u : AluUnit) : u.reset = .blank := rfl

theorem FlagRegister.reset_eq_blank (fr : FlagRegister) : fr.reset = .blank := rfl

theorem Ram.reset_eq_blank (r : Ram) : r.reset = .blank := rfl

section

variable {δ : Type} [OutputDevice δ]

theorem OutputPort.reset_eq_attach (p : OutputPort δ) :
    p.reset = .attach (OutputDevice.reset p.device) := rfl

theorem Datapath.reset_eq_powerOn (d : Datapath δ) (stackStart : UInt8) :
    d.reset stackStart = .powerOn stackStart (OutputDevice.reset d.port.device) := by
  simp only [reset, powerOn, Register.reset_eq_holding, AluUnit.reset_eq_blank,
    FlagRegister.reset_eq_blank, Ram.reset_eq_blank, OutputPort.reset_eq_attach]

namespace Machine

variable {m : Machine δ}

theorem reset_eq_powerOn (m : Machine δ) :
    m.reset = powerOn m.config (OutputDevice.reset m.device) := by
  simp only [reset, powerOn, Datapath.reset_eq_powerOn, device]

def transitions (m : Machine δ) : List Call → List (Transition δ)
  | [] => []
  | c :: cs => m.perform c :: (m.perform c).machine.transitions cs

end Machine

end

/-- Whatever was done to a machine, a reset makes it the machine that it was when it was built, and
nothing that is done to it afterwards can tell the two apart. -/
theorem Machine.reset_performAll (config : MachineConfig) (cs : List Call) :
    ((powerOn config Panel.blank).performAll cs).reset = powerOn config Panel.blank ∧
      ∀ later, ((powerOn config Panel.blank).performAll cs).reset.transitions later =
        (powerOn config Panel.blank).transitions later := by
  have hReset : ((powerOn config Panel.blank).performAll cs).reset = powerOn config Panel.blank := by
    rw [reset_eq_powerOn, config_performAll]
    rfl
  refine ⟨hReset, ?_⟩
  intro later
  rw [hReset]

end Microbus
