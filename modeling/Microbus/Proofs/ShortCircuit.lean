import Microbus.Output.Panel
import Microbus.Proofs.Cycle.Sequence

/-! # No program brings the bus out of order

However decoding and executing halves follow each other, and whatever is loaded or written into
registers while no word waits, nothing drives the bus twice, reads it undriven or asks a part to
drive it that cannot. The only fault of a half is a stack pointer that would leave its region, and
it comes from decoding; a load fails only if its bytes do not fit.
-/

namespace Microbus.Machine
set_option autoImplicit false

variable {δ : Type} [OutputDevice δ]

/-- Halves at any time, and edits while no word waits. -/
def HalvesAndEdits (m : Machine δ) : Call → Prop
  | .decode | .execute => True
  | .setRegister _ _ | .loadProgram _ _ | .loadImage _ => m.word = none
  | _ => False

variable {m : Machine δ} {c : Call} {e : Fault}

theorem Sequenced.perform (h : m.Sequenced) (hAllowed : m.HalvesAndEdits c) :
    (m.perform c).machine.Sequenced := by
  cases c with
  | decode => exact h.decodeStep
  | execute => exact h.executeStep
  | setRegister r v => exact h.setRegister hAllowed r v
  | loadProgram bytes offset => exact (perform_load h h.setMemory).1 bytes offset
  | loadImage image => exact (perform_load h h.setMemory).2 image
  | _ => exact hAllowed.elim

/-- The faults that are left: the stack pointer leaves its region, or bytes do not fit. -/
def ExpectedFault (m : Machine δ) (e : Fault) : Call → Prop
  | .decode => m.config.enforceBounds = true ∧ e = .stackOverflow (m.register .sp) m.stackTop ∧
      (m.refreshProgram.selectWord.has .sp1 = true ∨ m.refreshProgram.selectWord.has .sm1 = true)
  | .loadProgram bytes offset => 256 - offset.toNat < bytes.length ∧
      e = .sizeMismatch (256 - offset.toNat) bytes.length
  | .loadImage image => image.length ≠ 256 ∧ e = .sizeMismatch 256 image.length
  | _ => False

theorem Sequenced.expectedFault (h : m.Sequenced) (hAllowed : m.HalvesAndEdits c)
    (hFault : (m.perform c).fault = some e) : m.ExpectedFault e c := by
  cases c with
  | decode =>
      cases hRun : m.halted with
      | true => simp [Machine.perform, decodeStep_of_halted hRun] at hFault
      | false =>
          rcases h.decodeStep_cases hRun with ⟨-, hNone, -⟩ | ⟨e', hStack, hRefuses⟩ | ⟨-, hDecodes⟩
          · simp [Machine.perform, hNone] at hFault
          · obtain rfl : e' = e := by
              simpa [Machine.perform, hRefuses.fault] using hFault
            obtain ⟨hBounds, hMoves, rfl⟩ := Core.stackFault?_eq_some_iff.mp hStack
            exact ⟨hBounds, rfl, hMoves.symm.imp And.left And.left⟩
          · simp [Machine.perform, hDecodes.fault] at hFault
  | execute =>
      rcases h.executeStep_cases with ⟨-, hEq⟩ | ⟨-, -, hExecutes⟩
      · simp [Machine.perform, hEq] at hFault
      · simp [Machine.perform, hExecutes.fault] at hFault
  | setRegister r v => cases hFault
  | loadProgram bytes offset =>
      rw [perform_loadProgram] at hFault
      split at hFault
      · cases hFault
      · next hSize => exact ⟨Nat.lt_of_not_le hSize, (Option.some.inj hFault).symm⟩
  | loadImage image =>
      rw [perform_loadImage] at hFault
      split at hFault
      · cases hFault
      · next hSize => exact ⟨hSize, (Option.some.inj hFault).symm⟩
  | _ => exact hAllowed.elim

/-- From power-on, whatever halves and edits came before, a failing call is a decoding half whose
word would move the stack pointer out of its region, the bounds being enforced, or a load whose
bytes do not fit. So no short circuit, no read of an undriven bus and no forbidden read ever
happens, and without bounds no half fails. -/
theorem expectedFault_of_reaches {config : MachineConfig} {device : δ}
    (h : Reaches HalvesAndEdits (powerOn config device) m) (hAllowed : m.HalvesAndEdits c)
    (hFault : (m.perform c).fault = some e) :
    m.config = config ∧ m.ExpectedFault e c := by
  have hInv : m.Sequenced ∧ m.config = config := by
    refine h.induct (P := fun m => m.Sequenced ∧ m.config = config)
      ⟨sequenced_powerOn config device, rfl⟩ ?_
    rintro m c ⟨hSequenced, hConfig⟩ hAllowed
    exact ⟨hSequenced.perform hAllowed, (config_call m c).trans hConfig⟩
  exact ⟨hInv.2, hInv.1.expectedFault hAllowed hFault⟩

def beforePop : Machine Panel :=
  (loaded {} Panel.blank [0xb1, 0]).performAll
    [.decode, .execute, .decode, .execute, .decode, .execute, .decode, .execute]

theorem expectedFault_beforePop :
    (beforePop.perform .decode).fault = some (.stackOverflow 0xff 0xff) ∧
      beforePop.config = {} ∧ beforePop.ExpectedFault (.stackOverflow 0xff 0xff) .decode := by
  have hLoaded : Reaches HalvesAndEdits (powerOn {} Panel.blank)
      (loaded {} Panel.blank [0xb1, 0]) := reaches_loaded rfl (by decide)
  have hReaches : Reaches HalvesAndEdits (powerOn {} Panel.blank) beforePop :=
    hLoaded.performAll (by simp [HalvesAndEdits])
  exact ⟨rfl, expectedFault_of_reaches hReaches trivial rfl⟩

/-- A load is a call that can fail without bounds. -/
theorem not_forall_fault_eq_none : ¬ ∀ (m : Machine Panel) (c : Call),
    Reaches HalvesAndEdits (powerOn { enforceBounds := false } Panel.blank) m →
      m.HalvesAndEdits c → (m.perform c).fault = none := by
  intro h
  have hNone := h _ (.loadImage [0]) .start rfl
  cases hNone

end Microbus.Machine
