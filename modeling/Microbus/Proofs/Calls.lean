import Microbus.Machine.Run

/-! # Calls on the machine

Everything that can be done to a machine from outside, as data, and the states that sequences of
calls lead to. Which calls are allowed may depend on the state in which they are made.
-/

namespace Microbus
set_option autoImplicit false

inductive Call where
  | decode
  | execute
  | issue (w : ControlWord)
  | cycle
  | instruction
  | run (maxCycles : Nat)
  | setRegister (r : RegName) (v : UInt8)
  | loadProgram (bytes : List UInt8) (offset : UInt8)
  | loadImage (image : List UInt8)
  | reset

namespace Machine

variable {δ : Type} [OutputDevice δ]

def loading (m : Machine δ) : Except Fault (Machine δ) → Transition δ
  | .ok loaded => ⟨loaded, none, []⟩
  | .error e => ⟨m, some e, []⟩

def running (p : Progress δ) : Transition δ :=
  ⟨p.machine, match p.result with | .ok _ => none | .error e => some e, p.events⟩

def perform (m : Machine δ) : Call → Transition δ
  | .decode => m.decodeStep
  | .execute => m.executeStep
  | .issue w => m.issue w
  | .cycle => m.stepCycle
  | .instruction => running m.stepInstruction
  | .run maxCycles => running (m.runUntilHalt maxCycles)
  | .setRegister r v => ⟨m.setRegister r v, none, []⟩
  | .loadProgram bytes offset => m.loading (m.loadProgram bytes offset)
  | .loadImage image => m.loading (m.loadImage image)
  | .reset => ⟨m.reset, none, resetEvents⟩

/-- A load replaces cells or, if its bytes do not fit, changes nothing at all. -/
theorem perform_loadProgram (m : Machine δ) (bytes : List UInt8) (offset : UInt8) :
    m.perform (.loadProgram bytes offset) =
      if bytes.length ≤ 256 - offset.toNat then
        ⟨m.setMemory (m.memory.writeAll offset bytes), none, []⟩
      else ⟨m, some (.sizeMismatch (256 - offset.toNat) bytes.length), []⟩ := by
  by_cases h : bytes.length ≤ 256 - offset.toNat <;>
    simp [perform, loading, loadProgram, Memory.loadAt, Memory.size, Except.map, h]

theorem perform_loadImage (m : Machine δ) (image : List UInt8) :
    m.perform (.loadImage image) =
      if image.length = 256 then ⟨m.setMemory (m.memory.writeAll 0 image), none, []⟩
      else ⟨m, some (.sizeMismatch 256 image.length), []⟩ := by
  by_cases h : image.length = 256 <;>
    simp [perform, loading, loadImage, Memory.loadImage, Memory.size, Except.map, h]

theorem perform_load {P : Machine δ → Prop} {m : Machine δ} (h : P m)
    (hCells : ∀ cells, P (m.setMemory cells)) :
    (∀ bytes offset, P (m.perform (.loadProgram bytes offset)).machine) ∧
      ∀ image, P (m.perform (.loadImage image)).machine := by
  constructor
  · intro bytes offset
    rw [perform_loadProgram]
    split
    · exact hCells _
    · exact h
  · intro image
    rw [perform_loadImage]
    split
    · exact hCells _
    · exact h

theorem machine_stepCycle (m : Machine δ) : m.stepCycle.machine = m.decodeStep.machine ∨
    m.stepCycle.machine = m.decodeStep.machine.executeStep.machine := by
  cases hFault : m.decodeStep.fault with
  | none => exact .inr (by simp [stepCycle, hFault])
  | some e => exact .inl (by simp [stepCycle, hFault])

section

variable {P : Machine δ → Prop} (hCycle : ∀ m, P m → P m.stepCycle.machine)

include hCycle

theorem cyclesToBoundary_induct {m : Machine δ} (h : P m) (cycles : Nat) (past : List Event)
    (budget : Nat) : P (m.cyclesToBoundary cycles past budget).machine := by
  induction budget generalizing m cycles past with
  | zero => exact h
  | succ budget ih =>
      have hNext := hCycle m h
      simp only [cyclesToBoundary]
      split
      · exact h
      · split
        · exact hNext
        · split
          · exact hNext
          · exact ih hNext _ _

theorem cyclesToHalt_induct {m : Machine δ} (h : P m) (cycles : Nat) (past : List Event)
    (budget : Nat) : P (m.cyclesToHalt cycles past budget).machine := by
  induction budget generalizing m cycles past with
  | zero => exact h
  | succ budget ih =>
      have hNext := hCycle m h
      simp only [cyclesToHalt]
      split
      · exact h
      · split
        · exact hNext
        · exact ih hNext _ _

end

/-- What the two halves keep, cycles and runs keep. -/
theorem perform_halves {P : Machine δ → Prop} {m : Machine δ} (h : P m)
    (hDecode : ∀ m, P m → P m.decodeStep.machine)
    (hExecute : ∀ m, P m → P m.executeStep.machine) :
    P (m.perform .cycle).machine ∧ P (m.perform .instruction).machine ∧
      ∀ maxCycles, P (m.perform (.run maxCycles)).machine := by
  have hCycle : ∀ m, P m → P m.stepCycle.machine := by
    intro m h
    rcases machine_stepCycle m with hEq | hEq
    · exact hEq ▸ hDecode m h
    · exact hEq ▸ hExecute _ (hDecode m h)
  exact ⟨hCycle m h, cyclesToBoundary_induct hCycle h 0 [] 8,
    cyclesToHalt_induct hCycle h 0 []⟩

def performAll (m : Machine δ) (cs : List Call) : Machine δ :=
  cs.foldl (fun m c => (m.perform c).machine) m

def loaded (config : MachineConfig) (device : δ) (bytes : List UInt8) : Machine δ :=
  (powerOn config device).setMemory (Memory.zero.writeAll 0 bytes)

/-- The states that allowed calls lead to. -/
inductive Reaches (Allowed : Machine δ → Call → Prop) (m₀ : Machine δ) : Machine δ → Prop
  | start : Reaches Allowed m₀ m₀
  | call {m : Machine δ} {c : Call} : Reaches Allowed m₀ m → Allowed m c →
      Reaches Allowed m₀ (m.perform c).machine

section

variable {Allowed : Machine δ → Call → Prop} {m₀ m : Machine δ}

theorem Reaches.induct {P : Machine δ → Prop} (h : Reaches Allowed m₀ m) (hStart : P m₀)
    (hCall : ∀ m c, P m → Allowed m c → P (m.perform c).machine) : P m := by
  induction h with
  | start => exact hStart
  | call _ hAllowed ih => exact hCall _ _ ih hAllowed

theorem Reaches.performAll (h : Reaches Allowed m₀ m) {cs : List Call}
    (hCalls : ∀ m, ∀ c ∈ cs, Allowed m c) : Reaches Allowed m₀ (m.performAll cs) := by
  induction cs generalizing m with
  | nil => exact h
  | cons c cs ih =>
      exact ih (h.call (hCalls m c List.mem_cons_self))
        fun m d hd => hCalls m d (List.mem_cons_of_mem c hd)

theorem reaches_loaded {config : MachineConfig} {device : δ} {bytes : List UInt8}
    (hAllowed : Allowed (powerOn config device) (.loadProgram bytes 0))
    (hSize : bytes.length ≤ 256) :
    Reaches Allowed (powerOn config device) (loaded config device bytes) := by
  have hStart : Reaches Allowed (powerOn config device) (powerOn config device) := .start
  have hLoad := hStart.call hAllowed
  rwa [perform_loadProgram, if_pos (by simpa using hSize)] at hLoad

end

end Machine

end Microbus
