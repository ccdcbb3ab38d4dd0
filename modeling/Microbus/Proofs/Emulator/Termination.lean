import Microbus.Output.Panel
import Microbus.Proofs.Instruction.Termination
import Microbus.Proofs.Marks

/-! # Single steps come to an end

The loop that steps an emulator through an instruction, as a relation without a bound on its turns.
It ends in every state of the emulator, also if that state and the machine disagree about a halt.
The main statement says so of machine and emulator together.
-/

namespace Microbus
set_option autoImplicit false

variable {δ : Type} [OutputDevice δ]

namespace Emulator

def Rests (e : Emulator δ) : Prop := e.state = .halted ∨ e.machine.counter = .first

/-- The loop of a step: cycles up to the first failure or the first one behind which the emulator is
halted or in front of an instruction. `e.Finishes n o` says that the loop, entered with `e`, ends in
its turn number `n`. -/
inductive Finishes : Emulator δ → Nat → Outcome δ Unit → Prop
  | fails {e : Emulator δ} {err : RunError} (hResult : e.microstep.result = .error err) :
      Finishes e 1 e.microstep
  | ends {e : Emulator δ} (hResult : e.microstep.result = .ok ())
      (hRests : e.microstep.emulator.Rests) : Finishes e 1 e.microstep
  | goesOn {e : Emulator δ} {n : Nat} {o : Outcome δ Unit} (hResult : e.microstep.result = .ok ())
      (hMoves : ¬ e.microstep.emulator.Rests) (hRest : Finishes e.microstep.emulator n o) :
      Finishes e (n + 1) o

variable {e : Emulator δ}

theorem Finishes.rests {n : Nat} {o : Outcome δ Unit} (h : e.Finishes n o)
    (hOk : o.result = .ok ()) : o.emulator.Rests := by
  induction h with
  | fails hResult =>
      rw [hResult] at hOk
      cases hOk
  | ends _ hRests => exact hRests
  | goesOn _ _ _ ih => exact ih hOk

theorem rests_or_counter_microstep (hOk : e.microstep.result = .ok ()) :
    e.microstep.emulator.Rests ∨
      e.microstep.emulator.machine.counter.val = e.machine.counter.val + 1 := by
  rcases e.microstep_cases with ⟨hState, hStep⟩ | ⟨-, e', hAdvances, hStep⟩ |
    ⟨-, e', cause, -, hStep⟩
  · rw [hStep]
    exact .inl (.inl hState)
  · rw [hStep]
    have hHalted : e.machine.next.halted = true → e'.state = .halted := by
      intro h
      rw [hAdvances.state, if_pos h]
    cases hRun : e.machine.halted with
    | true =>
        refine .inl (.inl (hHalted ?_))
        rw [Machine.next, Machine.stepCycle_of_halted hRun]
        exact hRun
    | false =>
        simp only [Rests, hAdvances.machine]
        rcases Machine.counter_stepCycle hRun hAdvances.fault with h | h | h
        · exact .inl (.inl (hHalted h))
        · exact .inl (.inr h)
        · exact .inr h
  · rw [hStep] at hOk
    cases hOk

theorem finishes_microstepsToBoundary (budget : Nat) (hBudget : 8 - e.machine.counter.val ≤ budget) :
    ∃ n ≤ 8 - e.machine.counter.val, e.Finishes n (e.microstepsToBoundary budget) := by
  induction budget generalizing e with
  | zero => omega
  | succ budget ih =>
      have hLeft : 1 ≤ 8 - e.machine.counter.val := by omega
      cases hResult : e.microstep.result with
      | error err =>
          have hEnd : e.microstepsToBoundary (budget + 1) = e.microstep := by
            simp only [microstepsToBoundary, hResult]
          rw [hEnd]
          exact ⟨1, hLeft, .fails hResult⟩
      | ok =>
          by_cases hRests : e.microstep.emulator.Rests
          · have hEnd : e.microstepsToBoundary (budget + 1) = e.microstep := by
              simp only [microstepsToBoundary, hResult]
              exact if_pos hRests
            rw [hEnd]
            exact ⟨1, hLeft, .ends hResult hRests⟩
          · have hRest : e.microstepsToBoundary (budget + 1) =
                e.microstep.emulator.microstepsToBoundary budget := by
              simp only [microstepsToBoundary, hResult]
              exact if_neg hRests
            have hNext := (rests_or_counter_microstep hResult).resolve_left hRests
            obtain ⟨n, hTurns, hFinishes⟩ := ih (e := e.microstep.emulator) (by omega)
            rw [hRest]
            exact ⟨n + 1, by omega, .goesOn hResult hRests hFinishes⟩

end Emulator

open Machine

/-- Behind any calls, whatever words were issued and whatever micro-program is left over, the loop
of an instruction ends within the turns that the counter has left: at a fault, halted, or in front
of an instruction. From a boundary without a waiting word, an instruction that ends well takes four
cycles and one for each word that its opcode selects under the flags behind the fetch. Any emulator
ends its step in the same way. -/
theorem instruction_finishes (config : MachineConfig) (device : δ) (cs : List Call) :
    let m := (powerOn config device).performAll cs
    (∃ n fault, m.Finishes n m.stepInstruction.machine fault ∧ n ≤ 8 - m.counter.val ∧
      m.stepInstruction.result = (match fault with
        | some e => .error e
        | none => .ok n) ∧
      (fault = none → m.stepInstruction.machine.halted = true ∨
        m.stepInstruction.machine.counter = .first)) ∧
    (∀ n, m.Fetches → m.word = none → m.stepInstruction.result = .ok n →
      let fetched := Machine.next^[4] m
      fetched.register .ip = m.memory.read (m.register .pc) ∧
        n = 4 + (microProgram (fetched.register .ip) fetched.flags).length ∧ 5 ≤ n ∧ n ≤ 7) ∧
    ∀ e : Emulator δ, ∃ n ≤ 8 - e.machine.counter.val, e.Finishes n e.stepInstruction ∧
      (e.stepInstruction.result = .ok () → e.stepInstruction.emulator.state = .halted ∨
        e.stepInstruction.emulator.machine.counter = .first) := by
  intro m
  have hm : m.WellMarked := (wellMarked_powerOn config device).performAll cs
  refine ⟨?_, ?_, ?_⟩
  · obtain ⟨n, fault, hFinishes, hTurns, hResult⟩ :=
      m.finishes_cyclesToBoundary 0 [] 8 (Nat.sub_le ..)
    rw [Nat.zero_add] at hResult
    exact ⟨n, fault, hFinishes, hTurns, hResult, hFinishes.stops⟩
  · intro n hFetches hWord hOk
    obtain ⟨m', hFetching, hIp, hLength⟩ :=
      (hm.quiet hWord).result_stepInstruction hFetches hOk
    have hMost := length_microProgram_le (m'.register .ip) m'.flags
    have hLeast : 1 ≤ (microProgram (m'.register .ip) m'.flags).length := by
      rw [microProgram, length_closeProgram]
      omega
    simp only [← hFetching.walks.machine]
    exact ⟨hIp, hLength, by omega, by omega⟩
  · intro e
    obtain ⟨n, hTurns, hFinishes⟩ := e.finishes_microstepsToBoundary 8 (Nat.sub_le ..)
    exact ⟨n, hTurns, hFinishes, hFinishes.rests⟩

theorem instruction_finishes_addMemory :
    let m := loaded {} Panel.blank [0x32, 0]
    m.stepInstruction.result = .ok 7 ∧
      7 = 4 + (microProgram 0x32 (Machine.next^[4] m).flags).length ∧
      (m.stepInstruction.machine.halted = true ∨ m.stepInstruction.machine.counter = .first) ∧
      ((Emulator.ofMachine m none (.opened none)).stepInstruction.emulator.state = .halted ∨
        (Emulator.ofMachine m none
          (.opened none)).stepInstruction.emulator.machine.counter = .first) := by
  have hLoaded : (powerOn {} Panel.blank).performAll [.loadProgram [0x32, 0] 0] =
      loaded {} Panel.blank [0x32, 0] := by
    simp only [performAll, List.foldl_cons, List.foldl_nil, perform_loadProgram]
    rfl
  have hAll := instruction_finishes {} Panel.blank [.loadProgram [0x32, 0] 0]
  simp only [hLoaded] at hAll ⊢
  generalize hm : loaded {} Panel.blank [0x32, 0] = m at hAll ⊢
  have hOk : m.stepInstruction.result = .ok 7 := by
    rw [← hm]
    rfl
  have hFetches : m.Fetches ∧ m.word = none ∧ m.memory.read (m.register .pc) = 0x32 := by
    rw [← hm]
    exact ⟨⟨rfl, rfl⟩, rfl, rfl⟩
  have hStep : (Emulator.ofMachine m none (.opened none)).stepInstruction.result = .ok () := by
    rw [← hm]
    rfl
  obtain ⟨⟨n, fault, -, -, hResult, hStops⟩, hLength, hEmulator⟩ := hAll
  obtain ⟨hIp, hCycles, -, -⟩ := hLength 7 hFetches.1 hFetches.2.1 hOk
  obtain ⟨-, -, -, hRests⟩ := hEmulator (.ofMachine m none (.opened none))
  have hFault : fault = none := by
    cases fault with
    | none => rfl
    | some e => cases hOk.symm.trans hResult
  rw [hIp, hFetches.2.2] at hCycles
  exact ⟨hOk, hCycles, hStops hFault, hRests hStep⟩

end Microbus
