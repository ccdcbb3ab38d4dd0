import Microbus.Proofs.Instruction.Fetch

/-! # Instructions come to an end

The loop that carries an instruction out is stated here without a bound on its turns, as a relation.
Every turn raises the counter, ends the instruction, halts or fails, so that the turns are at most
those the counter has left. From an instruction boundary their number is that of the fetch and of
the micro-program.
-/

namespace Microbus
set_option autoImplicit false

variable {δ : Type} [OutputDevice δ]

namespace Machine

/-- The loop of an instruction: cycles while the machine is not halted, up to the first fault or the
first cycle that starts an instruction. `m.Finishes n m' fault` says that the loop, entered with `m`,
ends in its turn number `n`. -/
inductive Finishes : Machine δ → Nat → Machine δ → Option Fault → Prop
  | halted {m : Machine δ} (hHalted : m.halted = true) : Finishes m 0 m none
  | fails {m : Machine δ} {e : Fault} (hRun : m.halted = false)
      (hFault : m.stepCycle.fault = some e) : Finishes m 1 m.stepCycle.machine (some e)
  | ends {m : Machine δ} (hRun : m.halted = false) (hFault : m.stepCycle.fault = none)
      (hCounter : m.stepCycle.machine.counter = .first) : Finishes m 1 m.stepCycle.machine none
  | goesOn {m m' : Machine δ} {n : Nat} {fault : Option Fault} (hRun : m.halted = false)
      (hFault : m.stepCycle.fault = none) (hCounter : m.stepCycle.machine.counter ≠ .first)
      (hRest : Finishes m.stepCycle.machine n m' fault) : Finishes m (n + 1) m' fault

variable {m m' : Machine δ} {n : Nat}

theorem Finishes.stops {fault : Option Fault} (h : m.Finishes n m' fault) (hFault : fault = none) :
    m'.halted = true ∨ m'.counter = .first := by
  induction h with
  | halted hHalted => exact .inl hHalted
  | fails => cases hFault
  | ends _ _ hCounter => exact .inr hCounter
  | goesOn _ _ _ _ ih => exact ih hFault

/-- The loop ends within the turns that the counter has left, and a budget of so many is as good as
none. -/
theorem finishes_cyclesToBoundary (cycles : Nat) (past : List Event) (budget : Nat)
    (hBudget : 8 - m.counter.val ≤ budget) :
    ∃ n fault, m.Finishes n (m.cyclesToBoundary cycles past budget).machine fault ∧
      n ≤ 8 - m.counter.val ∧ (m.cyclesToBoundary cycles past budget).result =
        match fault with
        | some e => .error e
        | none => .ok (cycles + n) := by
  have hLeft : 0 < 8 - m.counter.val := by omega
  induction budget generalizing m cycles past with
  | zero => omega
  | succ budget ih =>
      cases hRun : m.halted with
      | true =>
          rw [cyclesToBoundary_of_halted hRun]
          exact ⟨0, none, .halted hRun, by omega, rfl⟩
      | false =>
          cases hFault : m.stepCycle.fault with
          | some e =>
              simp only [cyclesToBoundary, hRun, hFault, Bool.false_eq_true, if_false]
              exact ⟨1, some e, .fails hRun hFault, hLeft, rfl⟩
          | none =>
              by_cases hCounter : m.stepCycle.machine.counter = .first
              · simp only [cyclesToBoundary, hRun, hFault, hCounter, Bool.false_eq_true, if_false,
                  if_true]
                exact ⟨1, none, .ends hRun hFault hCounter, hLeft, rfl⟩
              · simp only [cyclesToBoundary, hRun, hFault, hCounter, Bool.false_eq_true, if_false]
                rcases counter_stepCycle hRun hFault with hHalted | hFirst | hNext
                · rw [cyclesToBoundary_of_halted hHalted]
                  exact ⟨1, none, .goesOn hRun hFault hCounter (.halted hHalted), hLeft, rfl⟩
                · exact absurd hFirst hCounter
                · obtain ⟨n, fault, hFinishes, hTurns, hResult⟩ :=
                    ih (m := m.stepCycle.machine) (cycles + 1)
                      (m.stepCycle.events.reverse ++ past) (by omega) (by omega)
                  refine ⟨n + 1, fault, .goesOn hRun hFault hCounter hFinishes, by omega, ?_⟩
                  rw [hResult, Nat.add_assoc, Nat.add_comm 1 n]

/-! ## The number of cycles -/

theorem Quiet.ends_stepInstruction (hm : m.Quiet) (hRun : m.halted = false)
    (hCounter : m.counter = .first) :
    Ends m.config (m.settled.core.fetched.run m.config m.settled.core.program)
      (4 + m.settled.core.program.length) m.stepInstruction := by
  have hCycles := hm.cycles_settled hRun hCounter
  have hVal : m.stepCycle.machine.counter.val = 1 := by
    rw [hCycles.counter]
    exact congrArg (fun s : MicroStep => s.next.val) hCounter
  have hRun' : m.stepCycle.machine.halted = false :=
    (congrArg Core.halted hCycles.core).trans hRun
  have hStart : m.stepInstruction =
      m.stepCycle.machine.cyclesToBoundary 1 (m.stepCycle.events.reverse ++ []) 7 := by
    have hNotFirst : m.stepCycle.machine.counter ≠ .first := ne_first_of_val_pos (by omega)
    simp [stepInstruction, cyclesToBoundary, hRun, hCycles.fault, hNotFirst]
  have hWords : fetchCycle.drop m.stepCycle.machine.counter.val = fetchCycle.drop 1 := by rw [hVal]
  have hEnds := ends_of_fetching hCycles.atRest hRun' hWords (by omega) 1
    (m.stepCycle.events.reverse ++ [])
  have hFetched : (fetchCycle.drop 1).foldl Core.cycle m.stepCycle.machine.core =
      m.settled.core.fetched := by
    rw [hCycles.core, Core.fetched_eq]
  have hConfig : m.stepCycle.machine.config = m.config := hCycles.config
  rw [hFetched, hConfig] at hEnds
  rw [hStart]
  exact hEnds

theorem Quiet.result_stepInstruction (hm : m.Quiet) (h : m.Fetches)
    (hOk : m.stepInstruction.result = .ok n) : ∃ m', m.Fetching 4 m' ∧
      m'.register .ip = m.memory.read (m.register .pc) ∧
      n = 4 + (microProgram (m'.register .ip) m'.flags).length := by
  obtain ⟨m', hFetching, hCore⟩ := hm.fetching h
  have hResult := (hm.ends_stepInstruction h.1 h.2).result
  refine ⟨m', hFetching, ?_, ?_⟩
  · have hIp : m'.register .ip = m.settled.core.fetched.contents.register .ip :=
      congrArg (fun s : Core δ => s.contents.register .ip) hCore
    exact hIp.trans (registers_fetched m.settled.core).2.1
  · have hProgram : microProgram (m'.register .ip) m'.flags = m.settled.core.program :=
      congrArg Core.chosen hCore
    rw [hOk] at hResult
    rw [hProgram]
    cases hOutcome : (m.settled.core.fetched.run m.config m.settled.core.program).2 with
    | some e =>
        rw [hOutcome] at hResult
        cases hResult
    | none =>
        rw [hOutcome] at hResult
        exact Except.ok.inj hResult

end Machine

end Microbus
