import Microbus.Machine.Run
import Microbus.Proofs.Cycle.Whole

/-! # An instruction as a run of words

From an instruction boundary the machine carries out the four words of the fetch and then the
micro-program that the fetched byte selects under the flags. Main statement: the instruction ends
as the recursion over those words does, at rest in front of the next instruction unless it halted.
-/

namespace Microbus
set_option autoImplicit false

namespace Core

variable {δ : Type} [OutputDevice δ]

def fetched (s : Core δ) : Core δ := fetchCycle.foldl cycle s

theorem fetched_eq (s : Core δ) :
    s.fetched = (fetchCycle.drop 1).foldl cycle (s.cycle (.ofList [.co, .mai])) := by
  simp only [fetched, fetchCycle, List.drop_succ_cons, List.drop_zero, List.foldl_cons]

def chosen (s : Core δ) : List ControlWord :=
  microProgram (s.contents.register .ip) (.ofByte (s.contents.register .fr))

def program (s : Core δ) : List ControlWord :=
  microProgram (s.fetched.contents.register .ip) (.ofByte (s.fetched.contents.register .fr))

end Core

namespace Machine

variable {δ : Type} [OutputDevice δ]

/-- A run of cycles ends with the given core, and with the given fault or number of cycles. -/
structure Ends (config : MachineConfig) (outcome : Core δ × Option Fault) (cycles : Nat)
    (p : Progress δ) : Prop where
  core : p.machine.core = outcome.1
  result : p.result = match outcome.2 with
    | some e => .error e
    | none => .ok cycles
  atRest : p.machine.halted = false → p.machine.AtRest
  counter : p.machine.halted = false → outcome.2 = none → p.machine.counter = .first
  config : p.machine.config = config

theorem cyclesToBoundary_of_halted {m : Machine δ} (h : m.halted = true) (cycles : Nat)
    (past : List Event) (budget : Nat) :
    m.cyclesToBoundary cycles past budget = ⟨m, .ok cycles, past.reverse⟩ := by
  cases budget with
  | zero => rfl
  | succ budget => simp [cyclesToBoundary, h]

theorem val_next {s : MicroStep} (h : s.val + 1 < 8) : s.next.val = s.val + 1 :=
  Nat.mod_eq_of_lt h

theorem ne_first_of_val_pos {s : MicroStep} (h : 0 < s.val) : s ≠ .first := by
  rintro rfl
  exact absurd h (by decide)

variable {m : Machine δ} {w : ControlWord}

theorem cyclesToBoundary_of_cycles (hRun : m.halted = false) (h : m.Cycles w m.stepCycle)
    (hCounter : m.stepCycle.machine.counter ≠ .first) (cycles : Nat) (past : List Event)
    (budget : Nat) :
    m.cyclesToBoundary cycles past (budget + 1) = m.stepCycle.machine.cyclesToBoundary (cycles + 1)
      (m.stepCycle.events.reverse ++ past) budget := by
  simp [cyclesToBoundary, hRun, h.fault, hCounter]

theorem ends_of_refuses {e : Fault} (hRun : m.halted = false)
    (h : m.refreshProgram.Refuses e m.stepCycle) (cycles n : Nat) (past : List Event)
    (budget : Nat) :
    Ends m.config (m.core, some e) n (m.cyclesToBoundary cycles past (budget + 1)) := by
  have hEnd : m.cyclesToBoundary cycles past (budget + 1) =
      ⟨m.stepCycle.machine, .error e, (m.stepCycle.events.reverse ++ past).reverse⟩ := by
    simp [cyclesToBoundary, hRun, h.fault]
  have hCore : m.stepCycle.machine.core = m.core := by
    rw [core, h.contents, h.control.stackTop, h.control.halted, ← core_refreshProgram]
    rfl
  rw [hEnd]
  exact ⟨hCore, rfl, fun _ => h.atRest, by simp,
    h.control.config.trans (config_refreshProgram m)⟩

theorem ends_of_halt (hRun : m.halted = false) (hWord : m.refreshProgram.selectWord = w)
    (hHlt : w.has .hlt = true) (cycles : Nat) (past : List Event) (budget : Nat) :
    Ends m.config ({ m.core with halted := true }, none) (cycles + 1)
      (m.cyclesToBoundary cycles past (budget + 1)) := by
  obtain ⟨hFault, hCore, hConfig⟩ := stepCycle_of_halt hRun hWord hHlt
  have hHalted : m.stepCycle.machine.halted = true := congrArg Core.halted hCore
  have hEnd : m.cyclesToBoundary cycles past (budget + 1) =
      ⟨m.stepCycle.machine, .ok (cycles + 1), (m.stepCycle.events.reverse ++ past).reverse⟩ := by
    simp [cyclesToBoundary, hRun, hFault, cyclesToBoundary_of_halted hHalted]
  rw [hEnd]
  exact ⟨hCore, rfl, by simp [hHalted], by simp [hHalted], hConfig⟩

theorem ends_of_last (hRun : m.halted = false) (h : m.Cycles w m.stepCycle)
    (hMsr : w.has .msr = true) (cycles : Nat) (past : List Event) (budget : Nat) :
    Ends m.config (m.core.cycle w, none) (cycles + 1)
      (m.cyclesToBoundary cycles past (budget + 1)) := by
  have hCounter : m.stepCycle.machine.counter = .first := by rw [h.counter, if_pos hMsr]
  have hEnd : m.cyclesToBoundary cycles past (budget + 1) =
      ⟨m.stepCycle.machine, .ok (cycles + 1), (m.stepCycle.events.reverse ++ past).reverse⟩ := by
    simp [cyclesToBoundary, hRun, h.fault, hCounter]
  rw [hEnd]
  exact ⟨h.core, rfl, fun _ => h.atRest, fun _ _ => hCounter, h.config⟩

theorem ends_of_cycle {ws : List ControlWord} {n : Nat} (hm : m.AtRest) (hRun : m.halted = false)
    (hWord : m.refreshProgram.selectWord = w) (hw : w.Orderly) (hHlt : w.has .hlt = false)
    (cycles : Nat) (past : List Event) (budget : Nat)
    (hRest : m.Cycles w m.stepCycle → Ends m.config ((m.core.cycle w).run m.config ws) n
      (m.cyclesToBoundary cycles past (budget + 1))) :
    Ends m.config (m.core.run m.config (w :: ws)) n
      (m.cyclesToBoundary cycles past (budget + 1)) := by
  cases hFault : m.core.stackFault? m.config w with
  | some e =>
      rw [Core.run_cons_of_some hHlt hFault]
      exact ends_of_refuses hRun (refuses_stepCycle hm hRun hWord hw hHlt hFault) cycles n past
        budget
  | none =>
      rw [Core.run_cons_of_none hHlt hFault]
      exact hRest (cycles_stepCycle hm hRun hWord hw hHlt hFault)

/-- The rest of an instruction whose micro-program is known, by induction on the words that are
left. -/
theorem ends_cyclesToBoundary {ws : List ControlWord} (hClosed : Closed ws)
    (hm : m.AtRest) (hRun : m.halted = false) (hDispatch : 4 ≤ m.counter.val)
    (hWords : (fetchCycle ++ m.refreshProgram.program).drop m.counter.val = ws)
    (hOrderly : ∀ w ∈ ws, w.Orderly) (hLength : m.counter.val + ws.length ≤ 8)
    (cycles : Nat) (past : List Event) (budget : Nat) (hBudget : ws.length ≤ budget) :
    Ends m.config (m.core.run m.config ws) (cycles + ws.length)
      (m.cyclesToBoundary cycles past budget) := by
  induction hClosed generalizing m cycles past budget with
  | @last w hMsr =>
      obtain ⟨budget, rfl⟩ : ∃ n, budget = n + 1 := ⟨budget - 1, by simp at hBudget; omega⟩
      have hWord : m.refreshProgram.selectWord = w :=
        selectWord_of_drop (by rwa [counter_refreshProgram])
      have hw : w.Orderly := hOrderly w List.mem_cons_self
      cases hHlt : w.has .hlt with
      | true => simpa [Core.run, hHlt] using ends_of_halt hRun hWord hHlt cycles past budget
      | false =>
          refine ends_of_cycle hm hRun hWord hw hHlt cycles past budget ?_
          intro hCycles
          exact ends_of_last hRun hCycles hMsr cycles past budget
  | @cons w ws hMsr hHlt hRest ih =>
      obtain ⟨budget, rfl⟩ : ∃ n, budget = n + 1 := ⟨budget - 1, by simp at hBudget; omega⟩
      have hWord : m.refreshProgram.selectWord = w :=
        selectWord_of_drop (by rwa [counter_refreshProgram])
      have hw : w.Orderly := hOrderly w List.mem_cons_self
      simp only [List.length_cons] at hLength hBudget ⊢
      refine ends_of_cycle hm hRun hWord hw hHlt cycles past budget ?_
      intro hCycles
      have hPos : 0 < ws.length := by cases hRest <;> simp
      have hVal : m.stepCycle.machine.counter.val = m.counter.val + 1 := by
        rw [hCycles.counter, hMsr]
        exact val_next (by omega)
      have hCore := hCycles.core
      have hProgram : m.stepCycle.machine.refreshProgram.program = m.refreshProgram.program := by
        rw [refreshProgram_of_ne, hCycles.program]
        intro h
        have := congrArg Fin.val h
        simp only [MicroStep.dispatch] at this
        omega
      have hStep := ih (m := m.stepCycle.machine) hCycles.atRest
        ((congrArg Core.halted hCore).trans hRun) (by omega)
        (by rw [hProgram, hVal, ← List.tail_drop, hWords, List.tail_cons])
        (fun v hv => hOrderly v (List.mem_cons_of_mem w hv)) (by omega) (cycles + 1)
        (m.stepCycle.events.reverse ++ past) budget (by omega)
      rw [cyclesToBoundary_of_cycles hRun hCycles (ne_first_of_val_pos (by omega))]
      rwa [hCore, hCycles.config, Nat.add_assoc, Nat.add_comm 1] at hStep

theorem cycles_of_fetching (hm : m.AtRest) (hRun : m.halted = false)
    (hWord : fetchCycle[m.counter.val]? = some w) :
    m.Cycles w m.stepCycle ∧ m.stepCycle.machine.halted = false ∧
      m.stepCycle.machine.counter.val = m.counter.val + 1 := by
  have hMem : w ∈ fetchCycle := List.mem_of_getElem? hWord
  have hFetch : m.counter.val < 4 := (List.getElem?_eq_some_iff.mp hWord).1
  have hLines : ∀ w ∈ fetchCycle, w.has .hlt = false ∧ w.has .msr = false ∧
      w.has .sp1 = false ∧ w.has .sm1 = false := by decide
  obtain ⟨hHlt, hMsr, hUp, hDown⟩ := hLines w hMem
  have hSelect : m.refreshProgram.selectWord = w := by
    rw [selectWord, counter_refreshProgram, List.getElem?_append_left hFetch, hWord]
    rfl
  have hFault : m.core.stackFault? m.config w = none := by
    simp [Core.stackFault?, hUp, hDown]
  have hCycles := cycles_stepCycle hm hRun hSelect (orderly_of_mem_fetchCycle w hMem) hHlt hFault
  refine ⟨hCycles, (congrArg Core.halted hCycles.core).trans hRun, ?_⟩
  rw [hCycles.counter, hMsr]
  exact val_next (by omega)

/-- The rest of an instruction from anywhere in its fetch, by induction on the words of the fetch
that are left. -/
theorem ends_of_fetching {ws : List ControlWord} (hm : m.AtRest) (hRun : m.halted = false)
    (hWords : fetchCycle.drop m.counter.val = ws) (hCounter : m.counter.val ≤ 4) (cycles : Nat)
    (past : List Event) :
    Ends m.config ((ws.foldl Core.cycle m.core).run m.config (ws.foldl Core.cycle m.core).chosen)
      (cycles + ws.length + (ws.foldl Core.cycle m.core).chosen.length)
      (m.cyclesToBoundary cycles past (ws.length + 4)) := by
  have hLeft := congrArg List.length hWords
  simp only [List.length_drop, fetchCycle, List.length_cons, List.length_nil] at hLeft
  induction ws generalizing m cycles past with
  | nil =>
      have hDispatch : m.counter.val = 4 := by
        simp only [List.length_nil] at hLeft
        omega
      have hProgram : m.refreshProgram.program = m.core.chosen := by
        rw [refreshProgram, if_pos (Fin.ext hDispatch)]
        rfl
      have hClosed : Closed m.core.chosen := closed_microProgram _ _
      have hLength : m.core.chosen.length ≤ 3 := length_microProgram_le _ _
      exact ends_cyclesToBoundary hClosed hm hRun (by omega)
        (by rw [hDispatch, hProgram]; rfl) orderly_of_mem_microProgram (by omega) cycles past 4
        (by omega)
  | cons w ws ih =>
      have hGet : fetchCycle[m.counter.val]? = some w := by
        have hHead := congrArg (fun l => l[0]?) hWords
        simpa using hHead
      obtain ⟨hCycles, hRun', hCounter'⟩ := cycles_of_fetching hm hRun hGet
      simp only [List.length_cons] at hLeft ⊢
      have hRest : fetchCycle.drop m.stepCycle.machine.counter.val = ws := by
        rw [hCounter', ← List.tail_drop, hWords, List.tail_cons]
      have hEnds := ih hCycles.atRest hRun' hRest (by omega) (cycles + 1)
        (m.stepCycle.events.reverse ++ past) (by omega)
      rw [hCycles.core, hCycles.config] at hEnds
      rw [Nat.add_right_comm ws.length, cyclesToBoundary_of_cycles hRun hCycles
        (ne_first_of_val_pos (by omega)), Nat.add_comm ws.length, ← Nat.add_assoc cycles]
      exact hEnds

theorem ends_stepInstruction (hm : m.AtRest) (hRun : m.halted = false)
    (hCounter : m.counter = .first) :
    Ends m.config (m.core.fetched.run m.config m.core.program) (4 + m.core.program.length)
      m.stepInstruction := by
  have hWords : fetchCycle.drop m.counter.val = fetchCycle := by
    rw [hCounter]
    rfl
  exact ends_of_fetching hm hRun hWords (by rw [hCounter]; decide) 0 []

end Machine

end Microbus
