import Microbus.Proofs.Cycle.Progress
import Microbus.Proofs.Emulator.Trajectory
import Microbus.Proofs.Instruction.Words

/-! # The fetch

Four cycles fetch an instruction. From a quiet machine in front of an instruction none of them fails
or halts, whatever the memory holds, and behind them the instruction register and the operand
register hold the two bytes at the program counter, which has moved past both.
-/

namespace Microbus
set_option autoImplicit false

variable {δ : Type}

namespace Machine

def Fetches (m : Machine δ) : Prop := m.halted = false ∧ m.counter = .first

instance (m : Machine δ) : Decidable m.Fetches := inferInstanceAs (Decidable (_ ∧ _))

def instructionAt (m : Machine δ) : HistoryEntry where
  pc := m.register .pc
  opcode := m.memory.read (m.register .pc)
  operand := m.memory.read (m.register .pc + 1)

variable [OutputDevice δ] {m m' : Machine δ} {k : Nat}

structure Fetching (m : Machine δ) (k : Nat) (m' : Machine δ) : Prop where
  walks : m.Walks k m'
  atRest : m'.AtRest
  awake : m'.halted = false
  counter : m'.counter.val = k
  core : m'.core = (fetchCycle.take k).foldl Core.cycle m.settled.core

theorem Quiet.fetching_next (hm : m.Quiet) (h : m.Fetches) : m.Fetching 1 m.next := by
  obtain ⟨hRun, hCounter⟩ := h
  have hCycles := hm.cycles_settled hRun hCounter
  refine ⟨Walks.start.next hCycles.fault, hCycles.atRest,
    (congrArg Core.halted hCycles.core).trans hRun, ?_, ?_⟩
  · have hVal : m.settled.counter.next.val = 1 :=
      congrArg (fun s : MicroStep => s.next.val) hCounter
    exact (congrArg Fin.val hCycles.counter).trans hVal
  · exact hCycles.core

theorem Fetching.next (h : m.Fetching k m') (hk : k < 4) : m.Fetching (k + 1) m'.next := by
  have hGet : fetchCycle[m'.counter.val]? = some fetchCycle[k] := by
    rw [h.counter]
    exact List.getElem?_eq_getElem hk
  obtain ⟨hCycles, hRun, hCounter⟩ := cycles_of_fetching h.atRest h.awake hGet
  refine ⟨h.walks.next hCycles.fault, hCycles.atRest, hRun, ?_, ?_⟩
  · rw [Machine.next, hCounter, h.counter]
  · rw [List.take_succ_eq_append_getElem hk, List.foldl_append, ← h.core]
    exact hCycles.core

/-- From a quiet machine in front of an instruction the whole fetch is carried out. -/
theorem Quiet.fetching (hm : m.Quiet) (h : m.Fetches) :
    ∃ m', m.Fetching 4 m' ∧ m'.core = m.settled.core.fetched := by
  have hFour := (((hm.fetching_next h).next (by decide)).next (by decide)).next (by decide)
  exact ⟨_, hFour, hFour.core⟩

theorem registers_fetched (s : Core δ) :
    s.fetched.contents.register .pc = s.contents.register .pc + 2 ∧
      s.fetched.contents.register .ip = s.contents.memory.read (s.contents.register .pc) ∧
      s.fetched.contents.register .op = s.contents.memory.read (s.contents.register .pc + 1) :=
  ⟨UInt8.add_assoc (s.contents.register .pc) 1 1, rfl, rfl⟩

/-- Behind the fetch the registers tell which instruction was fetched, and where. -/
theorem instruction_of_fetched (h : m'.core = m.settled.core.fetched) :
    (⟨m'.register .pc - 2, m'.register .ip, m'.register .op⟩ : HistoryEntry) =
      m.instructionAt := by
  obtain ⟨hPc, hIp, hOp⟩ := registers_fetched m.settled.core
  have hRegister : ∀ r, m'.register r = m.settled.core.fetched.contents.register r :=
    fun r => congrArg (fun s : Core δ => s.contents.register r) h
  have hBack : m.register .pc + 2 - 2 = m.register .pc := UInt8.add_sub_cancel _ _
  rw [hRegister, hRegister, hRegister, hPc, hIp, hOp]
  exact congrArg (fun pc => (⟨pc, _, _⟩ : HistoryEntry)) hBack

end Machine

end Microbus
