import Microbus.Proofs.Cycle.Sequence

/-! # The region of the stack

With enforced bounds the stack pointer never moves further from the top than the size of the stack,
in whatever order halves, loads and resets follow each other. A push or a call sends the stack
pointer to the memory in one cycle and is checked in the next; the invariant says that the address
sent is one that the check makes room for.
-/

namespace Microbus
set_option autoImplicit false

namespace Opcode

def Lowers : Opcode → Prop
  | push _ | call => True
  | _ => False

/-- The words of a push or a call: the stack pointer is sent to the memory, one word writes and
lowers the stack pointer, and what is left writes nothing. -/
theorem Lowers.microProgram_eq {op : Opcode} (h : op.Lowers) {b : UInt8} (hOp : ofByte? b = some op)
    (f : Flags) : ∃ w ws, microProgram b f = .ofList [.so, .mai] :: w :: ws ∧
      w.listeners = [.memory] ∧ w.has .sm1 = true ∧ w.has .sp1 = false ∧
      ∀ v ∈ ws, v.has .mi = false := by
  rw [microProgram, opcodeWords, hOp]
  cases op with
  | push r =>
      refine ⟨_, [], rfl, ?_, ?_, ?_, by simp⟩ <;> cases r <;> decide
  | call => exact ⟨_, [_], rfl, by decide, by decide, by decide, by decide⟩
  | _ => exact h.elim

end Opcode

namespace Machine

variable {δ : Type} [OutputDevice δ]

def NoEdits (_ : Machine δ) : Call → Prop
  | .decode | .execute | .cycle | .loadProgram _ _ | .loadImage _ | .reset => True
  | _ => False

/-- The depth is bounded, and once a push or a call sent an address to the memory, that address
lies within the stack as it is when the word that writes waits. -/
structure StackKept (config : MachineConfig) (m : Machine δ) : Prop where
  sequenced : m.Sequenced
  depth : m.stackDepth ≤ config.stackSize
  program : 4 < m.counter.val → ∃ f, m.program = microProgram (m.register .ip) f
  target : ∀ op, Opcode.ofByte? (m.register .ip) = some op → op.Lowers → m.halted = false →
    m.counter.val = 5 → m.stackTop - m.register .ma ≤ m.stackDepth ∧
      (m.word ≠ none → m.stackTop - m.register .ma < m.stackDepth)
  config : m.config = config

variable {m m' : Machine δ} {config : MachineConfig}

theorem StackKept.program_refreshProgram (h : m.StackKept config) (hCounter : 4 ≤ m.counter.val) :
    ∃ f, m.refreshProgram.program = microProgram (m.register .ip) f := by
  by_cases hDispatch : m.counter = .dispatch
  · rw [refreshProgram, if_pos hDispatch]
    exact ⟨m.flags, rfl⟩
  · have hVal : m.counter.val ≠ 4 := fun hEq => hDispatch (Fin.ext hEq)
    rw [refreshProgram_of_ne hDispatch]
    exact h.program (by omega)

/-- The invariant depends on the registers and the control unit, and a word that stops waiting
takes nothing from it. -/
theorem StackKept.of_registers (h : m.StackKept config) (hSequenced : m'.Sequenced)
    (hRegister : ∀ r, m'.register r = m.register r) (hTop : m'.stackTop = m.stackTop)
    (hCounter : m'.counter = m.counter) (hProgram : 4 < m.counter.val → m'.program = m.program)
    (hWaits : m'.halted = false → m.halted = false ∧ (m'.word ≠ none → m.word ≠ none))
    (hConfig : m'.config = m.config) : m'.StackKept config := by
  have hDepth : m'.stackDepth = m.stackDepth := by rw [stackDepth, hTop, hRegister, stackDepth]
  refine ⟨hSequenced, hDepth ▸ h.depth, ?_, ?_, hConfig.trans h.config⟩
  · intro hLate
    rw [hCounter] at hLate
    rw [hProgram hLate, hRegister]
    exact h.program hLate
  · intro op hOp hLowers hRun hFive
    rw [hRegister] at hOp
    rw [hCounter] at hFive
    obtain ⟨hRun', hWord⟩ := hWaits hRun
    obtain ⟨hLe, hLt⟩ := h.target op hOp hLowers hRun' hFive
    rw [hTop, hRegister, hDepth]
    exact ⟨hLe, fun hSome => hLt (hWord hSome)⟩

omit [OutputDevice δ] in
theorem depth_immediate {w : ControlWord} (hBounds : m.config.enforceBounds = true)
    (hFault : m.core.stackFault? m.config w = none) (hDepth : m.stackDepth ≤ m.config.stackSize) :
    m.stackTop - (m.contents.immediate w).register .sp ≤ m.config.stackSize ∧
      (w.has .sm1 = true → w.has .sp1 = false → m.stackDepth < m.config.stackSize ∧
        m.stackTop - (m.contents.immediate w).register .sp = m.stackDepth + 1) := by
  rw [Core.stackFault?_eq_none_iff] at hFault
  rw [Contents.sp_immediate]
  cases hUp : w.has .sp1 with
  | false =>
      cases hDown : w.has .sm1 with
      | false => exact ⟨hDepth, fun h => by cases h⟩
      | true =>
          have hRoom : m.stackDepth < m.config.stackSize :=
            UInt8.not_le.mp fun hFull => hFault ⟨hBounds, .inl ⟨hDown, hFull⟩⟩
          have hDeeper : m.stackTop - (m.register .sp - 1) = m.stackDepth + 1 := by
            rw [stackDepth]
            grind
          refine ⟨?_, fun _ _ => ⟨hRoom, hDeeper⟩⟩
          change m.stackTop - (m.register .sp - 1) ≤ m.config.stackSize
          rw [hDeeper]
          grind
  | true =>
      refine ⟨?_, fun _ h => by cases h⟩
      cases hDown : w.has .sm1 with
      | false =>
          have hSome : m.register .sp ≠ m.stackTop := fun hEmpty =>
            hFault ⟨hBounds, .inr ⟨hUp, hEmpty⟩⟩
          change m.stackTop - (m.register .sp + 1) ≤ m.config.stackSize
          rw [stackDepth] at hDepth
          grind
      | true => exact hDepth

theorem StackKept.program_refreshProgram_of_late (_ : m.StackKept config)
    (hLate : 4 < m.counter.val) : m.refreshProgram.program = m.program := by
  have hDispatch : m.counter ≠ .dispatch := fun hEq => absurd (congrArg Fin.val hEq) (by
    simp only [MicroStep.dispatch]; omega)
  rw [refreshProgram_of_ne hDispatch]

theorem StackKept.selectWord_of_dispatch (h : m.StackKept config) {op : Opcode}
    (hOp : Opcode.ofByte? (m.register .ip) = some op) (hLowers : op.Lowers)
    (hCounter : m.counter.val = 4) : m.refreshProgram.selectWord = .ofList [.so, .mai] := by
  obtain ⟨f, hProgram⟩ := h.program_refreshProgram (by omega)
  obtain ⟨w, ws, hWords, -⟩ := hLowers.microProgram_eq hOp f
  have hDrop : (fetchCycle ++ m.refreshProgram.program).drop m.refreshProgram.counter.val =
      .ofList [.so, .mai] :: w :: ws := by
    rw [counter_refreshProgram, hCounter, hProgram, hWords]
    rfl
  exact selectWord_of_drop hDrop

theorem StackKept.selectWord_of_lowers (h : m.StackKept config) {op : Opcode}
    (hOp : Opcode.ofByte? (m.register .ip) = some op) (hLowers : op.Lowers)
    (hCounter : m.counter.val = 5) : m.refreshProgram.selectWord.has .sm1 = true ∧
      m.refreshProgram.selectWord.has .sp1 = false := by
  obtain ⟨f, hProgram⟩ := h.program_refreshProgram (by omega)
  obtain ⟨w, ws, hWords, -, hDown, hUp, -⟩ := hLowers.microProgram_eq hOp f
  have hSelect : m.refreshProgram.selectWord = w := by
    have hDrop : (fetchCycle ++ m.refreshProgram.program).drop m.refreshProgram.counter.val =
        w :: ws := by
      rw [counter_refreshProgram, hCounter, hProgram, hWords]
      rfl
    exact selectWord_of_drop hDrop
  rw [hSelect]
  exact ⟨hDown, hUp⟩

theorem StackKept.of_decodes (hBounds : config.enforceBounds = true) (h : m.StackKept config)
    (hRun : m.halted = false) {t : Transition δ} (hSequenced : t.machine.Sequenced)
    (hFault : m.core.stackFault? m.config m.refreshProgram.selectWord = none)
    (hDecodes : m.refreshProgram.Decodes m.refreshProgram.selectWord t) :
    t.machine.StackKept config := by
  have hControl := hDecodes.control
  have hRegister : ∀ r, t.machine.register r =
      (m.contents.immediate m.refreshProgram.selectWord).register r := by
    intro r
    rw [← contents_refreshProgram m, ← hDecodes.contents]
    rfl
  have hTop := hControl.stackTop.trans (stackTop_refreshProgram m)
  have hCounter := hControl.counter.trans (counter_refreshProgram m)
  have hIp : t.machine.register .ip = m.register .ip := hRegister .ip
  have hMa : t.machine.register .ma = m.register .ma := hRegister .ma
  obtain ⟨hDepth, hLowered⟩ := depth_immediate (h.config ▸ hBounds) hFault (h.config ▸ h.depth)
  refine ⟨hSequenced, ?_, ?_, ?_, (hControl.config.trans (config_refreshProgram m)).trans h.config⟩
  · rwa [stackDepth, hTop, hRegister, ← h.config]
  · intro hLate
    rw [hCounter] at hLate
    rw [hControl.program, h.program_refreshProgram_of_late hLate, hIp]
    exact h.program hLate
  · intro op hOp hLowers _ hFive
    rw [hIp] at hOp
    rw [hCounter] at hFive
    obtain ⟨hDown, hUp⟩ := h.selectWord_of_lowers hOp hLowers hFive
    obtain ⟨hRoom, hDeeper⟩ := hLowered hDown hUp
    obtain ⟨hLe, -⟩ := h.target op hOp hLowers hRun hFive
    have hStep : m.stackDepth < m.stackDepth + 1 := by grind
    have hLt := UInt8.lt_of_le_of_lt hLe hStep
    rw [stackDepth, hTop, hRegister .sp, hDeeper, hMa]
    exact ⟨UInt8.le_of_lt hLt, fun _ => hLt⟩

theorem StackKept.decodeStep (hBounds : config.enforceBounds = true) (h : m.StackKept config) :
    m.decodeStep.machine.StackKept config := by
  have hSequenced := h.sequenced.decodeStep
  have hConfig := config_decode m
  cases hRun : m.halted with
  | true => rwa [decodeStep_of_halted hRun]
  | false =>
      rcases h.sequenced.decodeStep_cases hRun with
        ⟨-, -, hEq⟩ | ⟨e, -, hRefuses⟩ | ⟨hFault, hDecodes⟩
      · rw [hEq] at hSequenced hConfig ⊢
        exact h.of_registers hSequenced
          (fun r => congrArg (Contents.register · r) (contents_refreshProgram m))
          (stackTop_refreshProgram m) (counter_refreshProgram m)
          h.program_refreshProgram_of_late (fun hRun' => by cases hRun') hConfig
      · have hControl := hRefuses.control
        refine h.of_registers hSequenced ?_ (hControl.stackTop.trans (stackTop_refreshProgram m))
          (hControl.counter.trans (counter_refreshProgram m))
          (fun hLate => hControl.program.trans (h.program_refreshProgram_of_late hLate))
          (fun _ => ⟨hRun, fun hSome => absurd hRefuses.atRest.word hSome⟩) hConfig
        intro r
        exact congrArg (Contents.register · r)
          (hRefuses.contents.trans (contents_refreshProgram m))
      · exact h.of_decodes hBounds hRun hSequenced hFault hDecodes

theorem StackKept.has_ii_selectWord (h : m.StackKept config) (hCounter : 4 ≤ m.counter.val) :
    m.refreshProgram.selectWord.has .ii = false := by
  obtain ⟨f, hProgram⟩ := h.program_refreshProgram hCounter
  rw [selectWord, counter_refreshProgram, hProgram, List.getElem?_append_right hCounter]
  cases hGet : (microProgram (m.register .ip) f)[m.counter.val - fetchCycle.length]? with
  | none => decide
  | some w => exact has_ii_of_mem_microProgram w (List.mem_of_getElem? hGet)

theorem Executes.register {w : ControlWord} {t : Transition δ} (h : m.Executes w t) {r : RegName}
    (hr : r ≠ .fr) : t.machine.register r =
      if .register r ∈ w.listeners then m.contents.busValue w else m.register r := by
  have hCarry := m.contents.register_carry w hr
  rwa [← h.contents] at hCarry

theorem Executes.stackDepth {w : ControlWord} {t : Transition δ} (h : m.Executes w t) :
    t.machine.stackDepth = if w.has .si then 0 else m.stackDepth := by
  have hTop := h.stackTop
  cases hSi : w.has .si with
  | true =>
      rw [hSi, if_pos rfl] at hTop
      rw [Machine.stackDepth, hTop]
      exact UInt8.sub_self (t.machine.register .sp)
  | false =>
      have hSp : .register .sp ∉ w.listeners := by
        simp [ControlWord.mem_listeners_iff, latchLines, hSi]
      rw [hSi] at hTop
      rw [Machine.stackDepth, hTop, h.register (by decide), if_neg hSp]
      rfl

theorem StackKept.of_late (h : m.StackKept config) {t : Transition δ}
    (hFresh : m.refreshProgram = m) (hExecutes : m.Executes m.selectWord t)
    (hLate : 4 < t.machine.counter.val) : 4 ≤ m.counter.val ∧
      t.machine.counter.val = m.counter.val + 1 ∧
      t.machine.register .ip = m.register .ip := by
  rw [hExecutes.counter] at hLate ⊢
  cases hMsr : m.selectWord.has .msr with
  | true => simp [hMsr, MicroStep.first] at hLate
  | false =>
      simp only [hMsr, Bool.false_eq_true, if_false, MicroStep.next] at hLate ⊢
      have hFour : 4 ≤ m.counter.val := by omega
      have hIi := h.has_ii_selectWord hFour
      rw [hFresh] at hIi
      have hIp : .register .ip ∉ m.selectWord.listeners := by
        simp [ControlWord.mem_listeners_iff, latchLines, hIi]
      refine ⟨hFour, by omega, ?_⟩
      rw [hExecutes.register (by decide), if_neg hIp]

theorem StackKept.executeStep (h : m.StackKept config) :
    m.executeStep.machine.StackKept config := by
  have hSequenced := h.sequenced.executeStep
  rcases h.sequenced.executeStep_cases with ⟨-, hEq⟩ | ⟨hRun, hAwaits, hExecutes⟩
  · rwa [hEq]
  · have hFresh := hAwaits.fresh
    refine ⟨hSequenced, ?_, ?_, ?_, hExecutes.config.trans h.config⟩
    · rw [hExecutes.stackDepth]
      split
      · exact UInt8.zero_le
      · exact h.depth
    · intro hLate
      obtain ⟨hFour, -, hIp⟩ := h.of_late hFresh hExecutes hLate
      have hProgram := h.program_refreshProgram hFour
      rw [hFresh] at hProgram
      rwa [hExecutes.program, hIp]
    · intro op hOp hLowers _ hFive
      obtain ⟨-, hNext, hIp⟩ := h.of_late hFresh hExecutes (by omega)
      rw [hIp] at hOp
      have hSelect := h.selectWord_of_dispatch hOp hLowers (by omega)
      rw [hFresh] at hSelect
      have hMa := hExecutes.register (r := .ma) (by decide)
      have hDepth := hExecutes.stackDepth
      have hTop := hExecutes.stackTop
      rw [hSelect] at hMa hDepth hTop
      have hMa' : m.executeStep.machine.register .ma = m.register .sp := hMa
      have hTop' : m.executeStep.machine.stackTop = m.stackTop := hTop
      have hDepth' : m.executeStep.machine.stackDepth = m.stackTop - m.register .sp := hDepth
      rw [hMa', hTop', hDepth']
      exact ⟨UInt8.le_refl _, fun hSome => absurd hExecutes.atRest.word hSome⟩

theorem StackKept.setMemory (h : m.StackKept config) (cells : Memory) :
    (m.setMemory cells).StackKept config :=
  h.of_registers (h.sequenced.setMemory cells) (fun r => by cases r <;> rfl) rfl rfl
    (fun _ => rfl) (fun hRun => ⟨hRun, id⟩) rfl

theorem stackKept_of_first (hSequenced : m.Sequenced) (hCounter : m.counter = .first)
    (hDepth : m.stackDepth = 0) (hConfig : m.config = config) : m.StackKept config := by
  refine ⟨hSequenced, hDepth ▸ UInt8.zero_le, ?_, ?_, hConfig⟩
  · intro hLate
    simp [hCounter, MicroStep.first] at hLate
  · intro _ _ _ _ hFive
    simp [hCounter, MicroStep.first] at hFive

theorem stackKept_powerOn (config : MachineConfig) (device : δ) :
    (powerOn config device).StackKept config :=
  stackKept_of_first (sequenced_powerOn config device) rfl (UInt8.sub_self config.stackStart) rfl

theorem StackKept.reset (h : m.StackKept config) : m.reset.StackKept config :=
  stackKept_of_first (sequenced_reset m) rfl (UInt8.sub_self m.config.stackStart) h.config

theorem StackKept.perform (hBounds : config.enforceBounds = true) (h : m.StackKept config)
    {c : Call} (hAllowed : m.NoEdits c) : (m.perform c).machine.StackKept config := by
  cases c with
  | decode => exact h.decodeStep hBounds
  | execute => exact h.executeStep
  | cycle =>
      change m.stepCycle.machine.StackKept config
      rcases machine_stepCycle m with hEq | hEq
      · exact hEq ▸ h.decodeStep hBounds
      · exact hEq ▸ (h.decodeStep hBounds).executeStep
  | loadProgram bytes offset => exact (perform_load h h.setMemory).1 bytes offset
  | loadImage image => exact (perform_load h h.setMemory).2 image
  | reset => exact h.reset
  | _ => exact hAllowed.elim

theorem stackKept_of_reaches (hBounds : config.enforceBounds = true) {device : δ}
    (h : Reaches NoEdits (powerOn config device) m) : m.StackKept config :=
  h.induct (stackKept_powerOn config device) fun _ _ hKept hAllowed =>
    hKept.perform hBounds hAllowed

theorem StackKept.counter_of_writes (h : m.StackKept config) (hFresh : m.refreshProgram = m)
    {op : Opcode} (hOp : Opcode.ofByte? (m.register .ip) = some op) (hLowers : op.Lowers)
    (hMi : m.selectWord.has .mi = true) :
    m.counter.val = 5 ∧ m.selectWord.listeners = [.memory] := by
  have hFetch : ∀ v ∈ fetchCycle, v.has .mi = false := by decide
  rcases Nat.lt_or_ge m.counter.val 4 with hEarly | hFour
  · have hGet : (fetchCycle ++ m.program)[m.counter.val]? = fetchCycle[m.counter.val]? :=
      List.getElem?_append_left hEarly
    rw [selectWord, hGet, List.getElem?_eq_getElem hEarly, Option.getD_some,
      hFetch _ (List.getElem_mem hEarly)] at hMi
    cases hMi
  · obtain ⟨f, hProgram⟩ := h.program_refreshProgram hFour
    obtain ⟨w, ws, hWords, hListeners, -, -, hRest⟩ := hLowers.microProgram_eq hOp f
    rw [hFresh, hWords] at hProgram
    obtain ⟨k, hk⟩ := Nat.exists_eq_add_of_le hFour
    have hSelect : m.selectWord =
        ((.ofList [.so, .mai] :: w :: ws : List ControlWord)[k]?).getD (.ofList [.msr]) := by
      rw [selectWord, hProgram, List.getElem?_append_right hFour, hk]
      rw [show 4 + k - fetchCycle.length = k from Nat.add_sub_cancel_left 4 k]
    rw [hSelect] at hMi ⊢
    rcases k with _ | _ | k
    · have hAddress : (ControlWord.ofList [.so, .mai]).has .mi = false := by decide
      rw [List.getElem?_cons_zero, Option.getD_some, hAddress] at hMi
      cases hMi
    · exact ⟨hk, hListeners⟩
    · simp only [List.getElem?_cons_succ] at hMi
      cases hGet : ws[k]? with
      | none => simp [hGet] at hMi
      | some v =>
          rw [hGet, Option.getD_some, hRest v (List.mem_of_getElem? hGet)] at hMi
          cases hMi

theorem memory_decodeStep (h : m.Sequenced) : m.decodeStep.machine.memory = m.memory := by
  have hReady : m.refreshProgram.memory = m.memory :=
    congrArg Contents.memory (contents_refreshProgram m)
  cases hRun : m.halted with
  | true => rw [decodeStep_of_halted hRun]
  | false =>
      rcases h.decodeStep_cases hRun with ⟨-, -, hEq⟩ | ⟨e, -, hRefuses⟩ | ⟨-, hDecodes⟩
      · rw [hEq]
        exact hReady
      · exact (congrArg Contents.memory hRefuses.contents).trans hReady
      · exact (congrArg Contents.memory hDecodes.contents).trans hReady

theorem StackKept.memory_executeStep (h : m.StackKept config) {op : Opcode} {w : ControlWord}
    (hOp : Opcode.ofByte? (m.register .ip) = some op) (hLowers : op.Lowers)
    (hRun : m.halted = false) (hWord : m.word = some w) :
    if w.has .mi then ∃ i < config.stackSize, m.executeStep.machine.memory =
      m.memory.write (m.stackTop - i) (m.contents.busValue w)
    else m.executeStep.machine.memory = m.memory := by
  rcases h.sequenced.executeStep_cases with ⟨hIdle, -⟩ | ⟨-, hAwaits, hExecutes⟩
  · simp [hRun, hWord] at hIdle
  · obtain rfl : m.selectWord = w := by simpa [hAwaits.holds.word] using hWord
    have hMemory := congrArg Contents.memory hExecutes.contents
    split
    · next hMi =>
        obtain ⟨hFive, hListeners⟩ := h.counter_of_writes hAwaits.fresh hOp hLowers hMi
        obtain ⟨-, hLt⟩ := h.target op hOp hLowers hRun hFive
        have hInside := hLt (by simp [hWord])
        refine ⟨m.stackTop - m.register .ma, UInt8.lt_of_lt_of_le hInside h.depth, ?_⟩
        rw [Contents.memory_carry_of_eq hListeners] at hMemory
        have hBack : m.stackTop - (m.stackTop - m.register .ma) = m.register .ma := by grind
        rw [hBack]
        exact hMemory
    · next hMi =>
        refine hMemory.trans (Contents.memory_carry_of_not_mem ?_ m.contents)
        simpa [ControlWord.mem_listeners_iff, latchLines] using hMi

end Machine

end Microbus
