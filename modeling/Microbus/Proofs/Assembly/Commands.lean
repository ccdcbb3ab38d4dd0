import Microbus.Proofs.Assembly.Operands

/-! # What commands take

A command reads what stands behind its mnemonic successfully just if the grammar derives it, and
what it comes to is what the grammar says. One direction follows the commands and their readers,
the other the forms of operands.
-/

namespace Microbus.Assembly
set_option autoImplicit false

open Grammar Reader

namespace Command

variable {c : Command} {sl : SourceLine} {line : Nat} {kind : StatementKind}

theorem rest_of_readOperands {α : Type} {problem : Problem} {p : Reader α} {a : α}
    (h : readOperands sl line problem p = .ok a)
    (hOperands : ∀ t rest, p t = .ok (a, rest) → Gap rest →
      ∃ s, t = s ++ rest ∧ Operands c s kind) : Rest c sl.operands kind := by
  obtain ⟨g, t, rest, hText, hg, -, hRead, hRest⟩ :=
    whole_eq_ok_iff.mp (readOperands_eq_ok_iff.mp h)
  obtain ⟨s, rfl, hs⟩ := hOperands t rest hRead hRest
  rw [hText]
  exact .operands hg hs hRest

theorem rest_of_pair {α β : Type} {problem : Problem} {p : Reader α} {q : Reader β} {a : α} {b : β}
    (first second : List Char → Prop)
    (h : readOperands sl line problem (pairOf p q) = .ok (a, b))
    (hFirst : ∀ t rest, p t = .ok (a, rest) → ∃ s, t = s ++ rest ∧ first s)
    (hSecond : ∀ t rest, q t = .ok (b, rest) → ∃ u, t = u ++ rest ∧ second u)
    (hOperands : ∀ s t u, first s → Separator t → second u → Operands c (s ++ (t ++ u)) kind) :
    Rest c sl.operands kind := by
  refine rest_of_readOperands h ?_
  intro t rest hPair _
  obtain ⟨_, _, _, hp, hMark, hq⟩ := pairOf_eq_ok_iff.mp hPair
  obtain ⟨s, rfl, hs⟩ := hFirst _ _ hp
  obtain ⟨m, rfl, hm⟩ := grammar_of_separator hMark
  obtain ⟨u, rfl, hu⟩ := hSecond _ _ hq
  exact ⟨s ++ (m ++ u), by simp, hOperands s m u hs hm hu⟩

theorem keyword_of_dataReg {r : DataReg} (t rest : List Char) (h : dataReg t = .ok (r, rest)) :
    ∃ s, t = s ++ rest ∧ Keyword r.keyword s := by
  obtain ⟨s, rfl, hs, -⟩ := dataReg_eq_ok_iff.mp h
  exact ⟨s, rfl, hs⟩

/-! ## What was read is derived -/

theorem rest_of_load (h : complete .load sl line = .ok kind) : Rest .load sl.operands kind := by
  obtain ⟨⟨source, r⟩, hRead, hKind⟩ := bind_eq_ok_iff.mp h
  refine rest_of_pair
    (fun s => ∃ v, Constant s v ∧ kind = .instruction ⟨.loadImmediate r, .ofInt v⟩ ∨
      Cell s v ∧ kind = .instruction ⟨.loadMemory r, .ofInt v⟩)
    (Keyword r.keyword) hRead ?_ keyword_of_dataReg ?_
  · intro t rest hSource
    obtain ⟨s, v, rfl, hs⟩ := loadSource_sound hSource hKind
    exact ⟨s, rfl, v, hs⟩
  · rintro s t u ⟨v, ⟨hs, rfl⟩ | ⟨hs, rfl⟩⟩ ht hu
    · exact .loadImmediate hs ht hu
    · exact .loadMemory hs ht hu

theorem rest_of_store (h : complete .store sl line = .ok kind) : Rest .store sl.operands kind := by
  obtain ⟨⟨r, l⟩, hRead, hKind⟩ := bind_eq_ok_iff.mp h
  obtain ⟨v, hValue, rfl⟩ := withLiteral_eq_ok_iff.mp hKind
  refine rest_of_pair (Keyword r.keyword) (Cell · v) hRead keyword_of_dataReg ?_ ?_
  · exact fun t rest hAddress => cell_of_address hAddress hValue
  · exact fun s t u hs ht hu => .store hs ht hu

theorem rest_of_arithmetic {op : BinaryOp} (h : complete (.arithmetic op) sl line = .ok kind) :
    Rest (.arithmetic op) sl.operands kind := by
  obtain ⟨operand, hRead, hKind⟩ := bind_eq_ok_iff.mp h
  refine rest_of_readOperands hRead ?_
  intro t rest hOperand _
  have hSound := aluOperand_sound hOperand
  cases operand with
  | b =>
      obtain ⟨s, rfl, hs⟩ := hSound
      cases hKind
      exact ⟨s, rfl, .withB hs⟩
  | x =>
      obtain ⟨s, rfl, hs⟩ := hSound
      cases hKind
      exact ⟨s, rfl, .withX hs⟩
  | memory l =>
      obtain ⟨v, hValue, rfl⟩ := withLiteral_eq_ok_iff.mp hKind
      obtain ⟨s, rfl, hs⟩ := hSound v hValue
      exact ⟨s, rfl, .withMemory hs⟩
  | memoryAtB =>
      obtain ⟨g, s, rfl, hg, hs⟩ := hSound
      cases hKind
      exact ⟨'$' :: (g ++ s), rfl, .withMemoryAtB hg hs⟩
  | memoryAtX =>
      obtain ⟨g, s, rfl, hg, hs⟩ := hSound
      cases hKind
      exact ⟨'$' :: (g ++ s), rfl, .withMemoryAtX hg hs⟩

theorem rest_of_output (h : complete .output sl line = .ok kind) :
    Rest .output sl.operands kind := by
  simp only [complete] at h
  split at h
  · next hBlank =>
      cases h
      exact .display (List.all_eq_true.mp hBlank)
  · obtain ⟨⟨k, source⟩, hRead, hKind⟩ := bind_eq_ok_iff.mp h
    cases source with
    | none => cases hKind
    | some source =>
        refine rest_of_readOperands hRead ?_
        intro t rest hOperands _
        obtain ⟨s, g, left, rfl, hs, hNe, hg, -, hSource⟩ :=
          outputOperands_eq_ok_some_iff.mp hOperands
        obtain ⟨u, v, rfl, hu⟩ := loadSource_sound hSource hKind
        refine ⟨s ++ (g ++ u), by simp, ?_⟩
        rcases hu with ⟨hu, rfl⟩ | ⟨hu, rfl⟩
        · exact .output hs hg hNe hu
        · exact .outputIndirect hs hg hNe hu

theorem rest_of_branch {op : Branch} (h : complete (.branch op) sl line = .ok kind) :
    Rest (.branch op) sl.operands kind := by
  obtain ⟨goal, hRead, hKind⟩ := bind_eq_ok_iff.mp h
  refine rest_of_readOperands hRead ?_
  intro t rest hTarget hRest
  cases goal with
  | address l =>
      obtain ⟨v, hValue, rfl⟩ := withLiteral_eq_ok_iff.mp hKind
      obtain ⟨s, rfl, hs | hs⟩ := constant_of_target hTarget hValue
      · exact ⟨s, rfl, .toCell hs⟩
      · exact ⟨s, rfl, .toConstant hs⟩
  | label name =>
      cases hKind
      obtain ⟨s, rfl, hs, rfl, hNone⟩ := word_of_target hTarget hRest
      exact ⟨s, rfl, .toLabel hs hNone⟩

theorem rest_of_move (h : complete .move sl line = .ok kind) : Rest .move sl.operands kind := by
  obtain ⟨⟨source, goal⟩, hRead, hKind⟩ := bind_eq_ok_iff.mp h
  cases hKind
  refine rest_of_pair (Keyword source.keyword) (Keyword goal.keyword) hRead ?_ ?_ ?_
  · intro t rest hSource
    obtain ⟨s, rfl, hs, -⟩ := moveSource_eq_ok_iff.mp hSource
    exact ⟨s, rfl, hs⟩
  · intro t rest hGoal
    obtain ⟨u, rfl, hu, -⟩ := moveTarget_eq_ok_iff.mp hGoal
    exact ⟨u, rfl, hu⟩
  · exact fun s t u hs ht hu => .move hs ht hu

theorem rest_of_dataReg {problem : Problem} {op : DataReg → Opcode}
    (h : (do
      let r ← readOperands sl line problem dataReg
      return StatementKind.instruction ⟨op r, 0⟩) = .ok kind)
    (hOperands : ∀ s r, Keyword (DataReg.keyword r) s → Operands c s (.instruction ⟨op r, 0⟩)) :
    Rest c sl.operands kind := by
  obtain ⟨r, hRead, hKind⟩ := bind_eq_ok_iff.mp h
  cases hKind
  refine rest_of_readOperands hRead ?_
  intro t rest hReg _
  obtain ⟨s, rfl, hs⟩ := keyword_of_dataReg t rest hReg
  exact ⟨s, rfl, hOperands s r hs⟩

theorem rest_of_plain {result : StatementKind} (h : complete (.plain result) sl line = .ok kind) :
    Rest (.plain result) sl.operands kind := by
  obtain ⟨_, hRead, hKind⟩ := bind_eq_ok_iff.mp h
  cases hKind
  refine rest_of_readOperands hRead ?_
  intro t rest hEnd _
  cases t with
  | nil =>
      cases hEnd
      exact ⟨[], rfl, .plain⟩
  | cons d t => cases hEnd

theorem rest_of_complete (h : c.complete sl line = .ok kind) : Rest c sl.operands kind := by
  cases c with
  | load => exact rest_of_load h
  | store => exact rest_of_store h
  | arithmetic op => exact rest_of_arithmetic h
  | output => exact rest_of_output h
  | branch op => exact rest_of_branch h
  | move => exact rest_of_move h
  | push => exact rest_of_dataReg h fun _ _ hs => .push hs
  | pop => exact rest_of_dataReg h fun _ _ hs => .pop hs
  | plain result => exact rest_of_plain h

/-! ## What is derived is read -/

theorem not_allBlank_of_begins {g s h : List Char} (hText : sl.operands = g ++ (s ++ h))
    (hBegins : Begins opensOperand s) : Text.allBlank sl.operands = false := by
  obtain ⟨d, hd, hVisible⟩ := hBegins.exists_visible
  refine List.all_eq_false.mpr ⟨d, ?_, by simp [hVisible]⟩
  rw [hText]
  exact List.mem_append_right g (List.mem_append_left h hd)

theorem pairOf_dataReg {α : Type} {p : Reader α} {a : α} {r : DataReg} {s t u h : List Char}
    (hp : p (s ++ (t ++ (u ++ h))) = .ok (a, t ++ (u ++ h))) (ht : Separator t)
    (hu : Keyword r.keyword u) (hh : Gap h) :
    pairOf p dataReg (s ++ (t ++ u) ++ h) = .ok ((a, r), h) :=
  pairOf_of_parts hp ht (hu.begins (by cases r <;> decide)).opens
    (dataReg_eq_ok_iff.mpr ⟨u, rfl, hu, hh.stops⟩)

section

variable {g s h : List Char} (hText : sl.operands = g ++ (s ++ h)) (hg : Gap g) (hh : Gap h)

include hText hg hh

theorem bind_readOperands {α : Type} {problem : Problem} {p : Reader α} {a : α}
    {f : α → Except Refusal StatementKind} (hBegins : Begins opensOperand s)
    (hRead : p (s ++ h) = .ok (a, h)) : (readOperands sl line problem p >>= f) = f a := by
  have hWhole : whole p sl.operands = .ok a :=
    whole_eq_ok_iff.mpr ⟨g, s ++ h, h, hText, hg, (hBegins.append h).stops, hRead, hh⟩
  rw [readOperands_eq_ok_iff.mpr hWhole]
  rfl

theorem complete_load (hs : Operands .load s kind) : complete .load sl line = .ok kind := by
  have hBegins := hs.begins.resolve_right (by simp)
  cases hs with
  | @loadImmediate s t u v r hs ht hu =>
      obtain ⟨l, hSource, hValue⟩ :=
        loadSource_of_constant hs (endsLiteral_of_separator ht (u ++ h))
      rw [complete, bind_readOperands hText hg hh hBegins (pairOf_dataReg hSource ht hu hh)]
      exact withLiteral_eq_ok_iff.mpr ⟨v, hValue, rfl⟩
  | @loadMemory s t u v r hs ht hu =>
      obtain ⟨l, hSource, hValue⟩ := loadSource_of_cell hs (endsLiteral_of_separator ht (u ++ h))
      rw [complete, bind_readOperands hText hg hh hBegins (pairOf_dataReg hSource ht hu hh)]
      exact withLiteral_eq_ok_iff.mpr ⟨v, hValue, rfl⟩

theorem complete_store (hs : Operands .store s kind) : complete .store sl line = .ok kind := by
  have hBegins := hs.begins.resolve_right (by simp)
  cases hs with
  | @store s t u v r hs ht hu =>
      have hReg := dataReg_eq_ok_iff.mpr ⟨s, rfl, hs, ht.stops (u ++ h)⟩
      obtain ⟨l, hAddress, hValue⟩ := address_of_cell hu (endsLiteral_of_gap hh)
      have hPair := pairOf_of_parts hReg ht hu.begins hAddress
      rw [complete, bind_readOperands hText hg hh hBegins hPair]
      exact withLiteral_eq_ok_iff.mpr ⟨v, hValue, rfl⟩

theorem complete_arithmetic {op : BinaryOp} (hs : Operands (.arithmetic op) s kind) :
    complete (.arithmetic op) sl line = .ok kind := by
  have hBegins := hs.begins.resolve_right (by simp)
  cases hs with
  | withB hs =>
      have hOperand := aluOperand_of_keyword "b" .b (by simp) hs hh.stops
      exact bind_readOperands hText hg hh hBegins hOperand
  | withX hs =>
      have hOperand := aluOperand_of_keyword "x" .x (by simp) hs hh.stops
      exact bind_readOperands hText hg hh hBegins hOperand
  | @withMemory _ v op hs =>
      obtain ⟨l, hOperand, hValue⟩ := aluOperand_of_cell hs (endsLiteral_of_gap hh)
      rw [complete, bind_readOperands hText hg hh hBegins hOperand]
      exact withLiteral_eq_ok_iff.mpr ⟨v, hValue, rfl⟩
  | withMemoryAtB hk hs =>
      have hOperand := aluOperand_of_memoryAtB hk hs hh.stops
      exact bind_readOperands hText hg hh hBegins (by simpa using hOperand)
  | withMemoryAtX hk hs =>
      have hOperand := aluOperand_of_memoryAtX hk hs hh.stops
      exact bind_readOperands hText hg hh hBegins (by simpa using hOperand)

theorem complete_branch {op : Branch} (hs : Operands (.branch op) s kind) :
    complete (.branch op) sl line = .ok kind := by
  have hBegins := hs.begins.resolve_right (by simp)
  cases hs with
  | @toCell _ v op hs =>
      obtain ⟨l, hTarget, hValue⟩ := target_of_cell hs (endsLiteral_of_gap hh)
      rw [complete, bind_readOperands hText hg hh hBegins hTarget]
      exact withLiteral_eq_ok_iff.mpr ⟨v, hValue, rfl⟩
  | @toConstant _ v op hs =>
      obtain ⟨l, hTarget, hValue⟩ := target_of_constant hs hh
      rw [complete, bind_readOperands hText hg hh hBegins hTarget]
      exact withLiteral_eq_ok_iff.mpr ⟨v, hValue, rfl⟩
  | @toLabel s op hs hNone =>
      have hTarget := target_of_word hs hNone hh
      exact bind_readOperands hText hg hh hBegins hTarget

theorem complete_move (hs : Operands .move s kind) : complete .move sl line = .ok kind := by
  have hBegins := hs.begins.resolve_right (by simp)
  cases hs with
  | @move s t u r goal hs ht hu =>
      have hSource := moveSource_eq_ok_iff.mpr ⟨s, rfl, hs, ht.stops (u ++ h)⟩
      have hGoal := moveTarget_eq_ok_iff.mpr ⟨u, rfl, hu, hh.stops⟩
      have hPair := pairOf_of_parts hSource ht (hu.begins (by cases goal <;> decide)).opens hGoal
      exact bind_readOperands hText hg hh hBegins hPair

theorem complete_dataReg {problem : Problem} {op : DataReg → Opcode} {r : DataReg}
    (hs : Keyword r.keyword s) :
    (do
      let r ← readOperands sl line problem dataReg
      return StatementKind.instruction ⟨op r, 0⟩) = .ok (.instruction ⟨op r, 0⟩) := by
  have hBegins := (hs.begins (by cases r <;> decide)).opens
  exact bind_readOperands hText hg hh hBegins (dataReg_eq_ok_iff.mpr ⟨s, rfl, hs, hh.stops⟩)

theorem complete_output_of_source {word k t : List Char} {r : OutputKind} {source : LoadSource}
    (hs : s = word ++ (k ++ t)) (hWord : Keyword r.keyword word) (hk : Gap k) (hNe : k ≠ [])
    (ht : Begins opensOperand t) (hSource : loadSource (t ++ h) = .ok (source, h)) :
    complete .output sl line = withSource sl line (.output r) (.outputIndirect r) source := by
  subst hs
  have hBegins : Begins opensOperand (word ++ (k ++ t)) :=
    (hWord.begins (by cases r <;> decide)).opens.append _
  have hOperands := outputOperands_eq_ok_some_iff.mpr
    ⟨word, k, t ++ h, rfl, hWord, hNe, hk, (ht.append h).stops, hSource⟩
  rw [complete, not_allBlank_of_begins hText hBegins]
  exact bind_readOperands hText hg hh hBegins (by simpa using hOperands)

theorem complete_output (hs : Operands .output s kind) : complete .output sl line = .ok kind := by
  cases hs with
  | @output s k t v r hs hk hNe ht =>
      obtain ⟨l, hSource, hValue⟩ := loadSource_of_constant ht (endsLiteral_of_gap hh)
      rw [complete_output_of_source hText hg hh rfl hs hk hNe ht.begins.opens hSource]
      exact withLiteral_eq_ok_iff.mpr ⟨v, hValue, rfl⟩
  | @outputIndirect s k t v r hs hk hNe ht =>
      obtain ⟨l, hSource, hValue⟩ := loadSource_of_cell ht (endsLiteral_of_gap hh)
      rw [complete_output_of_source hText hg hh rfl hs hk hNe ht.begins hSource]
      exact withLiteral_eq_ok_iff.mpr ⟨v, hValue, rfl⟩

theorem complete_plain {result : StatementKind} (hs : Operands (.plain result) s kind) :
    complete (.plain result) sl line = .ok kind := by
  cases hs with
  | plain =>
      have hWhole : whole atEnd sl.operands = .ok () := by
        refine whole_eq_ok_iff.mpr ⟨g ++ h, [], [], ?_, ?_, stops_nil _, rfl, by simp [Gap]⟩
        · simp [hText]
        · exact fun d hd => (List.mem_append.mp hd).elim (hg d) (hh d)
      exact bind_eq_ok_iff.mpr ⟨(), readOperands_eq_ok_iff.mpr hWhole, rfl⟩

theorem complete_of_operands (hs : Operands c s kind) : c.complete sl line = .ok kind := by
  cases c with
  | load => exact complete_load hText hg hh hs
  | store => exact complete_store hText hg hh hs
  | arithmetic op => exact complete_arithmetic hText hg hh hs
  | output => exact complete_output hText hg hh hs
  | branch op => exact complete_branch hText hg hh hs
  | move => exact complete_move hText hg hh hs
  | push =>
      cases hs with
      | push hs => exact complete_dataReg hText hg hh hs
  | pop =>
      cases hs with
      | pop hs => exact complete_dataReg hText hg hh hs
  | plain result => exact complete_plain hText hg hh hs

end

/-- A command takes just what the grammar puts behind its mnemonic. -/
theorem parse_eq_ok_iff : c.parse sl line = .ok kind ↔ Rest c sl.operands kind := by
  constructor
  · intro h
    unfold parse at h
    split at h
    · split at h
      · cases h
      · exact rest_of_complete h
    · exact rest_of_complete h
  · intro h
    generalize hText : sl.operands = text at h
    cases h with
    | @operands _ g s h _ hg hs hh =>
        have hComplete : c.complete sl line = .ok kind := complete_of_operands hText hg hh hs
        unfold parse
        split
        · next form hForm =>
            rcases hs.begins with hBegins | ⟨rfl, -⟩
            · simp [not_allBlank_of_begins hText hBegins, hComplete]
            · cases hForm
        · exact hComplete
    | display hBlank =>
        have hAll : Text.allBlank sl.operands = true := by
          rw [hText]
          exact List.all_eq_true.mpr hBlank
        simp [parse, form?, complete, hAll, pure, Except.pure]

end Command

end Microbus.Assembly
