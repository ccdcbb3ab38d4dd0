import Microbus.Proofs.Assembly.Commands

/-! # What lines are accepted

A line is split into the parts that the grammar puts one behind the other, and its statement is
read just if the grammar derives it. Where a part ends is forced by the character behind it: a
label ends where its word does, so that a space has to follow, and a mnemonic at the first
character that is no letter.
-/

namespace Microbus.Assembly
set_option autoImplicit false

open Grammar

section

variable {s : List Char}

theorem stops_of_space {kind : Char → Bool} {rest : List Char}
    (hKind : ∀ c, Text.isSpace c = true → kind c = false)
    (hRest : ∀ c ∈ rest.head?, Text.isSpace c = true) : Stops kind rest :=
  fun c hc => hKind c (hRest c hc)

theorem isAlpha_of_isSpace {c : Char} (h : Text.isSpace c = true) : c.isAlpha = false := by
  cases hAlpha : c.isAlpha with
  | false => rfl
  | true => rw [← isWordChar_of_isSpace h, isWordChar_of_isAlpha hAlpha]

theorem takeMnemonic_eq_some_iff {p : Piece} : takeMnemonic s = some p ↔
    s = p.text ++ p.rest ∧ p.text ≠ [] ∧ (∀ c ∈ p.text, c.isAlpha = true) ∧
      ∀ c ∈ p.rest.head?, Text.isSpace c = true := by
  have hSplit := s.takeWhile_append_dropWhile (p := Char.isAlpha)
  unfold takeMnemonic
  constructor
  · intro h
    have hLetters : ∀ c ∈ s.takeWhile Char.isAlpha, c.isAlpha = true :=
      fun c hc => List.mem_takeWhile_imp hc
    cases hTake : s.takeWhile Char.isAlpha with
    | nil => simp [hTake] at h
    | cons c t =>
        rw [hTake] at hSplit hLetters
        simp only [hTake] at h
        cases hDrop : s.dropWhile Char.isAlpha with
        | nil =>
            rw [hDrop] at hSplit
            simp only [hDrop, Option.some.injEq] at h
            subst h
            exact ⟨hSplit.symm, by simp, hLetters, by simp⟩
        | cons d r =>
            rw [hDrop] at hSplit
            simp only [hDrop] at h
            split at h
            · next hSpace =>
                cases h
                exact ⟨hSplit.symm, by simp, hLetters, by simpa using hSpace⟩
            · cases h
  · obtain ⟨text, rest⟩ := p
    rintro ⟨rfl, hNe, hLetters, hRest⟩
    have hStops : Stops Char.isAlpha rest :=
      stops_of_space (fun c hc => isAlpha_of_isSpace hc) hRest
    simp only [takeWhile_append_of_stops hLetters hStops, dropWhile_append_of_stops hLetters hStops]
    obtain ⟨c, t, rfl⟩ := List.exists_cons_of_ne_nil hNe
    cases rest with
    | nil => rfl
    | cons d r => simp [hRest d rfl]

theorem takeLabel_of_word {w rest : List Char} (hw : Word w) (hRest : Stops Text.isWordChar rest) :
    takeLabel (':' :: (w ++ rest)) = (some ⟨w, rest⟩, rest) := by
  simp only [takeLabel, takeWhile_append_of_stops hw.2 hRest, dropWhile_append_of_stops hw.2 hRest]
  obtain ⟨c, t, rfl⟩ := List.exists_cons_of_ne_nil hw.1
  rfl

theorem takeLabel_cases (s : List Char) : takeLabel s = (none, s) ∨
    ∃ w rest, s = ':' :: (w ++ rest) ∧ Word w ∧ Stops Text.isWordChar rest := by
  unfold takeLabel
  split
  · next r =>
      cases hTake : r.takeWhile Text.isWordChar with
      | nil => exact .inl rfl
      | cons c t =>
          refine .inr ⟨c :: t, _, ?_, ⟨by simp, ?_⟩, stops_dropWhile _ r⟩
          · rw [← hTake, List.takeWhile_append_dropWhile]
          · intro d hd
            rw [← hTake] at hd
            exact List.mem_takeWhile_imp hd
  · exact .inl rfl

theorem takeLabel_of_begins (h : Begins Text.isWordChar s) : takeLabel s = (none, s) := by
  obtain ⟨c, t, rfl, hc⟩ := h
  unfold takeLabel
  split
  · next hEq =>
      rw [(List.cons.inj hEq).1] at hc
      exact absurd hc (by decide)
  · rfl

end

structure SourceLine.Splits (sl : SourceLine) (text : List Char) : Prop where
  code : sl.code = beforeComment text
  space : ∀ c ∈ sl.operands.head?, Text.isSpace c = true
  front : ∃ lead front, Gap lead ∧ Label front (sl.label.map Piece.text) ∧
    sl.code = lead ++ (front ++ (sl.mnemonic.text ++ sl.operands))

section

variable {text : List Char} {sl : SourceLine} {line : Nat}

theorem splits_of_splitLine (h : splitLine text line = .ok (some sl)) : sl.Splits text := by
  simp only [splitLine] at h
  split at h
  · next mnemonic hMnemonic =>
      cases h
      obtain ⟨hCommand, hNe, hLetters, hSpace⟩ := takeMnemonic_eq_some_iff.mp hMnemonic
      refine ⟨rfl, hSpace, ?_⟩
      obtain ⟨lead, hLead, hGap, hStops⟩ :=
        dropWhile_eq_iff.mp (rfl : (beforeComment text).dropWhile Text.isSpace = _)
      generalize (beforeComment text).dropWhile Text.isSpace = command at hLead hStops hCommand ⊢
      rcases takeLabel_cases command with hNone | ⟨w, rest, rfl, hw, hRest⟩
      · rw [hNone] at hCommand ⊢
        have hDrop : command.dropWhile Text.isSpace = command :=
          dropWhile_append_of_stops (t := []) (by simp) hStops
        rw [hDrop] at hCommand
        exact ⟨lead, [], hGap, .none, by rw [hLead, hCommand]; rfl⟩
      · rw [takeLabel_of_word hw hRest] at hCommand ⊢
        obtain ⟨g, hg, hGapBetween, -⟩ := dropWhile_eq_iff.mp hCommand
        change rest = g ++ _ at hg
        refine ⟨lead, ':' :: (w ++ g), hGap, .some hw hGapBetween ?_, by simp [hLead, hg]⟩
        rintro rfl
        obtain ⟨c, t, hText⟩ := List.exists_cons_of_ne_nil hNe
        have hAlpha := hLetters c (by simp [hText])
        rw [hg, hText, List.nil_append, List.cons_append, stops_cons,
          isWordChar_of_isAlpha hAlpha] at hRest
        cases hRest
  · split at h <;> cases h

theorem splitLine_of_parts {lead front word rest : List Char} {label : Option (List Char)}
    (hText : beforeComment text = lead ++ (front ++ (word ++ rest))) (hLead : Gap lead)
    (hFront : Label front label) (hNe : word ≠ []) (hLetters : ∀ c ∈ word, c.isAlpha = true)
    (hSpace : ∀ c ∈ rest.head?, Text.isSpace c = true) :
    ∃ sl, splitLine text line = .ok (some sl) ∧ sl.label.map Piece.text = label ∧
      sl.mnemonic.text = word ∧ sl.operands = rest := by
  have hMnemonic : takeMnemonic (word ++ rest) = some ⟨word, rest⟩ :=
    takeMnemonic_eq_some_iff.mpr ⟨rfl, hNe, hLetters, hSpace⟩
  have hBegins : Begins Text.isWordChar (word ++ rest) := by
    obtain ⟨c, t, rfl⟩ := List.exists_cons_of_ne_nil hNe
    exact ⟨c, t ++ rest, rfl, isWordChar_of_isAlpha (hLetters c List.mem_cons_self)⟩
  have hStops := hBegins.opens.stops
  cases hFront with
  | none =>
      rw [List.nil_append] at hText
      have hDrop : (word ++ rest).dropWhile Text.isSpace = word ++ rest :=
        dropWhile_append_of_stops (t := []) (by simp) hStops
      refine ⟨⟨beforeComment text, none, ⟨word, rest⟩, rest⟩, ?_, rfl, rfl, rfl⟩
      simp only [splitLine, hText, dropWhile_append_of_stops hLead hStops,
        takeLabel_of_begins hBegins, hDrop, hMnemonic]
  | @some w g hw hg hgNe =>
      have hColon : Stops Text.isSpace (':' :: (w ++ (g ++ (word ++ rest)))) :=
        stops_cons.mpr (by decide)
      have hWordEnd : Stops Text.isWordChar (g ++ (word ++ rest)) := by
        obtain ⟨c, g, rfl⟩ := List.exists_cons_of_ne_nil hgNe
        exact stops_cons.mpr (isWordChar_of_isSpace (hg c List.mem_cons_self))
      rw [List.cons_append, List.append_assoc] at hText
      refine ⟨⟨beforeComment text, some ⟨w, g ++ (word ++ rest)⟩, ⟨word, rest⟩, rest⟩, ?_, rfl,
        rfl, rfl⟩
      simp only [splitLine, hText, dropWhile_append_of_stops hLead hColon,
        takeLabel_of_word hw hWordEnd, dropWhile_append_of_stops hg hStops, hMnemonic]

end

theorem ofMnemonic?_eq_some_iff {name : String} {c : Command} :
    Command.ofMnemonic? name = some c ↔ (name, c) ∈ mnemonics := by
  constructor
  · intro h
    unfold Command.ofMnemonic? at h
    split at h <;> cases h <;> decide
  · have hAll : ∀ m ∈ mnemonics, Command.ofMnemonic? m.1 = some m.2 := by decide
    exact fun h => hAll (name, c) h

theorem toLower_ofList_eq_iff {word : List Char} {name : String} :
    (String.ofList word).toLower = name ↔ Keyword name word := by
  change (String.ofList word).map Char.toLower = name ↔ _
  rw [Keyword, ← String.toList_inj, String.toList_map, String.toList_ofList]

theorem letters_of_mem_mnemonics {name : String} {c : Command} (h : (name, c) ∈ mnemonics) :
    name.toList ≠ [] ∧ ∀ d ∈ name.toList, d.isAlpha = true := by
  have hAll : ∀ m ∈ mnemonics, m.1.toList ≠ [] ∧ m.1.toList.all Char.isAlpha = true := by decide
  obtain ⟨hNe, hLetters⟩ := hAll (name, c) h
  exact ⟨hNe, List.all_eq_true.mp hLetters⟩

theorem statement_eq_ok_iff {sl : SourceLine} {line : Nat} {kind : StatementKind} :
    sl.statement line = .ok kind ↔ ∃ name c, (name, c) ∈ mnemonics ∧
      Keyword name sl.mnemonic.text ∧ Rest c sl.operands kind := by
  simp only [SourceLine.statement]
  constructor
  · intro h
    split at h
    · next c hc =>
        exact ⟨_, c, ofMnemonic?_eq_some_iff.mp hc, toLower_ofList_eq_iff.mp rfl,
          Command.parse_eq_ok_iff.mp h⟩
    · cases h
  · rintro ⟨name, c, hMem, hWord, hRest⟩
    rw [toLower_ofList_eq_iff.mpr hWord, ofMnemonic?_eq_some_iff.mpr hMem]
    exact Command.parse_eq_ok_iff.mpr hRest

/-- A line yields a statement, with its label and what it comes to. -/
def Yields (text : List Char) (line : Nat) (label : Option (List Char)) (kind : StatementKind) :
    Prop :=
  ∃ sl, splitLine text line = .ok (some sl) ∧ sl.label.map Piece.text = label ∧
    sl.statement line = .ok kind

section

variable {text : List Char} {line : Nat} {label : Option (List Char)} {kind : StatementKind}

theorem letters_of_keyword {name : String} {c : Command} {word : List Char}
    (hMem : (name, c) ∈ mnemonics) (hWord : Keyword name word) :
    word ≠ [] ∧ ∀ a ∈ word, a.isAlpha = true := by
  obtain ⟨hName, hNameLetters⟩ := letters_of_mem_mnemonics hMem
  rw [← hWord] at hName hNameLetters
  refine ⟨?_, fun a ha => isAlpha_of_toLower (hNameLetters _ (List.mem_map_of_mem ha))⟩
  rintro rfl
  exact hName rfl

theorem line_of_yields (h : Yields text line label kind) :
    Grammar.Line (beforeComment text) label kind := by
  obtain ⟨sl, hSplit, rfl, hStatement⟩ := h
  obtain ⟨hCode, hSpace, lead, front, hLead, hFront, hText⟩ := splits_of_splitLine hSplit
  obtain ⟨name, c, hMem, hWord, hRest⟩ := statement_eq_ok_iff.mp hStatement
  rw [← hCode, hText]
  exact .mk hLead hFront hMem hWord hSpace hRest

theorem yields_of_line (h : Grammar.Line (beforeComment text) label kind) :
    Yields text line label kind := by
  generalize hText : beforeComment text = code at h
  obtain ⟨hLead, hFront, hMem, hWord, hSpace, hRest⟩ := h
  obtain ⟨hNe, hLetters⟩ := letters_of_keyword hMem hWord
  obtain ⟨sl, hSplit, hLabel, hMnemonic, hOperands⟩ :=
    splitLine_of_parts hText hLead hFront hNe hLetters hSpace
  refine ⟨sl, hSplit, hLabel, statement_eq_ok_iff.mpr ⟨_, _, hMem, ?_, ?_⟩⟩
  · rwa [hMnemonic]
  · rwa [hOperands]

theorem operand_of_rest {name : String} {c : Command} {s : List Char} {i : Instruction}
    (hMem : (name, c) ∈ mnemonics) (h : Rest c s (.instruction i))
    (hUnused : i.op.hasOperand = false) : i.operand = 0 := by
  cases h with
  | display => rfl
  | operands _ hOperands _ =>
      cases hOperands with
      | withB | withX | withMemoryAtB | withMemoryAtX | move | push | pop => rfl
      | loadImmediate | loadMemory | store | withMemory | output | outputIndirect => cases hUnused
      | @toCell _ _ op | @toConstant _ _ op => cases op <;> cases hUnused
      | plain =>
          have hAll : ∀ m ∈ mnemonics, (match m.2 with
              | .plain (.instruction j) => j.op.hasOperand || j.operand == 0
              | _ => true) = true := by decide
          simpa [hUnused] using hAll _ hMem

theorem Yields.operand_eq_zero {i : Instruction} (h : Yields text line label (.instruction i))
    (hUnused : i.op.hasOperand = false) : i.operand = 0 := by
  obtain ⟨sl, -, -, hStatement⟩ := h
  obtain ⟨name, c, hMem, -, hRest⟩ := statement_eq_ok_iff.mp hStatement
  exact operand_of_rest hMem hRest hUnused

end

/-- The lines that yield a statement are those of the grammar. -/
theorem yields_iff_line (text : List Char) (line : Nat) (label : Option (List Char))
    (kind : StatementKind) :
    Yields text line label kind ↔ Grammar.Line (beforeComment text) label kind := by
  constructor
  · exact line_of_yields
  · exact yields_of_line

end Microbus.Assembly
