import Microbus.Assembly.Program
import Microbus.Proofs.Assembly.Lines

/-! # The first pass

The pass over the lines gathers a statement for each line that is not blank, and the labels with
the place of their line among these. After any number of lines the program is determined by them
(`Gathers`); the next line either keeps this or ends the pass with a refusal that names it.
-/

namespace Microbus.Assembly
set_option autoImplicit false

open Grammar

def Blank (text : List Char) : Prop := Text.allBlank (beforeComment text) = true

instance (text : List Char) : Decidable (Blank text) := inferInstanceAs (Decidable (_ = true))

def code (ls : List (List Char)) : List (List Char × Nat) :=
  (ls.zipIdx 1).filter fun l => ¬ Blank l.1

def labelName (word : List Char) : String := Text.lowercase (String.ofList word)

def Defines (ls : List (List Char)) (k : Nat) (name : String) : Prop :=
  ∃ text n word kind, (code ls)[k]? = some (text, n) ∧ Yields text n (some word) kind ∧
    labelName word = name

/-- Every line is blank or yields a statement, and no label is defined twice. -/
structure Sound (ls : List (List Char)) : Prop where
  lines : ∀ text n, (text, n) ∈ ls.zipIdx 1 → Blank text ∨ ∃ label kind, Yields text n label kind
  labels : ∀ j k name, Defines ls j name → Defines ls k name → j = k

/-- A line can come after others: it is blank, or yields a statement and repeats no label. -/
def Follows (before : List (List Char)) (text : List Char) : Prop :=
  Blank text ∨ ∃ label kind, Yields text (before.length + 1) label kind ∧
    ∀ word ∈ label, ∀ k, ¬ Defines before k (labelName word)

/-- What a program holds after the first pass over some lines. -/
structure Gathers (ls : List (List Char)) (p : Program) : Prop where
  size : p.statements.size = (code ls).length
  statements : ∀ k text n, (code ls)[k]? = some (text, n) →
    ∃ label kind, Yields text n label kind ∧
      p.statements[k]? = some (⟨n, k + 1, kind⟩ : Statement)
  labels : ∀ name index, p.labels.find? name = some index ↔
    ∃ k, index = k + 1 ∧ Defines ls k name

/-! ## Refusals name their line -/

def Blames {α : Type} (line : Nat) (x : Except Refusal α) : Prop :=
  ∀ e, x = .error e → e.line = line

section

variable {α β : Type} {sl : SourceLine} {line : Nat}

theorem Blames.ok (a : α) : Blames line (.ok a) := by
  rintro e ⟨⟩

theorem Blames.bind {x : Except Refusal α} {f : α → Except Refusal β} (hx : Blames line x)
    (hf : ∀ a, Blames line (f a)) : Blames line (x >>= f) := by
  intro e h
  cases x with
  | error e' =>
      cases h
      exact hx e rfl
  | ok a => exact hf a e h

theorem blames_readOperands (problem : Problem) (p : Reader α) :
    Blames line (readOperands sl line problem p) := by
  intro e h
  unfold readOperands at h
  split at h <;> cases h
  rfl

theorem blames_withLiteral (op : Opcode) (l : Literal) :
    Blames line (withLiteral sl line op l) := by
  refine .bind ?_ fun operand => .ok _
  intro e h
  unfold Literal.evaluate at h
  split at h <;> cases h
  rfl

theorem blames_withSource (immediate memory : Opcode) (source : LoadSource) :
    Blames line (withSource sl line immediate memory source) := by
  cases source with
  | immediate l => exact blames_withLiteral immediate l
  | memory l => exact blames_withLiteral memory l

theorem blames_complete (c : Command) : Blames line (c.complete sl line) := by
  cases c with
  | load => exact .bind (blames_readOperands _ _) fun a => blames_withSource _ _ a.1
  | store => exact .bind (blames_readOperands _ _) fun a => blames_withLiteral _ a.2
  | arithmetic op =>
      refine .bind (blames_readOperands _ _) fun operand => ?_
      cases operand with
      | b | x | memoryAtB | memoryAtX => exact .ok _
      | memory l => exact blames_withLiteral _ l
  | output =>
      simp only [Command.complete]
      split
      · exact .ok _
      · refine .bind (blames_readOperands _ _) fun a => ?_
        obtain ⟨k, source⟩ := a
        cases source with
        | none =>
            rintro e ⟨⟩
            rfl
        | some source => exact blames_withSource _ _ source
  | branch op =>
      refine .bind (blames_readOperands _ _) fun goal => ?_
      cases goal with
      | address l => exact blames_withLiteral _ l
      | label name => exact .ok _
  | move | push | pop | plain => exact .bind (blames_readOperands _ _) fun _ => .ok _

theorem blames_statement : Blames line (sl.statement line) := by
  simp only [SourceLine.statement]
  split
  · next c _ =>
      unfold Command.parse
      split
      · split
        · rintro e ⟨⟩
          rfl
        · exact blames_complete c
      · exact blames_complete c
  · rintro e ⟨⟩
    rfl

theorem blames_splitLine (text : List Char) : Blames line (splitLine text line) := by
  intro e h
  simp only [splitLine] at h
  split at h
  · cases h
  · split at h <;> cases h <;> rfl

end

/-! ## Blank lines -/

theorem isBlank_takeWhile {s : List Char} {kind : Char → Bool}
    (hKind : ∀ c, kind c = true → Text.isBlank c = false) (h : Text.allBlank s = true) :
    s.takeWhile kind = [] := by
  cases s with
  | nil => rfl
  | cons c s =>
      have hc := List.all_eq_true.mp h c List.mem_cons_self
      cases hk : kind c with
      | false => simp [hk]
      | true => rw [hKind c hk] at hc; cases hc

theorem allBlank_dropWhile (s : List Char) :
    Text.allBlank (s.dropWhile Text.isSpace) = Text.allBlank s := by
  induction s with
  | nil => rfl
  | cons c s ih =>
      cases hc : Text.isSpace c with
      | true => simpa [hc, Text.allBlank, Text.isBlank_of_isSpace hc] using ih
      | false => simp [hc]

theorem takeLabel_of_allBlank {s : List Char} (h : Text.allBlank s = true) :
    takeLabel s = (none, s) := by
  rcases takeLabel_cases s with hNone | ⟨w, rest, rfl, -⟩
  · exact hNone
  · exact absurd (List.all_eq_true.mp h ':' List.mem_cons_self) (by decide)

theorem splitLine_eq_ok_none_iff {text : List Char} {line : Nat} :
    splitLine text line = .ok none ↔ Blank text := by
  constructor
  · intro h
    simp only [splitLine] at h
    split at h
    · cases h
    · split at h
      · next hLabel hBlank =>
          rcases takeLabel_cases ((beforeComment text).dropWhile Text.isSpace) with
            hNone | ⟨w, rest, hText, hw, hRest⟩
          · rw [hNone] at hBlank
            rwa [allBlank_dropWhile, allBlank_dropWhile] at hBlank
          · rw [hText, takeLabel_of_word hw hRest] at hLabel
            cases hLabel
      · cases h
      · cases h
  · intro h
    have hBlank : Text.allBlank ((beforeComment text).dropWhile Text.isSpace) = true := by
      rw [allBlank_dropWhile]
      exact h
    have hBlank' := (allBlank_dropWhile ((beforeComment text).dropWhile Text.isSpace)).trans hBlank
    have hTake := isBlank_takeWhile
      (fun c hc => isBlank_of_isWordChar (isWordChar_of_isAlpha hc)) hBlank'
    simp only [splitLine, takeLabel_of_allBlank hBlank, takeMnemonic, hTake, hBlank']

theorem Yields.not_blank {text : List Char} {line : Nat} {label : Option (List Char)}
    {kind : StatementKind} (h : Yields text line label kind) : ¬ Blank text := by
  obtain ⟨sl, hSplit, -⟩ := h
  intro hBlank
  rw [splitLine_eq_ok_none_iff.mpr hBlank] at hSplit
  cases hSplit

/-! ## Adding lines -/

section

variable {ls before after : List (List Char)} {text : List Char} {n : Nat}

theorem code_append : code (ls ++ after) = code ls ++
    (after.zipIdx (ls.length + 1)).filter fun l => ¬ Blank l.1 := by
  simp [code, List.zipIdx_append, Nat.add_comm]

theorem code_append_blank (h : Blank text) : code (ls ++ [text]) = code ls := by
  simp [code_append, h]

theorem code_append_visible (h : ¬ Blank text) :
    code (ls ++ [text]) = code ls ++ [(text, ls.length + 1)] := by
  simp [code_append, h]

theorem getElem?_code_append_visible (h : ¬ Blank text) {k : Nat} {l : List Char × Nat} :
    (code (ls ++ [text]))[k]? = some l ↔
      (code ls)[k]? = some l ∨ k = (code ls).length ∧ l = (text, ls.length + 1) := by
  rw [code_append_visible h]
  rcases Nat.lt_trichotomy k (code ls).length with hk | rfl | hk
  · simp [List.getElem?_append_left hk, Nat.ne_of_lt hk]
  · simp [eq_comm]
  · have hk' : (code ls).length ≤ k := by omega
    simp [List.getElem?_append_right hk', List.getElem?_eq_none hk', Nat.ne_of_gt hk,
      Nat.sub_ne_zero_of_lt hk]

theorem Defines.append {k : Nat} {name : String} (h : Defines ls k name)
    (after : List (List Char)) : Defines (ls ++ after) k name := by
  obtain ⟨text, n, word, kind, hLine, hYields, hName⟩ := h
  refine ⟨text, n, word, kind, ?_, hYields, hName⟩
  rw [code_append, List.getElem?_append_left (List.getElem?_eq_some_iff.mp hLine).1]
  exact hLine

theorem Defines.lt {k : Nat} {name : String} (h : Defines ls k name) : k < (code ls).length := by
  obtain ⟨text, n, word, kind, hLine, -⟩ := h
  exact (List.getElem?_eq_some_iff.mp hLine).1

theorem mem_numbered : (text, before.length + 1) ∈ (before ++ text :: after).zipIdx 1 := by
  simp [List.zipIdx_append, Nat.add_comm]

theorem Yields.unique {label label' : Option (List Char)} {kind kind' : StatementKind}
    (h : Yields text n label kind) (h' : Yields text n label' kind') :
    label = label' ∧ kind = kind' := by
  obtain ⟨sl, hSplit, rfl, hStatement⟩ := h
  obtain ⟨sl', hSplit', rfl, hStatement'⟩ := h'
  rw [hSplit] at hSplit'
  cases hSplit'
  rw [hStatement] at hStatement'
  cases hStatement'
  exact ⟨rfl, rfl⟩

theorem defines_append_iff {k : Nat} {name : String} {label : Option (List Char)}
    {kind : StatementKind} (h : Yields text (ls.length + 1) label kind) :
    Defines (ls ++ [text]) k name ↔ Defines ls k name ∨
      k = (code ls).length ∧ ∃ word ∈ label, labelName word = name := by
  constructor
  · rintro ⟨text', n, word, kind', hLine, hYields, rfl⟩
    rcases (getElem?_code_append_visible h.not_blank).mp hLine with hLine | ⟨rfl, hEq⟩
    · exact .inl ⟨text', n, word, kind', hLine, hYields, rfl⟩
    · cases hEq
      exact .inr ⟨rfl, word, (h.unique hYields).1, rfl⟩
  · rintro (hDefined | ⟨rfl, word, rfl, rfl⟩)
    · exact hDefined.append _
    · refine ⟨text, ls.length + 1, word, kind, ?_, h, rfl⟩
      exact (getElem?_code_append_visible h.not_blank).mpr (.inr ⟨rfl, rfl⟩)

theorem Sound.follows (h : Sound (before ++ text :: after)) : Follows before text := by
  rcases h.lines text (before.length + 1) mem_numbered with hBlank | ⟨label, kind, hYields⟩
  · exact .inl hBlank
  · refine .inr ⟨label, kind, hYields, ?_⟩
    intro word hWord k hDefined
    have hText : before ++ text :: after = (before ++ [text]) ++ after := by simp
    have hOwn := (defines_append_iff hYields).mpr (.inr ⟨rfl, word, hWord, rfl⟩)
    have hEarlier := hDefined.append (text :: after)
    rw [hText] at h hEarlier
    exact absurd (h.labels k _ _ hEarlier (hOwn.append after)) (Nat.ne_of_lt hDefined.lt)

theorem Gathers.sound {p : Program} (h : Gathers ls p) : Sound ls := by
  constructor
  · intro text n hLine
    by_cases hBlank : Blank text
    · exact .inl hBlank
    · have hCode : (text, n) ∈ code ls := List.mem_filter.mpr ⟨hLine, by simpa using hBlank⟩
      obtain ⟨k, hk⟩ := List.mem_iff_getElem?.mp hCode
      obtain ⟨label, kind, hYields, -⟩ := h.statements k text n hk
      exact .inr ⟨label, kind, hYields⟩
  · intro j k name hj hk
    have hFirst := (h.labels name (j + 1)).mpr ⟨j, rfl, hj⟩
    rw [(h.labels name (k + 1)).mpr ⟨k, rfl, hk⟩] at hFirst
    simpa using hFirst.symm

end

namespace LabelTable

variable {t : LabelTable} {name other : String} {index : Nat}

theorem find?_insert : (t.insert name index).find? other =
    if other = name then some index else t.find? other := by
  obtain ⟨entries⟩ := t
  simp only [find?, insert, List.lookup_cons]
  split
  · next h => simp_all
  · next h =>
      have hNe : other ≠ name := by simpa using h
      rw [if_neg hNe]
      induction entries with
      | nil => rfl
      | cons e entries ih =>
          obtain ⟨key, value⟩ := e
          by_cases hKey : key = name
          · subst hKey
            simpa [List.lookup_cons, h] using ih
          · have hKeep : (key != name) = true := by simpa using hKey
            simp only [List.filter_cons, hKeep, if_true, List.lookup_cons, ih]

end LabelTable

theorem gathers_empty : Gathers [] Program.empty := by
  refine ⟨rfl, ?_, ?_⟩
  · intro k text n hLine
    cases hLine
  · intro name index
    constructor
    · intro h
      cases h
    · rintro ⟨k, -, hDefined⟩
      exact absurd hDefined.lt (Nat.not_lt_zero k)

section

variable {ls : List (List Char)} {p : Program} {text : List Char}

theorem Gathers.blank (h : Gathers ls p) (hBlank : Blank text) : Gathers (ls ++ [text]) p := by
  have hCode : code (ls ++ [text]) = code ls := code_append_blank hBlank
  have hDefines : ∀ k name, Defines (ls ++ [text]) k name ↔ Defines ls k name := by
    intro k name
    simp only [Defines, hCode]
  refine ⟨by rw [hCode]; exact h.size, ?_, ?_⟩
  · intro k text n hLine
    rw [hCode] at hLine
    exact h.statements k text n hLine
  · intro name index
    simp only [hDefines]
    exact h.labels name index

theorem Gathers.statement {label : Option (List Char)} {kind : StatementKind} {t : LabelTable}
    (h : Gathers ls p) (hYields : Yields text (ls.length + 1) label kind)
    (hTable : ∀ name index, t.find? name = some index ↔ p.labels.find? name = some index ∨
      index = p.nextIndex ∧ ∃ word ∈ label, labelName word = name) :
    Gathers (ls ++ [text])
      (({ p with labels := t } : Program).addStatement (ls.length + 1) kind) := by
  have hCode : code (ls ++ [text]) = code ls ++ [(text, ls.length + 1)] :=
    code_append_visible hYields.not_blank
  refine ⟨?_, ?_, ?_⟩
  · simp [Program.addStatement, hCode, h.size]
  · intro k text' n hLine
    rcases (getElem?_code_append_visible hYields.not_blank).mp hLine with hLine | ⟨rfl, hEq⟩
    · obtain ⟨label', kind', hYields', hStatement⟩ := h.statements k text' n hLine
      obtain ⟨hk, hStatement⟩ := Array.getElem?_eq_some_iff.mp hStatement
      refine ⟨label', kind', hYields', ?_⟩
      simp only [Program.addStatement]
      rw [Array.getElem?_push_lt hk, hStatement]
    · cases hEq
      refine ⟨label, kind, hYields, ?_⟩
      simp [Program.addStatement, Program.nextIndex, ← h.size]
  · intro name index
    simp only [Program.addStatement, hTable, h.labels, defines_append_iff hYields,
      Program.nextIndex, h.size]
    constructor
    · rintro (⟨k, rfl, hDefined⟩ | ⟨rfl, hOwn⟩)
      · exact ⟨k, rfl, .inl hDefined⟩
      · exact ⟨_, rfl, .inr ⟨rfl, hOwn⟩⟩
    · rintro ⟨k, rfl, hDefined | ⟨rfl, hOwn⟩⟩
      · exact .inl ⟨k, rfl, hDefined⟩
      · exact .inr ⟨rfl, hOwn⟩

theorem Gathers.addLabel_cases (h : Gathers ls p) {sl : SourceLine}
    {label : Option (List Char)} (hLabel : sl.label.map Piece.text = label) :
    (∃ t, p.addLabel sl (ls.length + 1) = ⟨{ p with labels := t }, none⟩ ∧
      (∀ name index, t.find? name = some index ↔ p.labels.find? name = some index ∨
        index = p.nextIndex ∧ ∃ word ∈ label, labelName word = name) ∧
      ∀ word ∈ label, ∀ k, ¬ Defines ls k (labelName word)) ∨
    ∃ e, (p.addLabel sl (ls.length + 1)).refusal = some e ∧ e.line = ls.length + 1 ∧
      ∃ word ∈ label, ∃ k, Defines ls k (labelName word) := by
  subst hLabel
  unfold Program.addLabel
  cases sl.label with
  | none => exact .inl ⟨p.labels, rfl, by simp, by simp⟩
  | some piece =>
      cases hFind : p.labels.find? (labelName piece.text) with
      | none =>
          refine .inl ⟨p.labels.insert (labelName piece.text) p.nextIndex, ?_, ?_, ?_⟩
          · simp only [labelName] at hFind ⊢
            rw [hFind]
          · intro name index
            rw [LabelTable.find?_insert]
            by_cases hName : name = labelName piece.text
            · subst hName
              simp [hFind, eq_comm]
            · simp [hName, Ne.symm hName]
          · rintro word ⟨⟩ k hDefined
            rw [(h.labels _ (k + 1)).mpr ⟨k, rfl, hDefined⟩] at hFind
            cases hFind
      | some index =>
          obtain ⟨k, -, hDefined⟩ := (h.labels _ index).mp hFind
          refine .inr ⟨.malformed (ls.length + 1) (columnOf sl.code piece.place)
            (.duplicateLabel (String.ofList piece.text)), ?_, rfl, piece.text, rfl, k, hDefined⟩
          simp only [labelName] at hFind
          simp [hFind]

theorem Gathers.addLine_cases (h : Gathers ls p) (text : List Char) :
    (p.addLine text (ls.length + 1)).refusal = none ∧ Follows ls text ∧
      Gathers (ls ++ [text]) (p.addLine text (ls.length + 1)).program ∨
    ¬ Follows ls text ∧
      ∃ e, (p.addLine text (ls.length + 1)).refusal = some e ∧ e.line = ls.length + 1 := by
  unfold Program.addLine
  cases hSplit : splitLine text (ls.length + 1) with
  | error e =>
      refine .inr ⟨?_, e, rfl, blames_splitLine text e hSplit⟩
      rintro (hBlank | ⟨label, kind, ⟨sl, hSplit', -⟩, -⟩)
      · rw [splitLine_eq_ok_none_iff.mpr hBlank] at hSplit
        cases hSplit
      · rw [hSplit'] at hSplit
        cases hSplit
  | ok parts =>
      cases parts with
      | none =>
          have hBlank := splitLine_eq_ok_none_iff.mp hSplit
          exact .inl ⟨rfl, .inl hBlank, h.blank hBlank⟩
      | some sl =>
          have hVisible : ¬ Blank text := by
            intro hBlank
            rw [splitLine_eq_ok_none_iff.mpr hBlank] at hSplit
            cases hSplit
          have hOwn : ∀ label kind, Yields text (ls.length + 1) label kind →
              sl.label.map Piece.text = label ∧ sl.statement (ls.length + 1) = .ok kind := by
            rintro label kind ⟨sl', hSplit', hLabel, hStatement⟩
            rw [hSplit] at hSplit'
            cases hSplit'
            exact ⟨hLabel, hStatement⟩
          rcases h.addLabel_cases (rfl : sl.label.map Piece.text = _) with
            ⟨t, hAdd, hTable, hNew⟩ | ⟨e, hAdd, hLine, word, hWord, k, hDefined⟩
          · simp only [hAdd]
            cases hStatement : sl.statement (ls.length + 1) with
            | error e =>
                refine .inr ⟨?_, e, rfl, blames_statement e hStatement⟩
                rintro (hBlank | ⟨label, kind, hYields, -⟩)
                · exact hVisible hBlank
                · rw [(hOwn label kind hYields).2] at hStatement
                  cases hStatement
            | ok kind =>
                have hYields : Yields text (ls.length + 1) (sl.label.map Piece.text) kind :=
                  ⟨sl, hSplit, rfl, hStatement⟩
                exact .inl ⟨rfl, .inr ⟨_, kind, hYields, hNew⟩, h.statement hYields hTable⟩
          · simp only [hAdd]
            refine .inr ⟨?_, e, rfl, hLine⟩
            rintro (hBlank | ⟨label, kind, hYields, hNew⟩)
            · exact hVisible hBlank
            · rw [(hOwn label kind hYields).1] at hWord
              exact hNew word hWord k hDefined

/-- The pass over lines: it takes up all of them, or ends at the first that cannot follow. -/
theorem Gathers.addLines_cases {done : List (List Char)} (h : Gathers done p)
    (rest : List (List Char)) :
    (p.addLines (done.length + 1) rest).refusal = none ∧
      Gathers (done ++ rest) (p.addLines (done.length + 1) rest).program ∨
    ∃ before text after e, rest = before ++ text :: after ∧ Sound (done ++ before) ∧
      ¬ Follows (done ++ before) text ∧
      (p.addLines (done.length + 1) rest).refusal = some e ∧
      e.line = (done ++ before).length + 1 ∧
      ∀ other, p.addLines (done.length + 1) (before ++ text :: other) =
        p.addLines (done.length + 1) rest := by
  induction rest generalizing done p with
  | nil => exact .inl ⟨rfl, by simpa [Program.addLines] using h⟩
  | cons text rest ih =>
      rcases h.addLine_cases text with ⟨hNone, -, hNext⟩ | ⟨hNot, e, hSome, hLine⟩
      · have hStep : ∀ other, p.addLines (done.length + 1) (text :: other) =
            (p.addLine text (done.length + 1)).program.addLines ((done ++ [text]).length + 1)
              other := by
          intro other
          simp [Program.addLines, hNone]
        rcases ih hNext with
          ⟨hEnd, hAll⟩ | ⟨before, bad, after, e, rfl, hSound, hNot, hEnd, hLine, hCut⟩
        · rw [hStep]
          exact .inl ⟨hEnd, by simpa using hAll⟩
        · have hText : done ++ [text] ++ before = done ++ text :: before := by simp
          rw [hText] at hSound hNot hLine
          refine .inr ⟨text :: before, bad, after, e, rfl, hSound, hNot, ?_, hLine, ?_⟩
          · rw [hStep]
            exact hEnd
          · intro other
            rw [List.cons_append, hStep, hStep]
            exact hCut other
      · have hStep : ∀ other, p.addLines (done.length + 1) (text :: other) =
            p.addLine text (done.length + 1) := by
          intro other
          simp [Program.addLines, hSome]
        refine .inr ⟨[], text, rest, e, rfl, ?_, ?_, ?_, ?_, ?_⟩
        · simpa using h.sound
        · simpa using hNot
        · rw [hStep]
          exact hSome
        · simpa using hLine
        · intro other
          rw [List.nil_append, hStep, hStep]

end

end Microbus.Assembly
