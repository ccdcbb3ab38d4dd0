import Microbus.Proofs.Assembly.Folding
import Microbus.Proofs.Assembly.Lines

/-! # Lines that differ in the case of letters

Two lines with the same folded code come to the same statement, or are refused for the same problem
at the same column. Their numbers may differ, so that refusals are compared up to a relation between
the lines of two texts.
-/

namespace Microbus.Assembly
set_option autoImplicit false

open Grammar Reader

def foldName (name : String) : String := String.ofList (fold name.toList)

def Problem.fold : Problem → Problem
  | duplicateLabel name => duplicateLabel (foldName name)
  | unknownCommand name => unknownCommand (foldName name)
  | problem => problem

def Lack.fold : Lack → Lack
  | command label => command (foldName label)
  | lack => lack

/-- Refusals of one kind at related lines, at the same column or for the same label. -/
inductive Refusal.Alike (R : Nat → Nat → Prop) : Refusal → Refusal → Prop
  | malformed {n n' column : Nat} {problem problem' : Problem} : R n n' →
      problem.fold = problem'.fold →
      Alike R (.malformed n column problem) (.malformed n' column problem')
  | incomplete {n n' : Nat} {lack lack' : Lack} : R n n' → lack.fold = lack'.fold →
      Alike R (.incomplete n lack) (.incomplete n' lack')
  | unknownLabel {n n' : Nat} {label : String} : R n n' →
      Alike R (.unknownLabel n label) (.unknownLabel n' label)

/-- Two results that are both values, and related, or both refusals, and alike. -/
inductive Agrees {α β : Type} (R : Nat → Nat → Prop) (rel : α → β → Prop) :
    Except Refusal α → Except Refusal β → Prop
  | ok {a : α} {b : β} : rel a b → Agrees R rel (.ok a) (.ok b)
  | error {e e' : Refusal} : e.Alike R e' → Agrees R rel (.error e) (.error e')

theorem Agrees.bind {α β γ δ : Type} {R : Nat → Nat → Prop} {rel : α → β → Prop}
    {rel' : γ → δ → Prop} {x : Except Refusal α} {y : Except Refusal β}
    {f : α → Except Refusal γ} {g : β → Except Refusal δ} (h : Agrees R rel x y)
    (hNext : ∀ a b, rel a b → Agrees R rel' (f a) (g b)) : Agrees R rel' (x >>= f) (y >>= g) := by
  cases h with
  | ok hRel => exact hNext _ _ hRel
  | error hAlike => exact .error hAlike

theorem rel_of_map_eq {α β : Type} {f : α → β} {x y : Option α} (h : x.map f = y.map f) :
    Option.Rel (fun a b => f a = f b) x y := by
  cases x with
  | none =>
      cases y with
      | none => exact .none
      | some b => cases h
  | some a =>
      cases y with
      | none => cases h
      | some b => exact .some (Option.some.inj h)

/-! ## Parts of a line -/

def Piece.fold (p : Piece) : Piece := ⟨Assembly.fold p.text, Assembly.fold p.rest⟩

def SourceLine.fold (sl : SourceLine) : SourceLine :=
  ⟨Assembly.fold sl.code, sl.label.map Piece.fold, sl.mnemonic.fold, Assembly.fold sl.operands⟩

section

variable {code code' place place' s s' : List Char}

theorem columnOf_fold (code place : List Char) :
    columnOf (fold code) (fold place) = columnOf code place := by
  have hLine : ∀ s, (fold s).takeWhile (· != '\n') = fold (s.takeWhile (· != '\n')) :=
    takeWhile_fold fun c => apply_toLower (· != '\n') (by decide) c
  have hTake : ∀ n, (fold code).take n = fold (code.take n) := fun n => List.map_take.symm
  have hReverse : ∀ s, (fold s).reverse = fold s.reverse := fun s => List.map_reverse.symm
  simp only [columnOf, length_fold, hTake, hReverse, hLine]

theorem columnOf_eq (hCode : fold code = fold code') (hPlace : fold place = fold place') :
    columnOf code place = columnOf code' place' := by
  rw [← columnOf_fold code, hCode, hPlace, columnOf_fold]

theorem allBlank_eq (h : fold s = fold s') : Text.allBlank s = Text.allBlank s' := by
  rw [← allBlank_fold, h, allBlank_fold]

theorem fold_dropSpaces_eq (h : fold s = fold s') :
    fold (s.dropWhile Text.isSpace) = fold (s'.dropWhile Text.isSpace) := by
  rw [← dropWhile_fold isSpace_toLower, h, dropWhile_fold isSpace_toLower]

theorem beforeComment_fold (s : List Char) : beforeComment (fold s) = fold (beforeComment s) :=
  takeWhile_fold (fun c => apply_toLower (· != '/') (by decide) c) s

theorem takeMnemonic_fold (s : List Char) :
    takeMnemonic (fold s) = (takeMnemonic s).map Piece.fold := by
  simp only [takeMnemonic, takeWhile_fold isAlpha_toLower, dropWhile_fold isAlpha_toLower]
  cases s.takeWhile Char.isAlpha with
  | nil => rfl
  | cons d word =>
      cases s.dropWhile Char.isAlpha with
      | nil => rfl
      | cons c r =>
          simp only [fold_cons, isSpace_toLower]
          split <;> rfl

theorem takeLabel_of_head {c : Char} (hc : c ≠ ':') (s : List Char) :
    takeLabel (c :: s) = (none, c :: s) := by
  unfold takeLabel
  split
  · next hEq => exact absurd (List.cons.inj hEq).1 hc
  · rfl

theorem takeLabel_fold (s : List Char) :
    takeLabel (fold s) = ((takeLabel s).1.map Piece.fold, fold (takeLabel s).2) := by
  cases s with
  | nil => rfl
  | cons c r =>
      have hColon : c.toLower = ':' ↔ c = ':' := toLower_eq_iff (by decide)
      by_cases hc : c = ':'
      · rw [fold_cons, hColon.mpr hc, hc]
        simp only [takeLabel, takeWhile_fold isWordChar_toLower, dropWhile_fold isWordChar_toLower]
        cases r.takeWhile Text.isWordChar <;> rfl
      · rw [takeLabel_of_head hc, fold_cons, takeLabel_of_head (mt hColon.mp hc)]
        rfl

theorem toLower_ofList (word : List Char) :
    (String.ofList word).toLower = String.ofList (fold word) := by
  rw [← String.toList_inj]
  exact (toLower_ofList_eq_iff.mp rfl).symm.trans (String.toList_ofList).symm

theorem fold_place {p p' : Piece} (h : p.fold = p'.fold) : fold p.place = fold p'.place := by
  have hText : fold p.text = fold p'.text := congrArg Piece.text h
  have hRest : fold p.rest = fold p'.rest := congrArg Piece.rest h
  rw [Piece.place, fold_append, hText, hRest, ← fold_append]
  rfl

theorem lowerAfter_fold (before s : List Char) :
    Text.lowerAfter (fold before) (fold s) = Text.lowerAfter before s := by
  have hIgnorable : ∀ c : Char, Text.isCaseIgnorable c.toLower = Text.isCaseIgnorable c :=
    apply_toLower Text.isCaseIgnorable (by decide +kernel)
  have hCased : ∀ c : Char, Text.isCased c.toLower = Text.isCased c :=
    apply_toLower Text.isCased (by decide +kernel)
  have hLower : ∀ c : Char, Text.lowerChar c.toLower = Text.lowerChar c :=
    apply_toLower Text.lowerChar (by decide)
  have hMeets : ∀ s, Text.meetsCased (fold s) = Text.meetsCased s := by
    intro s
    simp only [Text.meetsCased, dropWhile_fold hIgnorable]
    cases s.dropWhile Text.isCaseIgnorable with
    | nil => rfl
    | cons c r => exact hCased c
  induction s generalizing before with
  | nil => rfl
  | cons c s ih =>
      have hSigma : c.toLower = 'Σ' ↔ c = 'Σ' := toLower_eq_iff (by decide)
      have hNext := ih (c :: before)
      rw [fold_cons] at hNext
      simp only [fold_cons, Text.lowerAfter, hSigma, hMeets, hLower, hNext]

theorem lowercase_foldName (name : String) : Text.lowercase (foldName name) = Text.lowercase name := by
  have hText := lowerAfter_fold [] name.toList
  rw [fold_nil] at hText
  rw [Text.lowercase, Text.lowercase, foldName, String.toList_ofList, hText]

theorem lowercase_eq {name name' : String} (h : foldName name = foldName name') :
    Text.lowercase name = Text.lowercase name' := by
  rw [← lowercase_foldName, h, lowercase_foldName]

end

/-! ## Statements -/

section

variable {R : Nat → Nat → Prop} {sl sl' : SourceLine} {n n' : Nat}

theorem agrees_evaluate {l l' : Literal} {code code' : List Char} (hn : R n n')
    (hCode : fold code = fold code') (hl : l.fold = l'.fold) :
    Agrees R Eq (l.evaluate code n) (l'.evaluate code' n') := by
  have hByte : l.byte? = l'.byte? := by
    have hFolded := congrArg Literal.byte? hl
    exact hFolded
  unfold Literal.evaluate
  rw [hByte, columnOf_eq hCode (congrArg Literal.place hl)]
  cases l'.byte? with
  | ok b => exact .ok rfl
  | error problem => exact .error (.malformed hn rfl)

theorem agrees_withLiteral {l l' : Literal} (hn : R n n') (hs : sl.fold = sl'.fold)
    (hl : l.fold = l'.fold) (op : Opcode) :
    Agrees R Eq (withLiteral sl n op l) (withLiteral sl' n' op l') := by
  refine (agrees_evaluate hn (congrArg SourceLine.code hs) hl).bind ?_
  rintro b _ rfl
  exact .ok rfl

theorem agrees_withSource {source source' : LoadSource} (hn : R n n') (hs : sl.fold = sl'.fold)
    (hSource : source.fold = source'.fold) (immediate memory : Opcode) :
    Agrees R Eq (withSource sl n immediate memory source)
      (withSource sl' n' immediate memory source') := by
  cases source with
  | immediate l =>
      cases source' with
      | immediate l' => exact agrees_withLiteral hn hs (LoadSource.immediate.inj hSource) immediate
      | memory l' => cases hSource
  | memory l =>
      cases source' with
      | immediate l' => cases hSource
      | memory l' => exact agrees_withLiteral hn hs (LoadSource.memory.inj hSource) memory

theorem agrees_readOperands {α : Type} {f : α → α} {p : Reader α} (hFolds : Folds f p p)
    (hn : R n n') (hs : sl.fold = sl'.fold) (problem : Problem) :
    Agrees R (fun a b => f a = f b) (readOperands sl n problem p)
      (readOperands sl' n' problem p) := by
  have hCode : fold sl.code = fold sl'.code := congrArg SourceLine.code hs
  have hOperands : fold sl.operands = fold sl'.operands := congrArg SourceLine.operands hs
  have hWhole := whole_fold hFolds sl.operands
  rw [hOperands, whole_fold hFolds sl'.operands] at hWhole
  unfold readOperands
  cases hLeft : whole p sl.operands with
  | ok a =>
      cases hRight : whole p sl'.operands with
      | ok b =>
          rw [hLeft, hRight] at hWhole
          exact .ok (Except.ok.inj hWhole).symm
      | error place =>
          rw [hLeft, hRight] at hWhole
          cases hWhole
  | error place =>
      cases hRight : whole p sl'.operands with
      | ok b =>
          rw [hLeft, hRight] at hWhole
          cases hWhole
      | error place' =>
          rw [hLeft, hRight] at hWhole
          simp only [columnOf_eq hCode (Except.error.inj hWhole).symm]
          exact .error (.malformed hn rfl)

theorem AluOperand.fold_eq_cases {a a' : AluOperand} (h : a.fold = a'.fold) :
    a = a' ∨ ∃ l l', a = memory l ∧ a' = memory l' ∧ l.fold = l'.fold := by
  cases a <;> cases a' <;> simp_all [AluOperand.fold]

theorem agrees_arithmetic (hn : R n n') (hs : sl.fold = sl'.fold) (op : BinaryOp) :
    Agrees R Eq (Command.complete (.arithmetic op) sl n)
      (Command.complete (.arithmetic op) sl' n') := by
  refine (agrees_readOperands folds_aluOperand hn hs _).bind ?_
  intro a a' hOperand
  rcases AluOperand.fold_eq_cases hOperand with rfl | ⟨l, l', rfl, rfl, hLiteral⟩
  · cases a with
    | b | x | memoryAtB | memoryAtX => exact .ok rfl
    | memory l => exact agrees_withLiteral hn hs rfl _
  · exact agrees_withLiteral hn hs hLiteral _

theorem agrees_output (hn : R n n') (hs : sl.fold = sl'.fold) :
    Agrees R Eq (Command.complete .output sl n) (Command.complete .output sl' n') := by
  have hOperands : fold sl.operands = fold sl'.operands := congrArg SourceLine.operands hs
  simp only [Command.complete, allBlank_eq hOperands]
  split
  · exact .ok rfl
  · refine (agrees_readOperands folds_outputOperands hn hs _).bind ?_
    rintro ⟨k, source⟩ ⟨k', source'⟩ hPair
    obtain ⟨rfl, hSource⟩ := Prod.ext_iff.mp hPair
    cases rel_of_map_eq hSource with
    | none => exact .error (.incomplete hn rfl)
    | some hSame => exact agrees_withSource hn hs hSame _ _

theorem agrees_branch (hn : R n n') (hs : sl.fold = sl'.fold) (op : Branch) :
    Agrees R Eq (Command.complete (.branch op) sl n) (Command.complete (.branch op) sl' n') := by
  refine (agrees_readOperands folds_target hn hs _).bind ?_
  intro goal goal' hGoal
  cases goal with
  | address l =>
      cases goal' with
      | address l' => exact agrees_withLiteral hn hs (Target.address.inj hGoal) _
      | label name' => cases hGoal
  | label name =>
      cases goal' with
      | address l' => cases hGoal
      | label name' =>
          have hName : foldName name = foldName name' := Target.label.inj hGoal
          refine .ok ?_
          rw [lowercase_eq hName]

theorem agrees_complete (hn : R n n') (hs : sl.fold = sl'.fold) (c : Command) :
    Agrees R Eq (c.complete sl n) (c.complete sl' n') := by
  cases c with
  | arithmetic op => exact agrees_arithmetic hn hs op
  | output => exact agrees_output hn hs
  | branch op => exact agrees_branch hn hs op
  | load =>
      refine (agrees_readOperands (folds_loadSource.pairOf folds_dataReg) hn hs _).bind ?_
      rintro ⟨source, r⟩ ⟨source', r'⟩ hPair
      obtain ⟨hSource, rfl⟩ := Prod.ext_iff.mp hPair
      exact agrees_withSource hn hs hSource _ _
  | store =>
      refine (agrees_readOperands (folds_dataReg.pairOf folds_address) hn hs _).bind ?_
      rintro ⟨r, l⟩ ⟨r', l'⟩ hPair
      obtain ⟨rfl, hLiteral⟩ := Prod.ext_iff.mp hPair
      exact agrees_withLiteral hn hs hLiteral _
  | move =>
      refine (agrees_readOperands (folds_moveSource.pairOf folds_moveTarget) hn hs _).bind ?_
      rintro ⟨source, goal⟩ ⟨source', goal'⟩ hPair
      obtain ⟨rfl, rfl⟩ := Prod.ext_iff.mp hPair
      exact .ok rfl
  | push | pop =>
      refine (agrees_readOperands folds_dataReg hn hs _).bind ?_
      rintro r _ rfl
      exact .ok rfl
  | plain kind =>
      refine (agrees_readOperands folds_atEnd hn hs _).bind ?_
      rintro _ _ -
      exact .ok rfl

theorem agrees_parse (hn : R n n') (hs : sl.fold = sl'.fold) (c : Command) :
    Agrees R Eq (c.parse sl n) (c.parse sl' n') := by
  have hOperands : fold sl.operands = fold sl'.operands := congrArg SourceLine.operands hs
  simp only [Command.parse, allBlank_eq hOperands]
  split
  · split
    · exact .error (.incomplete hn rfl)
    · exact agrees_complete hn hs c
  · exact agrees_complete hn hs c

theorem agrees_statement (hn : R n n') (hs : sl.fold = sl'.fold) :
    Agrees R Eq (sl.statement n) (sl'.statement n') := by
  have hCode : fold sl.code = fold sl'.code := congrArg SourceLine.code hs
  have hMnemonic : sl.mnemonic.fold = sl'.mnemonic.fold := congrArg SourceLine.mnemonic hs
  have hText : fold sl.mnemonic.text = fold sl'.mnemonic.text := congrArg Piece.text hMnemonic
  have hWord : (String.ofList sl.mnemonic.text).toLower =
      (String.ofList sl'.mnemonic.text).toLower := by
    rw [toLower_ofList, hText, toLower_ofList]
  simp only [SourceLine.statement, hWord]
  split
  · exact agrees_parse hn hs _
  · rw [columnOf_eq hCode (fold_place hMnemonic)]
    refine .error (.malformed hn ?_)
    simp only [Problem.fold, foldName, String.toList_ofList, hText]

theorem agrees_splitLine {text text' : List Char} (hn : R n n')
    (hText : fold (beforeComment text) = fold (beforeComment text')) :
    Agrees R (fun a b => a.map SourceLine.fold = b.map SourceLine.fold) (splitLine text n)
      (splitLine text' n') := by
  simp only [splitLine]
  generalize hCode : beforeComment text = code at hText
  generalize hCode' : beforeComment text' = code' at hText
  have hLabel := takeLabel_fold (code.dropWhile Text.isSpace)
  rw [fold_dropSpaces_eq hText, takeLabel_fold] at hLabel
  generalize takeLabel (code.dropWhile Text.isSpace) = front at hLabel
  generalize takeLabel (code'.dropWhile Text.isSpace) = front' at hLabel
  obtain ⟨label, afterLabel⟩ := front
  obtain ⟨label', afterLabel'⟩ := front'
  obtain ⟨hLabel, hAfter⟩ := Prod.ext_iff.mp hLabel
  have hCommand := fold_dropSpaces_eq hAfter.symm
  dsimp only at hLabel hCommand ⊢
  generalize afterLabel.dropWhile Text.isSpace = command at hCommand
  generalize afterLabel'.dropWhile Text.isSpace = command' at hCommand
  have hMnemonic : (takeMnemonic command).map Piece.fold =
      (takeMnemonic command').map Piece.fold := by
    rw [← takeMnemonic_fold, hCommand, takeMnemonic_fold]
  have hMnemonics := rel_of_map_eq hMnemonic
  generalize takeMnemonic command = mnemonic at hMnemonics
  generalize takeMnemonic command' = mnemonic' at hMnemonics
  cases hMnemonics with
  | @some mnemonic mnemonic' hPiece =>
      have hRest : fold mnemonic.rest = fold mnemonic'.rest := congrArg Piece.rest hPiece
      refine .ok ?_
      simp only [Option.map_some, SourceLine.fold, hText, hLabel, hPiece, hRest]
  | none =>
      simp only [allBlank_eq hCommand]
      cases Text.allBlank command' with
      | false =>
          rw [columnOf_eq hText hCommand]
          cases label <;> cases label' <;> exact .error (.malformed hn rfl)
      | true =>
          cases rel_of_map_eq hLabel with
          | none => exact .ok rfl
          | @some piece' piece hPiece =>
              have hName : fold piece.text = fold piece'.text :=
                (congrArg Piece.text hPiece).symm
              refine .error (.incomplete hn ?_)
              simp only [Lack.fold, foldName, String.toList_ofList, hName]

end

end Microbus.Assembly
