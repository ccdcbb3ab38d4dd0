import Mathlib.Data.List.Forall2
import Mathlib.Logic.Relation
import Microbus.Proofs.Assembly.Source
import Microbus.Proofs.Assembly.Variants

/-! # Formatting

Blank lines, comments and the case of letters do not matter to a program. What matters of a source
text is its essence, the folded code of its lines that are not blank: edits of the format keep it,
and two texts with one essence are assembled alike. Only the numbers of lines differ, and lines of
code correspond to each other in their order.
-/

namespace Microbus.Assembly
set_option autoImplicit false

open Grammar

/-! ## Passes over related lines -/

structure Statement.Alike (R : Nat → Nat → Prop) (s s' : Statement) : Prop where
  line : R s.line s'.line
  index : s.index = s'.index
  kind : s.kind = s'.kind

structure Program.Alike (R : Nat → Nat → Prop) (p p' : Program) : Prop where
  labels : p.labels = p'.labels
  statements : List.Forall₂ (Statement.Alike R) p.statements.toList p'.statements.toList

structure Pass.Alike (R : Nat → Nat → Prop) (x x' : Pass) : Prop where
  program : x.program.Alike R x'.program
  refusal : Option.Rel (Refusal.Alike R) x.refusal x'.refusal

section

variable {R : Nat → Nat → Prop} {p p' : Program} {sl sl' : SourceLine} {n n' : Nat}

theorem Program.Alike.nextIndex (h : p.Alike R p') : p.nextIndex = p'.nextIndex := by
  have hLength := h.statements.length_eq
  simp only [Array.length_toList] at hLength
  rw [Program.nextIndex, Program.nextIndex, hLength]

theorem Program.Alike.addStatement (h : p.Alike R p') (hn : R n n') (kind : StatementKind) :
    (p.addStatement n kind).Alike R (p'.addStatement n' kind) := by
  refine ⟨h.labels, ?_⟩
  simp only [Program.addStatement, Array.toList_push]
  exact List.rel_append h.statements (.cons ⟨hn, h.nextIndex, rfl⟩ .nil)

theorem Program.Alike.addLabel (h : p.Alike R p') (hn : R n n') (hs : sl.fold = sl'.fold) :
    (p.addLabel sl n).Alike R (p'.addLabel sl' n') := by
  have hCode : fold sl.code = fold sl'.code := congrArg SourceLine.code hs
  have hLabel : sl.label.map Piece.fold = sl'.label.map Piece.fold := congrArg SourceLine.label hs
  have hLabels := rel_of_map_eq hLabel
  unfold Program.addLabel
  generalize sl.label = label at hLabels
  generalize sl'.label = label' at hLabels
  cases hLabels with
  | none => exact ⟨h, .none⟩
  | @some piece piece' hPiece =>
      have hText : fold piece.text = fold piece'.text := congrArg Piece.text hPiece
      have hName : foldName (String.ofList piece.text) = foldName (String.ofList piece'.text) := by
        simp only [foldName, String.toList_ofList, hText]
      have hLower := lowercase_eq hName
      have hAdded : Program.Alike R
          ⟨p.labels.insert (Text.lowercase (String.ofList piece.text)) p.nextIndex, p.statements⟩
          ⟨p'.labels.insert (Text.lowercase (String.ofList piece'.text)) p'.nextIndex,
            p'.statements⟩ :=
        ⟨by rw [h.labels, hLower, h.nextIndex], h.statements⟩
      simp only [h.labels, hLower, columnOf_eq hCode (fold_place hPiece)] at hAdded ⊢
      cases p'.labels.find? (Text.lowercase (String.ofList piece'.text)) with
      | none => exact ⟨hAdded, .none⟩
      | some index => exact ⟨hAdded, .some (.malformed hn (congrArg Problem.duplicateLabel hName))⟩

theorem Program.Alike.addLine {text text' : List Char} (h : p.Alike R p') (hn : R n n')
    (hText : fold (beforeComment text) = fold (beforeComment text')) :
    (p.addLine text n).Alike R (p'.addLine text' n') := by
  have hSplit := agrees_splitLine hn hText
  unfold Program.addLine
  generalize splitLine text n = parts at hSplit
  generalize splitLine text' n' = parts' at hSplit
  cases hSplit with
  | error hAlike => exact ⟨h, .some hAlike⟩
  | @ok line line' hParts =>
      cases rel_of_map_eq hParts with
      | none => exact ⟨h, .none⟩
      | @some sl sl' hs =>
          have hLabelled := h.addLabel hn hs
          have hStatement := agrees_statement hn hs
          simp only
          generalize p.addLabel sl n = x at hLabelled
          generalize p'.addLabel sl' n' = x' at hLabelled
          obtain ⟨program, refusal⟩ := x
          obtain ⟨program', refusal'⟩ := x'
          obtain ⟨hProgram, hRefusal⟩ := hLabelled
          cases hRefusal with
          | some hAlike => exact ⟨hProgram, .some hAlike⟩
          | none =>
              generalize sl.statement n = result at hStatement
              generalize sl'.statement n' = result' at hStatement
              cases hStatement with
              | error hAlike => exact ⟨hProgram, .some hAlike⟩
              | @ok kind _ hKind =>
                  cases hKind
                  exact ⟨hProgram.addStatement hn kind, .none⟩

def Program.addNumbered (p : Program) : List (List Char × Nat) → Pass
  | [] => ⟨p, none⟩
  | (text, n) :: rest =>
      match (p.addLine text n).refusal with
      | some _ => p.addLine text n
      | none => (p.addLine text n).program.addNumbered rest

theorem addLines_eq_addNumbered (p : Program) (n : Nat) (ls : List (List Char)) :
    p.addLines n ls = p.addNumbered ((ls.zipIdx n).filter fun l => ¬ Blank l.1) := by
  induction ls generalizing p n with
  | nil => rfl
  | cons text ls ih =>
      by_cases hBlank : Blank text
      · have hNone : p.addLine text n = ⟨p, none⟩ := by
          simp only [Program.addLine, splitLine_eq_ok_none_iff.mpr hBlank]
        simpa [Program.addLines, hNone, hBlank] using ih p (n + 1)
      · rw [List.zipIdx_cons, List.filter_cons_of_pos (by simpa using hBlank)]
        cases hRefusal : (p.addLine text n).refusal with
        | some e => simp only [Program.addLines, Program.addNumbered, hRefusal]
        | none => simp only [Program.addLines, Program.addNumbered, hRefusal, ih]

theorem Program.Alike.addNumbered {ls ls' : List (List Char × Nat)} (h : p.Alike R p')
    (hLines : List.Forall₂ (fun l l' => fold (beforeComment l.1) = fold (beforeComment l'.1) ∧
      R l.2 l'.2) ls ls') : (p.addNumbered ls).Alike R (p'.addNumbered ls') := by
  induction hLines generalizing p p' with
  | nil => exact ⟨h, .none⟩
  | @cons l l' ls ls' hLine _ ih =>
      obtain ⟨text, n⟩ := l
      obtain ⟨text', n'⟩ := l'
      have hNext := h.addLine hLine.2 hLine.1
      simp only [Program.addNumbered]
      generalize p.addLine text n = x at hNext
      generalize p'.addLine text' n' = x' at hNext
      obtain ⟨program, refusal⟩ := x
      obtain ⟨program', refusal'⟩ := x'
      obtain ⟨hProgram, hRefusal⟩ := hNext
      cases hRefusal with
      | some hAlike => exact ⟨hProgram, .some hAlike⟩
      | none => exact ih hProgram

theorem agrees_encodeAll {labels : LabelTable} {ss ss' : List Statement}
    (h : List.Forall₂ (Statement.Alike R) ss ss') :
    Agrees R Eq (Program.encodeAll labels ss) (Program.encodeAll labels ss') := by
  induction h with
  | nil => exact .ok rfl
  | @cons s s' ss ss' hs _ ih =>
      have hFirst : Agrees R Eq (Program.encode labels s) (Program.encode labels s') := by
        unfold Program.encode
        rw [hs.kind]
        cases s'.kind with
        | noop | instruction => exact .ok rfl
        | branch op label =>
            simp only
            cases labels.find? label with
            | some index => exact .ok rfl
            | none => exact .error (.unknownLabel hs.line)
      refine hFirst.bind ?_
      rintro bytes _ rfl
      refine ih.bind ?_
      rintro others _ rfl
      exact .ok rfl

end

/-! ## Edits of the format -/

def pieces (source : String) : List (List Char) := source.toList.splitOn '\n'

/-- One edit of the format: a blank line comes or goes, a line gets a remark, or letters change
their case. -/
inductive Edit : String → String → Prop
  | insert {source source' : String} {before after : List (List Char)} {text : List Char} :
      pieces source = before ++ after → pieces source' = before ++ text :: after → Blank text →
      Edit source source'
  | delete {source source' : String} {before after : List (List Char)} {text : List Char} :
      pieces source = before ++ text :: after → pieces source' = before ++ after → Blank text →
      Edit source source'
  | comment {source source' : String} {before after : List (List Char)} {text remark : List Char} :
      pieces source = before ++ text :: after →
      pieces source' = before ++ (text ++ '/' :: remark) :: after → Edit source source'
  | letters {source source' : String} : fold source.toList = fold source'.toList →
      Edit source source'

def essenceOf (ls : List (List Char)) : List (List Char) :=
  (ls.map fun text => fold (beforeComment text)).filter fun code => ¬ Text.allBlank code

section

variable {source source' : String} {before after ls : List (List Char)} {text : List Char}

theorem essenceOf_blank (h : Blank text) : essenceOf (before ++ text :: after) =
    essenceOf (before ++ after) := by
  have hBlank : Text.allBlank (fold (beforeComment text)) = true := by rwa [allBlank_fold]
  simp [essenceOf, hBlank]

theorem beforeComment_comment (text remark : List Char) :
    beforeComment (text ++ '/' :: remark) = beforeComment text := by
  induction text with
  | nil => rfl
  | cons c text ih =>
      simp only [beforeComment, List.cons_append, List.takeWhile_cons] at ih ⊢
      rw [ih]

theorem essenceOf_map_fold (ls : List (List Char)) : essenceOf (ls.map fold) = essenceOf ls := by
  simp [essenceOf, Function.comp_def, beforeComment_fold, fold_fold]

theorem splitOn_cons (c : Char) (cs : List Char) :
    (c :: cs).splitOn '\n' = if c = '\n' then [] :: cs.splitOn '\n'
      else (cs.splitOn '\n').modifyHead (List.cons c) := by
  simp [List.splitOn, List.splitOnP_cons_eq_if_modifyHead]

theorem splitOn_fold (cs : List Char) :
    (fold cs).splitOn '\n' = (cs.splitOn '\n').map fold := by
  induction cs with
  | nil => rfl
  | cons c cs ih =>
      have hFeed : c.toLower = '\n' ↔ c = '\n' := toLower_eq_iff (by decide)
      by_cases hc : c = '\n'
      · simp [splitOn_cons, hc, ih]
      · simp only [fold_cons, splitOn_cons, hFeed, hc, if_false, ih]
        cases cs.splitOn '\n' <;> rfl

theorem Edit.essence_eq (h : Edit source source') :
    essenceOf (pieces source) = essenceOf (pieces source') := by
  cases h with
  | insert hOld hNew hBlank => rw [hOld, hNew, essenceOf_blank hBlank]
  | delete hOld hNew hBlank => rw [hOld, hNew, essenceOf_blank hBlank]
  | comment hOld hNew =>
      rw [hOld, hNew]
      simp only [essenceOf, List.map_append, List.map_cons, beforeComment_comment]
  | letters hFold =>
      rw [pieces, pieces, ← essenceOf_map_fold, ← splitOn_fold, hFold, splitOn_fold,
        essenceOf_map_fold]

theorem essence_eq_of_edits (h : Relation.ReflTransGen Edit source source') :
    essenceOf (pieces source) = essenceOf (pieces source') := by
  induction h with
  | refl => rfl
  | tail _ hLast ih => exact ih.trans hLast.essence_eq

/-! ## Lines of texts without carriage returns -/

theorem essenceOf_cons_congr {ls' : List (List Char)} (h : essenceOf ls = essenceOf ls') :
    essenceOf (text :: ls) = essenceOf (text :: ls') := by
  simp only [essenceOf, List.map_cons, List.filter_cons] at h ⊢
  rw [h]

theorem dropReturn_of_head {line : List Char} (h : line.head? ≠ some '\r') :
    Text.dropReturn line = line := by
  unfold Text.dropReturn
  split
  · exact absurd rfl h
  · rfl

theorem modifyHead_append_nil (ls : List (List Char)) : ls.modifyHead ([] ++ ·) = ls := by
  cases ls <;> rfl

theorem essenceOf_linesFrom {line cs : List Char} (hLine : line.head? ≠ some '\r') (h : '\r' ∉ cs) :
    essenceOf (Text.linesFrom line cs) =
      essenceOf ((cs.splitOn '\n').modifyHead (line.reverse ++ ·)) := by
  induction cs generalizing line with
  | nil =>
      cases line with
      | nil => decide
      | cons c line => simp [Text.linesFrom]
  | cons c cs ih =>
      have hc : c ≠ '\r' := fun hEq => h (by simp [hEq])
      have hcs : '\r' ∉ cs := fun hMem => h (List.mem_cons_of_mem c hMem)
      by_cases hFeed : c = '\n'
      · have hRest : essenceOf (Text.linesFrom [] cs) =
            essenceOf ((cs.splitOn '\n').modifyHead ([] ++ ·)) := ih (by simp) hcs
        rw [modifyHead_append_nil] at hRest
        simp only [Text.linesFrom, hFeed, if_true, dropReturn_of_head hLine, splitOn_cons,
          List.modifyHead_cons, List.append_nil]
        exact essenceOf_cons_congr hRest
      · have hHead : (c :: line).head? ≠ some '\r' := by simpa using hc
        simpa [Text.linesFrom, hFeed, splitOn_cons, Function.comp_def] using ih hHead hcs

theorem essenceOf_lines (h : '\r' ∉ source.toList) :
    essenceOf (Text.lines source) = essenceOf (pieces source) := by
  have hLines : essenceOf (Text.linesFrom [] source.toList) =
      essenceOf ((source.toList.splitOn '\n').modifyHead ([] ++ ·)) :=
    essenceOf_linesFrom (by simp) h
  rwa [modifyHead_append_nil] at hLines

theorem essenceOf_eq_code (ls : List (List Char)) :
    essenceOf ls = (code ls).map fun l => fold (beforeComment l.1) := by
  have hNumbered : ∀ n, essenceOf ls =
      ((ls.zipIdx n).filter fun l => ¬ Blank l.1).map fun l => fold (beforeComment l.1) := by
    induction ls with
    | nil => intro n; rfl
    | cons text ls ih =>
        intro n
        have hRest := ih (n + 1)
        by_cases hBlank : Blank text
        · have hFolded : Text.allBlank (fold (beforeComment text)) = true := by
            rwa [allBlank_fold]
          simpa [essenceOf, hBlank, hFolded] using hRest
        · have hFolded : ¬ Text.allBlank (fold (beforeComment text)) = true := by
            rwa [allBlank_fold]
          simpa [essenceOf, hBlank, hFolded] using hRest
  exact hNumbered 1

end

/-- Two lines of code that stand at the same place among those of their texts. -/
def Corresponds (source source' : String) (n n' : Nat) : Prop :=
  ∃ text text', ((text, n), (text', n')) ∈
    (code (Text.lines source)).zip (code (Text.lines source'))

theorem forall₂_code {source source' : String}
    (h : essenceOf (Text.lines source) = essenceOf (Text.lines source')) :
    List.Forall₂ (fun l l' => fold (beforeComment l.1) = fold (beforeComment l'.1) ∧
      Corresponds source source' l.2 l'.2) (code (Text.lines source))
        (code (Text.lines source')) := by
  rw [essenceOf_eq_code, essenceOf_eq_code] at h
  have hCode : List.Forall₂ (fun l l' => fold (beforeComment l.1) = fold (beforeComment l'.1))
      (code (Text.lines source)) (code (Text.lines source')) := by
    rw [← List.forall₂_eq_eq_eq] at h
    exact List.forall₂_map_right_iff.mp (List.forall₂_map_left_iff.mp h)
  refine List.forall₂_iff_zip.mpr ⟨hCode.length_eq, fun {l l'} hMem => ?_⟩
  exact ⟨(List.forall₂_iff_zip.mp hCode).2 hMem, l.1, l'.1, hMem⟩

theorem scan_alike {source source' : String}
    (h : essenceOf (Text.lines source) = essenceOf (Text.lines source')) :
    (Program.scan source).Alike (Corresponds source source') (Program.scan source') := by
  have hEmpty : Program.empty.Alike (Corresponds source source') .empty := ⟨rfl, .nil⟩
  rw [Program.scan, Program.scan, addLines_eq_addNumbered, addLines_eq_addNumbered]
  exact hEmpty.addNumbered (forall₂_code h)

/-- Formatting does not change the program. Texts that edits of the format lead to are both
accepted, with the same bytes, or both refused, for the same reason at corresponding lines; and the
labels and statements that were gathered are the same in any case. -/
theorem assemble_of_edits {source source' : String}
    (hEdits : Relation.ReflTransGen Edit source source') (h : '\r' ∉ source.toList)
    (h' : '\r' ∉ source'.toList) :
    (assemble source).program.Alike (Corresponds source source') (assemble source').program ∧
      Agrees (Corresponds source source') Eq (assemble source).result (assemble source').result := by
  have hEssence : essenceOf (Text.lines source) = essenceOf (Text.lines source') := by
    rw [essenceOf_lines h, essence_eq_of_edits hEdits, essenceOf_lines h']
  have hScan := scan_alike hEssence
  unfold assemble
  generalize Program.scan source = pass at hScan
  generalize Program.scan source' = pass' at hScan
  obtain ⟨p, refusal⟩ := pass
  obtain ⟨p', refusal'⟩ := pass'
  obtain ⟨hProgram, hRefusal⟩ := hScan
  cases hRefusal with
  | some hAlike => exact ⟨hProgram, .error hAlike⟩
  | none =>
      refine ⟨hProgram, ?_⟩
      simp only [Program.bytes]
      rw [hProgram.labels]
      exact agrees_encodeAll hProgram.statements

theorem assemble_of_edits_remarks :
    (assemble "jmp A\n:a halt").result = .ok [0xa0, 2, 1, 0] ∧
    (assemble "// start\nJMP a// ON\n:A Halt").result = .ok [0xa0, 2, 1, 0] := by
  have hOld : pieces "jmp A\n:a halt" = [] ++ ["jmp A".toList, ":a halt".toList] := by decide
  have hStarted : pieces "// start\njmp A\n:a halt" =
      [] ++ "// start".toList :: ["jmp A".toList, ":a halt".toList] := by decide
  have hBefore : pieces "// start\njmp A\n:a halt" =
      ["// start".toList] ++ "jmp A".toList :: [":a halt".toList] := by decide
  have hRemark : pieces "// start\njmp A// on\n:a halt" =
      ["// start".toList] ++ ("jmp A".toList ++ '/' :: "/ on".toList) :: [":a halt".toList] := by
    decide
  have hInsert : Edit "jmp A\n:a halt" "// start\njmp A\n:a halt" :=
    .insert hOld hStarted (by decide)
  have hComment : Edit "// start\njmp A\n:a halt" "// start\njmp A// on\n:a halt" :=
    .comment hBefore hRemark
  have hLetters : Edit "// start\njmp A// on\n:a halt" "// start\nJMP a// ON\n:A Halt" :=
    .letters (by decide)
  have hEdits : Relation.ReflTransGen Edit "jmp A\n:a halt" "// start\nJMP a// ON\n:A Halt" :=
    ((Relation.ReflTransGen.single hInsert).tail hComment).tail hLetters
  have hFirst : (assemble "jmp A\n:a halt").result = .ok [0xa0, 2, 1, 0] := by decide +kernel
  have hAgrees := (assemble_of_edits hEdits (by decide) (by decide)).2
  rw [hFirst] at hAgrees
  refine ⟨hFirst, ?_⟩
  generalize (assemble "// start\nJMP a// ON\n:A Halt").result = result at hAgrees
  cases hAgrees with
  | ok hBytes => rw [hBytes]

end Microbus.Assembly
