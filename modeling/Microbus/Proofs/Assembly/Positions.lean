import Microbus.Proofs.Assembly.Overflow
import Microbus.Proofs.Assembly.Printed
import Microbus.Proofs.Assembly.Source

/-! # Positions of literals

Commands take a literal at eight positions, and it means the same at each of them: its value modulo
256, or a malformed line if it does not fit. There is one exception. Where a branch may go to a
label as well, a single number that does not fit is a word, and the line is a branch to the label
of that name.
-/

namespace Microbus.Assembly
set_option autoImplicit false

open Grammar Reader

inductive Position where
  | number (r : DataReg)
  | cell (r : DataReg)
  | store (r : DataReg)
  | memory (op : BinaryOp)
  | output (k : OutputKind)
  | outputCell (k : OutputKind)
  | target (op : Branch)
  | targetCell (op : Branch)
  deriving DecidableEq

namespace Position

@[simp] def command : Position → Command
  | number _ | cell _ => .load
  | store _ => .store
  | memory op => .arithmetic op
  | output _ | outputCell _ => .output
  | target op | targetCell op => .branch op

@[simp] def opcode : Position → Opcode
  | number r => .loadImmediate r
  | cell r => .loadMemory r
  | store r => .store r
  | memory op => .alu op .memory
  | output k => .output k
  | outputCell k => .outputIndirect k
  | target op | targetCell op => op.opcode

/-- What stands in front of the literal and behind it among the operands. -/
inductive Around : Position → List Char → List Char → Prop
  | number {r : DataReg} {t u : List Char} : Separator t → Keyword r.keyword u →
      Around (number r) [] (t ++ u)
  | cell {r : DataReg} {g t u : List Char} : Gap g → Separator t → Keyword r.keyword u →
      Around (cell r) ('$' :: g) (t ++ u)
  | store {r : DataReg} {u t g : List Char} : Keyword r.keyword u → Separator t → Gap g →
      Around (store r) (u ++ (t ++ '$' :: g)) []
  | memory {op : BinaryOp} {g : List Char} : Gap g → Around (memory op) ('$' :: g) []
  | output {k : OutputKind} {u t : List Char} : Keyword k.keyword u → Gap t → t ≠ [] →
      Around (output k) (u ++ t) []
  | outputCell {k : OutputKind} {u t g : List Char} : Keyword k.keyword u → Gap t → t ≠ [] →
      Gap g → Around (outputCell k) (u ++ (t ++ '$' :: g)) []
  | target {op : Branch} : Around (target op) [] []
  | targetCell {op : Branch} {g : List Char} : Gap g → Around (targetCell op) ('$' :: g) []

inductive Holds (pos : Position) (s : List Char) : List Char → Option (List Char) → Prop
  | mk {lead front word g before after h : List Char} {name : String}
      {label : Option (List Char)} : Gap lead → Label front label →
      (name, pos.command) ∈ mnemonics → Keyword name word → Gap g → g ≠ [] →
      Around pos before after → Gap h →
      Holds pos s (lead ++ (front ++ (word ++ (g ++ (before ++ (s ++ after) ++ h))))) label

end Position

/-- In a program with its bytes, a line has become an instruction. Its opcode and its operand stand
behind the two bytes of each statement in front but the noops. -/
def Program.Encodes (p : Program) (bytes : List UInt8) (line : Nat) (i : Instruction) : Prop :=
  ∃ (front back : List Statement) (opcode : UInt8),
    p.statements.toList = front ++ ⟨line, front.length + 1, .instruction i⟩ :: back ∧
    bytes = (front.filterMap (Statement.resolve? p.labels)).flatMap Instruction.toBytes ++
      (i.toBytes ++ (back.filterMap (Statement.resolve? p.labels)).flatMap Instruction.toBytes) ∧
    StandsFor opcode i.op ∧
    bytes[2 * front.countP fun s => s.kind ≠ .noop]? = some opcode ∧
    bytes[2 * (front.countP fun s => s.kind ≠ .noop) + 1]? = some i.operand

def Malformed {α : Type} (line : Nat) (x : Except Refusal α) : Prop :=
  ∃ column problem, x = .error (.malformed line column problem)

section

variable {sl : SourceLine} {line : Nat} {pos : Position} {s g before after h : List Char} {n : Nat}
  {more : Option (Sign × Nat)}

theorem malformed_withLiteral {l : Literal} (h : l.Bad) (op : Opcode) :
    Malformed line (withLiteral sl line op l) := by
  obtain ⟨problem, hValue⟩ := h
  refine ⟨columnOf sl.code l.place, problem, ?_⟩
  simp [withLiteral, Literal.evaluate, Literal.byte?, hValue, Except.map, bind, Except.bind]

theorem malformed_withSource {source : LoadSource} (h : source.literal.Bad)
    (immediate memory : Opcode) : Malformed line (withSource sl line immediate memory source) := by
  cases source with
  | immediate l => exact malformed_withLiteral h immediate
  | memory l => exact malformed_withLiteral h memory

theorem malformed_of_reads {α : Type} {problem : Problem} {p : Reader α} {bad : α → Prop}
    {f : α → Except Refusal StatementKind} (hText : sl.operands = g ++ (s ++ h)) (hg : Gap g)
    (hs : Begins opensOperand s)
    (hReads : ∀ a rest, p (s ++ h) = .ok (a, rest) → Gap rest → bad a)
    (hBad : ∀ a, bad a → Malformed line (f a)) :
    Malformed line (readOperands sl line problem p >>= f) := by
  cases hRead : readOperands sl line problem p with
  | error e =>
      unfold readOperands at hRead
      split at hRead <;> cases hRead
      exact ⟨_, _, rfl⟩
  | ok a =>
      obtain ⟨k, t, rest, hText', hk, hStops, hReader, hRest⟩ :=
        whole_eq_ok_iff.mp (readOperands_eq_ok_iff.mp hRead)
      rw [hText] at hText'
      obtain ⟨-, rfl⟩ := append_unique_of_stops hText' hg (hs.append h).stops hk hStops
      exact hBad a (hReads a rest hReader hRest)

theorem Reader.Rejects.reads {α : Type} {p : Reader α} {bad : α → Prop} {t : List Char}
    (h : Rejects bad p t) : ∀ a rest, p t = .ok (a, rest) → Gap rest → bad a :=
  fun a rest hRead hRest => (h a rest hRead).resolve_right fun hCut => hCut.not_gap hRest

theorem outputOperands_reads {bad : LoadSource → Prop} {k : OutputKind} {u t : List Char}
    (hu : Keyword k.keyword u) (ht : Gap t) (hNe : t ≠ []) (hs : Begins opensOperand s)
    (hSource : Rejects bad loadSource s) :
    ∀ a rest, outputOperands (u ++ (t ++ s)) = .ok (a, rest) → Gap rest →
      ∃ source, a.2 = some source ∧ bad source := by
  rintro ⟨k', source⟩ rest hRead hRest
  have hKindStops : Stops Text.isWordChar (t ++ s) := by
    obtain ⟨c, t, rfl⟩ := List.exists_cons_of_ne_nil hNe
    exact stops_cons.mpr (isWordChar_of_isSpace (ht c List.mem_cons_self))
  have hSpaces := spaces1_eq_ok_iff (u := ()).mpr ⟨t, rfl, hNe, ht, hs.stops⟩
  obtain ⟨k'', mid, hKind, hRead⟩ := Reader.bind_eq_ok_iff.mp hRead
  rw [outputKind_eq_ok_iff.mpr ⟨u, rfl, hu, hKindStops⟩] at hKind
  cases hKind
  obtain ⟨source', left, hOptional, hEnd⟩ := Reader.bind_eq_ok_iff.mp hRead
  cases hEnd
  unfold Reader.optional at hOptional
  rw [bind_of_ok hSpaces] at hOptional
  cases hLoad : loadSource s with
  | ok r =>
      obtain ⟨source', left⟩ := r
      rw [hLoad] at hOptional
      cases hOptional
      exact ⟨source', rfl, hSource.reads source' _ hLoad hRest⟩
  | error place =>
      rw [hLoad] at hOptional
      cases hOptional
      obtain ⟨c, hc, hVisible⟩ := hs.exists_visible
      have hBlank := Text.isBlank_of_isSpace (hRest c (List.mem_append_right t hc))
      rw [hVisible] at hBlank
      cases hBlank

theorem malformed_output {k : OutputKind} {u t : List Char} (hu : Keyword k.keyword u)
    (ht : Gap t) (hNe : t ≠ []) (hs : Begins opensOperand s) (hg : Gap g)
    (hSource : Rejects (fun a => a.literal.Bad) loadSource (s ++ h))
    (hText : sl.operands = g ++ (u ++ (t ++ s) ++ h)) :
    Malformed line (Command.complete .output sl line) := by
  have hBegins : Begins opensOperand (u ++ (t ++ s)) :=
    (hu.begins (by cases k <;> decide)).opens.append _
  have hVisible : ¬ Text.allBlank sl.operands = true := by
    rw [Command.not_allBlank_of_begins hText hBegins]
    exact Bool.false_ne_true
  have hReads := outputOperands_reads hu ht hNe (hs.append h) hSource
  simp only [Command.complete, if_neg hVisible]
  have hReads' : ∀ a rest, outputOperands (u ++ (t ++ s) ++ h) = .ok (a, rest) → Gap rest →
      ∃ source, a.2 = some source ∧ source.literal.Bad := by simpa using hReads
  refine malformed_of_reads hText hg hBegins hReads' ?_
  rintro ⟨kind, source⟩ ⟨source', rfl, hBad⟩
  exact malformed_withSource hBad _ _

theorem Position.Around.begins (hAround : Position.Around pos before after)
    (hs : Begins Char.isDigit s) : Begins opensOperand (before ++ (s ++ after)) := by
  have hDollar : ∀ t, Begins opensOperand ('$' :: t) := fun t => ⟨'$', t, rfl, by decide⟩
  cases hAround with
  | number | target => exact opens_of_digit (hs.append _)
  | cell | memory | targetCell => exact hDollar _
  | @store r u t g hu =>
      rw [List.append_assoc]
      exact (hu.begins (by cases r <;> decide)).opens.append _
  | @output k u t hu | @outputCell k u t g hu =>
      rw [List.append_assoc]
      exact (hu.begins (by cases k <;> decide)).opens.append _

theorem malformed_complete (hAround : Position.Around pos before after) (hs : Writes s n more)
    (hNot : ¬ Fits n more) (hBare : ∀ op, pos = .target op → more ≠ none) (hg : Gap g)
    (hh : Gap h) (hText : sl.operands = g ++ (before ++ (s ++ after) ++ h)) :
    Malformed line (pos.command.complete sl line) := by
  have hBegins := hAround.begins hs.begins
  have hDigit : ∀ t, Begins Char.isDigit (s ++ t) := fun t => hs.begins.append t
  have hDollar : ∀ t, Begins opensOperand ('$' :: t) := fun t => ⟨'$', t, rfl, by decide⟩
  have hLiteral := rejects_literal hs hNot (endsLiteral_of_gap hh)
  have hAddress : ∀ {k}, Gap k → Rejects Literal.Bad address ('$' :: (k ++ (s ++ h))) :=
    fun hk => hLiteral.address (hDigit h) hk
  cases hAround with
  | @number r t u ht hu =>
      have hSource := (rejects_literal hs hNot (endsLiteral_of_separator ht (u ++ h))).immediate
        (hDigit (t ++ (u ++ h)))
      refine malformed_of_reads hText hg hBegins ?_ (fun a hBad => malformed_withSource hBad _ _)
      simpa using (hSource.pairOf_left dataReg).reads
  | @cell r k t u hk ht hu =>
      have hSource := ((rejects_literal hs hNot (endsLiteral_of_separator ht (u ++ h))).address
        (hDigit (t ++ (u ++ h))) hk).cell
      refine malformed_of_reads hText hg hBegins ?_ (fun a hBad => malformed_withSource hBad _ _)
      simpa using (hSource.pairOf_left dataReg).reads
  | @store r u t k hu ht hk =>
      have hReg := dataReg_eq_ok_iff.mpr ⟨u, rfl, hu, ht.stops ('$' :: (k ++ (s ++ h)))⟩
      have hPair := (hAddress hk).pairOf_right hReg ht (hDollar _)
      refine malformed_of_reads hText hg hBegins ?_ (fun a hBad => malformed_withLiteral hBad _)
      simpa using hPair.reads
  | @memory op k hk =>
      have hOperand := (hAddress hk).aluOperand (hDigit h) hk
      refine malformed_of_reads hText hg hBegins (by simpa using hOperand.reads) ?_
      rintro a ⟨l, rfl, hBad⟩
      exact malformed_withLiteral hBad _
  | @output k u t hu ht hNe =>
      have hSource := hLiteral.immediate (hDigit h)
      exact malformed_output hu ht hNe (opens_of_digit hs.begins) hg hSource (by simpa using hText)
  | @outputCell k u t k' hu ht hNe hk =>
      have hSource := (hAddress hk).cell
      exact malformed_output (s := '$' :: (k' ++ s)) hu ht hNe (hDollar _) hg
        (by simpa using hSource) (by simpa using hText)
  | @target op =>
      cases hs with
      | single => exact absurd rfl (hBare op rfl)
      | operation hFirst hGap hGap' hSecond =>
          have hTarget := hLiteral.target hFirst hGap hGap' hSecond
          refine malformed_of_reads hText hg hBegins (by simpa using hTarget.reads) ?_
          rintro a ⟨l, rfl, hBad⟩
          exact malformed_withLiteral hBad _
  | @targetCell op k hk =>
      have hTarget := (hAddress hk).targetCell
      refine malformed_of_reads hText hg hBegins (by simpa using hTarget.reads) ?_
      rintro a ⟨l, rfl, hBad⟩
      exact malformed_withLiteral hBad _

theorem Position.Around.operands {v : Int} (hAround : Position.Around pos before after)
    (hs : Constant s v) : Operands pos.command (before ++ (s ++ after))
      (.instruction ⟨pos.opcode, .ofInt v⟩) := by
  cases hAround with
  | number ht hu => simpa using Operands.loadImmediate hs ht hu
  | cell hg ht hu => simpa using Operands.loadMemory (.mk hg hs) ht hu
  | store hu ht hg => simpa using Operands.store hu ht (.mk hg hs)
  | memory hg => simpa using Operands.withMemory (.mk hg hs)
  | output hu ht hNe => simpa using Operands.output hu ht hNe hs
  | outputCell hu ht hNe hg => simpa using Operands.outputIndirect hu ht hNe (.mk hg hs)
  | target => simpa using Operands.toConstant hs
  | targetCell hg => simpa using Operands.toCell (.mk hg hs)

end

section

variable {pos : Position} {text s : List Char} {label : Option (List Char)} {n line : Nat}
  {more : Option (Sign × Nat)} {kind : StatementKind}

theorem Position.Holds.derives {code : List Char} (h : pos.Holds s code label)
    (hs : ∀ {before after}, Around pos before after →
      Operands pos.command (before ++ (s ++ after)) kind) : Grammar.Line code label kind := by
  obtain ⟨hLead, hFront, hMem, hWord, hg, hNe, hAround, hk⟩ := h
  rename_i g _ _ _ _
  refine .mk hLead hFront hMem hWord ?_ (.operands hg (hs hAround) hk)
  obtain ⟨c, g, rfl⟩ := List.exists_cons_of_ne_nil hNe
  rintro _ ⟨⟩
  exact hg c List.mem_cons_self

theorem Position.Holds.yields_of_fits (h : pos.Holds s (beforeComment text) label)
    (hs : Writes s n more) (hFits : Fits n more) :
    Yields text line label (.instruction ⟨pos.opcode, .ofInt (total n more)⟩) :=
  yields_of_line (h.derives fun hAround => hAround.operands (hs.constant hFits))

theorem not_constant_of_overflow (hs : Digits s) (hNot : ¬ inRange (digitsValue s) = true) (v : Int) :
    ¬ Constant s v := by
  intro h
  cases h with
  | number hNumber =>
      rw [hNumber.value] at hNot
      exact hNot (inRange_natCast.mpr hNumber.small)
  | @operation _ _ _ _ sign =>
      have hSign := hs.2 sign.char (by simp)
      cases sign <;> exact absurd hSign (by decide)

theorem Position.Holds.yields_branch {op : Branch}
    (h : (target op).Holds s (beforeComment text) label) (hs : Writes s n none)
    (hNot : ¬ Fits n none) : Yields text line label (.branch op (labelName s)) := by
  refine yields_of_line (h.derives fun hAround => ?_)
  cases hAround
  cases hs with
  | single hs =>
      have hRange : ¬ inRange (digitsValue s) = true := fun hRange => hNot ⟨hRange, by simp, hRange⟩
      have hWord : Word s := ⟨hs.1, fun c hc => isWordChar_of_isDigit (hs.2 c hc)⟩
      simpa [labelName] using Operands.toLabel hWord (not_constant_of_overflow hs hRange)

theorem Position.Holds.malformed (h : pos.Holds s (beforeComment text) label)
    (hs : Writes s n more) (hNot : ¬ Fits n more)
    (hBare : ∀ op, pos = .target op → more ≠ none) :
    ∃ sl, splitLine text line = .ok (some sl) ∧ Malformed line (sl.statement line) := by
  generalize hText : beforeComment text = code at h
  obtain ⟨hLead, hFront, hMem, hWord, hg, hNe, hAround, hk⟩ := h
  rename_i lead front word g before after k name
  obtain ⟨hWordNe, hLetters⟩ := letters_of_keyword hMem hWord
  have hSpace : ∀ a ∈ (g ++ (before ++ (s ++ after) ++ k)).head?, Text.isSpace a = true := by
    obtain ⟨c, g, rfl⟩ := List.exists_cons_of_ne_nil hNe
    rintro _ ⟨⟩
    exact hg c List.mem_cons_self
  obtain ⟨sl, hSplit, -, hMnemonic, hOperands⟩ :=
    splitLine_of_parts hText hLead hFront hWordNe hLetters hSpace
  refine ⟨sl, hSplit, ?_⟩
  have hComplete : Malformed line (pos.command.complete sl line) :=
    malformed_complete hAround hs hNot hBare hg hk hOperands
  have hVisible := Command.not_allBlank_of_begins hOperands (hAround.begins hs.begins)
  simp only [SourceLine.statement, hMnemonic, toLower_ofList_eq_iff.mpr hWord,
    ofMnemonic?_eq_some_iff.mpr hMem, Command.parse]
  split
  · simpa [hVisible] using hComplete
  · exact hComplete

theorem malformed_addLine {sl : SourceLine} (hSplit : splitLine text line = .ok (some sl))
    (hStatement : Malformed line (sl.statement line)) (p : Program) :
    ∃ column problem, (p.addLine text line).refusal = some (.malformed line column problem) := by
  obtain ⟨column, problem, hError⟩ := hStatement
  simp only [Program.addLine, hSplit]
  unfold Program.addLabel
  cases sl.label with
  | none => exact ⟨column, problem, by simp [hError]⟩
  | some piece =>
      simp only
      cases p.labels.find? (Text.lowercase (String.ofList piece.text)) with
      | none => exact ⟨column, problem, by simp [hError]⟩
      | some index =>
          exact ⟨_, _, rfl⟩

end

section

variable {source : String} {before after : List (List Char)} {text : List Char}

theorem addLines_append {p : Program} {line : Nat} {ls : List (List Char)}
    (h : (p.addLines line ls).refusal = none) (rest : List (List Char)) :
    p.addLines line (ls ++ rest) = (p.addLines line ls).program.addLines (line + ls.length) rest := by
  induction ls generalizing p line with
  | nil => rfl
  | cons text ls ih =>
      cases hFirst : (p.addLine text line).refusal with
      | some e => simp [Program.addLines, hFirst] at h
      | none =>
          simp only [Program.addLines, hFirst, List.cons_append, List.length_cons] at h ⊢
          rw [ih h]
          congr 1
          omega

theorem Sound.addLines (h : Sound before) : (Program.empty.addLines 1 before).refusal = none := by
  rcases gathers_empty.addLines_cases before with ⟨hNone, -⟩ | ⟨done, bad, rest, e, rfl, -, hNot, -⟩
  · exact hNone
  · exact absurd h.follows hNot

theorem malformed_assemble {sl : SourceLine} (hLines : Text.lines source = before ++ text :: after)
    (hSound : Sound before) (hSplit : splitLine text (before.length + 1) = .ok (some sl))
    (hStatement : Malformed (before.length + 1) (sl.statement (before.length + 1))) :
    Malformed (before.length + 1) (assemble source).result := by
  obtain ⟨column, problem, hRefusal⟩ := malformed_addLine hSplit hStatement
    (Program.empty.addLines 1 before).program
  have hScan : (Program.scan source).refusal =
      some (.malformed (before.length + 1) column problem) := by
    rw [Program.scan, hLines, addLines_append hSound.addLines, Nat.add_comm]
    simp [Program.addLines, hRefusal]
  exact ⟨column, problem, by simp [assemble, hScan]⟩

theorem encodes_of_yields {label : Option (List Char)} {i : Instruction} {bytes : List UInt8}
    (hLines : Text.lines source = before ++ text :: after)
    (hYields : Yields text (before.length + 1) label (.instruction i))
    (hResult : (assemble source).result = .ok bytes) :
    (assemble source).program.Encodes bytes (before.length + 1) i := by
  have hAssembles := assembles_of_ok hResult
  have hCode : (code (before ++ text :: after))[(code before).length]? =
      some (text, before.length + 1) := by
    have hText : before ++ text :: after = before ++ [text] ++ after := by simp
    rw [hText, code_append, code_append_visible hYields.not_blank]
    simp
  rw [← hLines] at hCode
  obtain ⟨label', kind, hYields', hStatement⟩ := hAssembles.gathers.statements _ _ _ hCode
  obtain ⟨-, rfl⟩ := hYields.unique hYields'
  rw [← Array.getElem?_toList] at hStatement
  obtain ⟨hLength, hStatement⟩ := List.getElem?_eq_some_iff.mp hStatement
  obtain ⟨front, back, hFront, hSplit⟩ : ∃ front back : List Statement,
      front.length = (code before).length ∧ (assemble source).program.statements.toList =
        front ++ ⟨before.length + 1, (code before).length + 1, .instruction i⟩ :: back := by
    refine ⟨_, (assemble source).program.statements.toList.drop ((code before).length + 1),
      List.length_take_of_le hLength.le, ?_⟩
    rw [← hStatement, ← List.drop_eq_getElem_cons hLength, List.take_append_drop]
  have hEncoded := hAssembles.encoded
  rw [hSplit] at hEncoded
  obtain ⟨opcode, hOpcode, hPlace, hOperand⟩ := hEncoded.at_instruction rfl
  refine ⟨front, back, opcode, by rw [hSplit, hFront], ?_, hOpcode, hPlace, hOperand⟩
  rw [hAssembles.encoding, Program.instructions, hSplit]
  simp [Statement.resolve?]

end

theorem toNat_ofInt (v : Int) : ((UInt8.ofInt v).toNat : Int) = v % 256 := by
  have hByte : (UInt8.ofInt v).toNat = (v % 256).toNat % 256 := UInt8.toNat_ofNat
  rw [hByte]
  omega

/-- A literal means the same at every position: its value modulo 256 if it fits, and otherwise a
malformed line, whatever the lines around it are. Only a single number where a branch could go to a
label is read as the label if it does not fit. -/
theorem literal_at_position (source : String) {before after : List (List Char)}
    {text s : List Char} {pos : Position} {label : Option (List Char)} {n : Nat}
    {more : Option (Sign × Nat)} (hLines : Text.lines source = before ++ text :: after)
    (hHolds : pos.Holds s (beforeComment text) label) (hWrites : Writes s n more) :
    (Fits n more → ∃ b : UInt8, (b.toNat : Int) = total n more % 256 ∧
      Yields text (before.length + 1) label (.instruction ⟨pos.opcode, b⟩) ∧
      ∀ bytes, (assemble source).result = .ok bytes →
        (assemble source).program.Encodes bytes (before.length + 1) ⟨pos.opcode, b⟩) ∧
    (¬ Fits n more → (∀ op, pos = .target op → more ≠ none) →
      (∀ (p : Program) (line : Nat), ∃ column problem,
        (p.addLine text line).refusal = some (.malformed line column problem)) ∧
      (Sound before → Malformed (before.length + 1) (assemble source).result)) ∧
    (¬ Fits n more → ∀ op, pos = .target op → more = none →
      Yields text (before.length + 1) label (.branch op (labelName s))) := by
  refine ⟨fun hFits => ?_, fun hNot hBare => ⟨?_, ?_⟩, ?_⟩
  · have hYields : Yields text (before.length + 1) label _ := hHolds.yields_of_fits hWrites hFits
    exact ⟨_, toNat_ofInt _, hYields, fun bytes hResult => encodes_of_yields hLines hYields hResult⟩
  · intro p line
    obtain ⟨sl, hSplit, hStatement⟩ := hHolds.malformed hWrites hNot hBare
    exact malformed_addLine hSplit hStatement p
  · intro hSound
    obtain ⟨sl, hSplit, hStatement⟩ := hHolds.malformed hWrites hNot hBare
    exact malformed_assemble hLines hSound hSplit hStatement
  · rintro hNot op rfl rfl
    exact hHolds.yields_branch hWrites hNot

theorem Position.Around.holds {pos : Position} {s before after : List Char} {name : String}
    (hAround : Around pos before after) (hMem : (name, pos.command) ∈ mnemonics)
    (hWord : Keyword name name.toList) :
    pos.Holds s (name.toList ++ ' ' :: (before ++ (s ++ after))) none := by
  have hHolds : pos.Holds s ([] ++ ([] ++ (name.toList ++ ([' '] ++ (before ++ (s ++ after) ++ [])))))
      none := .mk nofun .none hMem hWord gap_space (by simp) hAround nofun
  simpa using hHolds

theorem literal_at_position_signs :
    (∃ b : UInt8, (b.toNat : Int) = 255 ∧
      Yields "out dat 1 - 2".toList 1 none (.instruction ⟨.output .data, b⟩)) ∧
    Malformed 1 (assemble "store A, $9223372036854775808").result := by
  have hDat : Position.Around (.output .data) ("dat".toList ++ [' ']) [] :=
    .output rfl gap_space (by simp)
  have hCell : Position.Around (.store .a) ("A".toList ++ (([] ++ ',' :: [' ']) ++ '$' :: [])) [] :=
    .store rfl (.comma nofun gap_space) nofun
  have hOut : (Position.output .data).Holds "1 - 2".toList (beforeComment "out dat 1 - 2".toList)
      none := hDat.holds (show ("out", _) ∈ mnemonics by decide) rfl
  have hStore : (Position.store .a).Holds "9223372036854775808".toList
      (beforeComment "store A, $9223372036854775808".toList) none :=
    hCell.holds (show ("store", _) ∈ mnemonics by decide) rfl
  have hDifference : Writes (['1'] ++ ([' '] ++ Sign.minus.char :: ([' '] ++ ['2']))) 1
      (some (.minus, 2)) :=
    .operation (by simp [Digits]) gap_space gap_space (by simp [Digits])
  have hLarge : Digits "9223372036854775808".toList :=
    ⟨by decide, List.all_eq_true.mp (by decide)⟩
  have hFirst : Text.lines "out dat 1 - 2" = [] ++ "out dat 1 - 2".toList :: [] := rfl
  have hSecond : Text.lines "store A, $9223372036854775808" =
      [] ++ "store A, $9223372036854775808".toList :: [] := rfl
  constructor
  · obtain ⟨b, hValue, hYields, -⟩ :=
      (literal_at_position "out dat 1 - 2" hFirst hOut hDifference).1 (by decide)
    exact ⟨b, hValue, hYields⟩
  · exact ((literal_at_position "store A, $9223372036854775808" hSecond hStore
      (.single hLarge)).2.1 (by decide) (by simp)).2 gathers_empty.sound

/-- The exception is one: not every literal that does not fit makes its line malformed. -/
theorem not_forall_malformed : ¬ ∀ (source : String) (before after : List (List Char))
    (text s : List Char) (pos : Position) (label : Option (List Char)) (n : Nat)
    (more : Option (Sign × Nat)), Text.lines source = before ++ text :: after →
      pos.Holds s (beforeComment text) label → Writes s n more → ¬ Fits n more → Sound before →
        Malformed (before.length + 1) (assemble source).result := by
  intro h
  have hHolds : (Position.target (.jump .always)).Holds "9223372036854775808".toList
      (beforeComment "jmp 9223372036854775808".toList) none :=
    Position.Around.target.holds (show ("jmp", _) ∈ mnemonics by decide) rfl
  have hDigits : Digits "9223372036854775808".toList :=
    ⟨by decide, List.all_eq_true.mp (by decide)⟩
  obtain ⟨column, problem, hResult⟩ := h "jmp 9223372036854775808" [] [] _ _ _ _ _ _ rfl hHolds
    (.single hDigits) (by decide) gathers_empty.sound
  have hUnknown : (assemble "jmp 9223372036854775808").result =
      .error (.unknownLabel 1 "9223372036854775808") := by decide +kernel
  rw [hUnknown] at hResult
  cases hResult

end Microbus.Assembly
