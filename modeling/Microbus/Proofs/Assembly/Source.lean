import Microbus.Proofs.Assembly.Scan

/-! # Whole source texts

The second pass resolves statements into instructions, in order, and stops at the first branch to
a label that nothing defines. The bytes are two for each instruction, its opcode and its operand.
Together with the first pass this settles which source texts are accepted, what becomes of them, and
which line a refusal is about.
-/

namespace Microbus.Assembly
set_option autoImplicit false

/-! ## The second pass -/

/-- The instruction of a statement; a branch goes to the index of its label modulo 256. -/
def Statement.resolve? (labels : LabelTable) (s : Statement) : Option Instruction :=
  match s.kind with
  | .noop => none
  | .instruction i => some i
  | .branch op name => (labels.find? name).map fun index => ⟨op.opcode, UInt8.ofNat index⟩

def Program.instructions (p : Program) : List Instruction :=
  p.statements.toList.filterMap (Statement.resolve? p.labels)

def Statement.Dangles (labels : LabelTable) (s : Statement) (name : String) : Prop :=
  ∃ op, s.kind = .branch op name ∧ labels.find? name = none

section

variable {labels : LabelTable} {s : Statement} {ss : List Statement}

theorem encode_cases (labels : LabelTable) (s : Statement) :
    (∀ name, ¬ s.Dangles labels name) ∧
      Program.encode labels s = .ok ((s.resolve? labels).toList.flatMap Instruction.toBytes) ∨
    ∃ name, s.Dangles labels name ∧
      Program.encode labels s = .error (.unknownLabel s.line name) := by
  unfold Program.encode Statement.resolve? Statement.Dangles
  cases s.kind with
  | noop => exact .inl ⟨by simp, rfl⟩
  | instruction i => exact .inl ⟨by simp, by simp⟩
  | branch op name =>
      cases hFind : labels.find? name with
      | none => exact .inr ⟨name, ⟨op, rfl, hFind⟩, by simp [hFind]⟩
      | some index =>
          refine .inl ⟨?_, by simp [hFind]⟩
          rintro _ ⟨_, ⟨⟩, hNone⟩
          rw [hFind] at hNone
          cases hNone

/-- The second pass encodes all statements, or stops at the first that cannot be resolved. -/
theorem encodeAll_cases (labels : LabelTable) (ss : List Statement) :
    (∀ s ∈ ss, ∀ name, ¬ s.Dangles labels name) ∧ Program.encodeAll labels ss =
      .ok ((ss.filterMap (Statement.resolve? labels)).flatMap Instruction.toBytes) ∨
    ∃ before s after name, ss = before ++ s :: after ∧
      (∀ t ∈ before, ∀ other, ¬ t.Dangles labels other) ∧ s.Dangles labels name ∧
      Program.encodeAll labels ss = .error (.unknownLabel s.line name) := by
  induction ss with
  | nil => exact .inl ⟨by simp, rfl⟩
  | cons s ss ih =>
      rcases encode_cases labels s with ⟨hFine, hFirst⟩ | ⟨name, hDangles, hFirst⟩
      · rcases ih with ⟨hAll, hRest⟩ | ⟨before, t, after, name, rfl, hBefore, hDangles, hRest⟩
        · refine .inl ⟨List.forall_mem_cons.mpr ⟨hFine, hAll⟩, ?_⟩
          simp only [Program.encodeAll, hFirst, hRest, bind, Except.bind, pure, Except.pure]
          cases hResolve : s.resolve? labels with
          | none => simp [hResolve]
          | some i => simp [hResolve]
        · refine .inr ⟨s :: before, t, after, name, rfl, List.forall_mem_cons.mpr ⟨hFine, hBefore⟩,
            hDangles, ?_⟩
          simp only [Program.encodeAll, hFirst, hRest, bind, Except.bind]
      · refine .inr ⟨[], s, ss, name, rfl, by simp, hDangles, ?_⟩
        simp only [Program.encodeAll, hFirst, bind, Except.bind]

theorem length_flatMap_toBytes (is : List Instruction) :
    (is.flatMap Instruction.toBytes).length = 2 * is.length := by
  induction is with
  | nil => rfl
  | cons i is ih =>
      simp only [List.flatMap_cons, List.length_append, List.length_cons, ih, Instruction.toBytes,
        List.length_nil]
      omega

end

/-! ## The bytes of statements -/

/-- A byte stands for an opcode if it reads as the opcode. A move of a register to itself has a byte
of its own that reads as none. -/
inductive StandsFor : UInt8 → Opcode → Prop
  | reads {b : UInt8} {op : Opcode} : Opcode.ofByte? b = some op → StandsFor b op
  | moveA : StandsFor 0x22 (.move .a .a)
  | moveB : StandsFor 0x26 (.move .b .b)

/-- Statements with their bytes: none for a noop, and two for any other, the opcode and the operand,
which for a branch is the index of its label modulo 256. -/
inductive Encoded (labels : LabelTable) : List Statement → List UInt8 → Prop
  | nil : Encoded labels [] []
  | noop {s : Statement} {ss : List Statement} {bytes : List UInt8} : s.kind = .noop →
      Encoded labels ss bytes → Encoded labels (s :: ss) bytes
  | instruction {s : Statement} {ss : List Statement} {bytes : List UInt8} {i : Instruction}
      {opcode : UInt8} : s.kind = .instruction i → StandsFor opcode i.op →
      Encoded labels ss bytes → Encoded labels (s :: ss) (opcode :: i.operand :: bytes)
  | branch {s : Statement} {ss : List Statement} {bytes : List UInt8} {op : Branch}
      {name : String} {index : Nat} {opcode operand : UInt8} : s.kind = .branch op name →
      labels.find? name = some index → Opcode.ofByte? opcode = some op.opcode →
      operand.toNat = index % 256 → Encoded labels ss bytes →
      Encoded labels (s :: ss) (opcode :: operand :: bytes)

section

variable {labels : LabelTable} {ss front back : List Statement} {bytes : List UInt8}

theorem standsFor_toByte (op : Opcode) : StandsFor op.toByte op := by
  by_cases hMove : op.IsSelfMove
  · obtain rfl | rfl := hMove
    · exact .moveA
    · exact .moveB
  · exact .reads (Opcode.ofByte?_toByte hMove)

theorem Branch.ofByte?_toByte (op : Branch) :
    Opcode.ofByte? op.opcode.toByte = some op.opcode := by
  refine Opcode.ofByte?_toByte ?_
  cases op <;> simp [Branch.opcode, Opcode.IsSelfMove]

theorem Branch.hasOperand (op : Branch) : op.opcode.hasOperand = true := by
  cases op <;> rfl

theorem encoded_of_resolved (hFine : ∀ s ∈ ss, ∀ name, ¬ s.Dangles labels name)
    (hUnused : ∀ s ∈ ss, ∀ i, s.kind = .instruction i → i.op.hasOperand = false → i.operand = 0) :
    Encoded labels ss ((ss.filterMap (Statement.resolve? labels)).flatMap Instruction.toBytes) := by
  induction ss with
  | nil => exact .nil
  | cons s ss ih =>
      obtain ⟨hFirst, hFine⟩ := List.forall_mem_cons.mp hFine
      obtain ⟨hZero, hUnused⟩ := List.forall_mem_cons.mp hUnused
      have hRest := ih hFine hUnused
      cases hKind : s.kind with
      | noop =>
          have hResolve : s.resolve? labels = none := by simp [Statement.resolve?, hKind]
          rw [List.filterMap_cons_none hResolve]
          exact .noop hKind hRest
      | instruction i =>
          have hResolve : s.resolve? labels = some i := by simp [Statement.resolve?, hKind]
          have hBytes : i.toBytes = [i.op.toByte, i.operand] := by
            cases hOperand : i.op.hasOperand with
            | false => simp [Instruction.toBytes, hOperand, hZero i hKind hOperand]
            | true => simp [Instruction.toBytes, hOperand]
          rw [List.filterMap_cons_some hResolve, List.flatMap_cons, hBytes]
          exact .instruction hKind (standsFor_toByte i.op) hRest
      | branch op name =>
          obtain ⟨index, hFind⟩ := Option.ne_none_iff_exists'.mp
            fun hNone => hFirst name ⟨op, hKind, hNone⟩
          have hResolve : s.resolve? labels = some ⟨op.opcode, UInt8.ofNat index⟩ := by
            simp [Statement.resolve?, hKind, hFind]
          rw [List.filterMap_cons_some hResolve, List.flatMap_cons, Instruction.toBytes,
            if_pos op.hasOperand]
          exact .branch hKind hFind op.ofByte?_toByte UInt8.toNat_ofNat hRest

theorem Encoded.length (h : Encoded labels ss bytes) :
    bytes.length = 2 * ss.countP fun s => s.kind ≠ .noop := by
  induction h with
  | nil => rfl
  | noop hKind _ ih => simpa [hKind] using ih
  | instruction hKind _ _ ih | branch hKind _ _ _ _ ih =>
      simp only [List.length_cons, ih, ne_eq, hKind, reduceCtorEq, not_false_eq_true, decide_true,
        List.countP_cons_of_pos]
      omega

theorem Encoded.cut (h : Encoded labels (front ++ back) bytes) : ∃ bs cs, bytes = bs ++ cs ∧
    Encoded labels front bs ∧ Encoded labels back cs := by
  induction front generalizing bytes with
  | nil => exact ⟨[], bytes, rfl, .nil, h⟩
  | cons s front ih =>
      cases h with
      | noop hKind h =>
          obtain ⟨bs, cs, rfl, hFront, hBack⟩ := ih h
          exact ⟨bs, cs, rfl, .noop hKind hFront, hBack⟩
      | instruction hKind hOpcode h =>
          obtain ⟨bs, cs, rfl, hFront, hBack⟩ := ih h
          exact ⟨_ :: _ :: bs, cs, rfl, .instruction hKind hOpcode hFront, hBack⟩
      | branch hKind hFind hOpcode hOperand h =>
          obtain ⟨bs, cs, rfl, hFront, hBack⟩ := ih h
          exact ⟨_ :: _ :: bs, cs, rfl, .branch hKind hFind hOpcode hOperand hFront, hBack⟩

theorem Encoded.at_instruction {s : Statement} {i : Instruction}
    (h : Encoded labels (front ++ s :: back) bytes) (hKind : s.kind = .instruction i) :
    ∃ opcode, StandsFor opcode i.op ∧
      bytes[2 * front.countP fun s => s.kind ≠ .noop]? = some opcode ∧
      bytes[2 * (front.countP fun s => s.kind ≠ .noop) + 1]? = some i.operand := by
  obtain ⟨bs, cs, rfl, hFront, hBack⟩ := h.cut
  rw [← hFront.length]
  cases hBack with
  | noop hNoop => cases hKind.symm.trans hNoop
  | branch hBranch => cases hKind.symm.trans hBranch
  | instruction hInstruction hOpcode =>
      cases hKind.symm.trans hInstruction
      refine ⟨_, hOpcode, ?_, ?_⟩
      · simp
      · rw [List.getElem?_append_right (Nat.le_succ _)]
        simp

end

/-! ## Source texts -/

def BranchesTo (ls : List (List Char)) (k n : Nat) (name : String) : Prop :=
  ∃ text label op, (code ls)[k]? = some (text, n) ∧ Yields text n label (.branch op name)

section

variable {ls : List (List Char)} {p : Program}

theorem Gathers.find?_eq_none_iff (h : Gathers ls p) {name : String} :
    p.labels.find? name = none ↔ ∀ j, ¬ Defines ls j name := by
  constructor
  · intro hNone j hDefined
    rw [(h.labels name (j + 1)).mpr ⟨j, rfl, hDefined⟩] at hNone
    cases hNone
  · intro hNot
    cases hFind : p.labels.find? name with
    | none => rfl
    | some index =>
        obtain ⟨j, -, hDefined⟩ := (h.labels name index).mp hFind
        exact absurd hDefined (hNot j)

theorem Gathers.operand_eq_zero (h : Gathers ls p) {s : Statement} {i : Instruction}
    (hs : s ∈ p.statements.toList) (hKind : s.kind = .instruction i)
    (hUnused : i.op.hasOperand = false) : i.operand = 0 := by
  obtain ⟨k, hk, rfl⟩ := List.getElem_of_mem hs
  rw [Array.length_toList, h.size] at hk
  obtain ⟨label, kind, hYields, hStatement⟩ := h.statements k _ _ (List.getElem?_eq_getElem hk)
  rw [Array.getElem_toList, (Array.getElem?_eq_some_iff.mp hStatement).2] at hKind
  rw [show kind = _ from hKind] at hYields
  exact hYields.operand_eq_zero hUnused

theorem Gathers.dangles_iff (h : Gathers ls p) {k : Nat} {name : String} :
    (∃ s, p.statements[k]? = some s ∧ s.Dangles p.labels name) ↔
      ∃ n, BranchesTo ls k n name ∧ ∀ j, ¬ Defines ls j name := by
  constructor
  · rintro ⟨s, hs, op, hKind, hNone⟩
    have hk : k < (code ls).length := by
      rw [← h.size]
      exact (Array.getElem?_eq_some_iff.mp hs).1
    obtain ⟨label, kind, hYields, hStatement⟩ :=
      h.statements k _ _ (List.getElem?_eq_getElem hk)
    rw [hs] at hStatement
    cases hStatement
    cases hKind
    exact ⟨_, ⟨_, label, op, List.getElem?_eq_getElem hk, hYields⟩, h.find?_eq_none_iff.mp hNone⟩
  · rintro ⟨n, ⟨text, label, op, hLine, hYields⟩, hNot⟩
    obtain ⟨label', kind, hYields', hStatement⟩ := h.statements k text n hLine
    rw [← (hYields.unique hYields').2] at hStatement
    exact ⟨_, hStatement, op, rfl, h.find?_eq_none_iff.mpr hNot⟩

theorem Gathers.line_eq (h : Gathers ls p) {k n : Nat} {name : String} {s : Statement}
    (hs : p.statements[k]? = some s) (hBranch : BranchesTo ls k n name) : s.line = n := by
  obtain ⟨text, label, op, hLine, -⟩ := hBranch
  obtain ⟨_, _, -, hStatement⟩ := h.statements k text n hLine
  rw [hs] at hStatement
  cases hStatement
  rfl

/-- The second pass gives the bytes of all statements, or stops at the first branch to a label that
no line defines. -/
theorem Gathers.bytes_cases (h : Gathers ls p) :
    (∃ bytes, p.bytes = .ok bytes ∧ bytes = p.instructions.flatMap Instruction.toBytes ∧
      Encoded p.labels p.statements.toList bytes ∧
      ∀ k n name, BranchesTo ls k n name → ∃ j, Defines ls j name) ∨
    ∃ k n name, p.bytes = .error (.unknownLabel n name) ∧ BranchesTo ls k n name ∧
      (∀ j, ¬ Defines ls j name) ∧
      ∀ i < k, ∀ m other, BranchesTo ls i m other → ∃ j, Defines ls j other := by
  rcases encodeAll_cases p.labels p.statements.toList with
    ⟨hFine, hBytes⟩ | ⟨before, s, after, name, hStatements, hBefore, hDangles, hError⟩
  · refine .inl ⟨_, hBytes, rfl,
      encoded_of_resolved hFine fun _ hs _ => h.operand_eq_zero hs, ?_⟩
    intro k n name hBranch
    by_contra hNot
    obtain ⟨s, hs, hDangles⟩ := h.dangles_iff.mpr ⟨n, hBranch, not_exists.mp hNot⟩
    refine hFine s ?_ name hDangles
    rw [Array.mem_toList_iff]
    exact Array.mem_of_getElem? hs
  · have hPlace : p.statements[before.length]? = some s := by
      rw [← Array.getElem?_toList, hStatements]
      simp
    obtain ⟨n, hBranch, hNone⟩ := h.dangles_iff.mp ⟨s, hPlace, hDangles⟩
    rw [h.line_eq hPlace hBranch] at hError
    refine .inr ⟨before.length, n, name, hError, hBranch, hNone, ?_⟩
    intro i hi m other hOther
    by_contra hNot
    obtain ⟨t, ht, hDangles⟩ := h.dangles_iff.mpr ⟨m, hOther, not_exists.mp hNot⟩
    refine hBefore t ?_ other hDangles
    rw [← Array.getElem?_toList, hStatements, List.getElem?_append_left hi] at ht
    exact List.mem_of_getElem? ht

end

theorem exists_cut (line cs : List Char) (n : Nat) (h : n = 0 → line = []) :
    ∃ head tail, cs = head ++ tail ∧
      Text.linesFrom line head = (Text.linesFrom line cs).take n := by
  induction cs generalizing line n with
  | nil =>
      refine ⟨[], [], rfl, ?_⟩
      cases n with
      | zero => simp [Text.linesFrom, h rfl]
      | succ n => simp [Text.linesFrom]; split <;> simp
  | cons c cs ih =>
      cases n with
      | zero =>
          refine ⟨[], c :: cs, rfl, ?_⟩
          simp [Text.linesFrom, h rfl]
      | succ n =>
          by_cases hc : c = '\n'
          · obtain ⟨head, tail, rfl, hCut⟩ := ih [] n (fun _ => rfl)
            refine ⟨c :: head, tail, rfl, ?_⟩
            simp [Text.linesFrom, hc, hCut]
          · obtain ⟨head, tail, rfl, hCut⟩ := ih (c :: line) (n + 1) (by simp)
            refine ⟨c :: head, tail, rfl, ?_⟩
            simp [Text.linesFrom, hc, hCut]

/-- Why a source text is refused: on account of the first line that cannot follow those before it,
just as when the text ends with that line, or of the first branch to a label without a line. -/
inductive Refused (source : String) : Refusal → Prop
  | line {before after : List (List Char)} {text : List Char} {e : Refusal} :
      Text.lines source = before ++ text :: after → Sound before → ¬ Follows before text →
      e.line = before.length + 1 →
      (∃ head tail, source = head ++ tail ∧ Text.lines head = before ++ [text]) →
      (∀ head, Text.lines head = before ++ [text] → (assemble head).result = .error e) →
      Refused source e
  | label {k n : Nat} {name : String} : Sound (Text.lines source) →
      BranchesTo (Text.lines source) k n name → (∀ j, ¬ Defines (Text.lines source) j name) →
      (∀ i < k, ∀ m other, BranchesTo (Text.lines source) i m other →
        ∃ j, Defines (Text.lines source) j other) →
      Refused source (.unknownLabel n name)

structure Assembles (source : String) (p : Program) (bytes : List UInt8) : Prop where
  gathers : Gathers (Text.lines source) p
  encoding : bytes = p.instructions.flatMap Instruction.toBytes
  encoded : Encoded p.labels p.statements.toList bytes
  length : bytes.length = 2 * p.statements.toList.countP fun s => s.kind ≠ .noop

theorem exists_cut_lines {source : String} {before after : List (List Char)} {text : List Char}
    (h : Text.lines source = before ++ text :: after) :
    ∃ head tail, source = head ++ tail ∧ Text.lines head = before ++ [text] := by
  obtain ⟨head, tail, hText, hCut⟩ :=
    exists_cut [] source.toList (before.length + 1) (fun _ => rfl)
  refine ⟨String.ofList head, String.ofList tail, ?_, ?_⟩
  · rw [← String.ofList_append, ← hText, String.ofList_toList]
  · have hLines : Text.linesFrom [] source.toList = before ++ text :: after := h
    rw [Text.lines, String.toList_ofList, hCut, hLines]
    simp [List.take_append, List.take_of_length_le (Nat.le_succ before.length)]

theorem Refused.not_accepted {source : String} {e : Refusal} (h : Refused source e)
    (hSound : Sound (Text.lines source)) :
    ∃ k n name, BranchesTo (Text.lines source) k n name ∧
      ∀ j, ¬ Defines (Text.lines source) j name := by
  cases h with
  | line hText _ hNot =>
      rw [hText] at hSound
      exact absurd hSound.follows hNot
  | label _ hBranch hNone => exact ⟨_, _, _, hBranch, hNone⟩

theorem assemble_cases (source : String) :
    (∃ bytes, (assemble source).result = .ok bytes ∧
      Assembles source (assemble source).program bytes ∧
      ∀ k n name, BranchesTo (Text.lines source) k n name →
        ∃ j, Defines (Text.lines source) j name) ∨
    ∃ e, (assemble source).result = .error e ∧ Refused source e := by
  have hScan : ∀ text, Program.scan text = Program.empty.addLines 1 (Text.lines text) :=
    fun _ => rfl
  rcases gathers_empty.addLines_cases (Text.lines source) with
    ⟨hNone, hGathers⟩ | ⟨before, text, after, e, hText, hSound, hNot, hSome, hLine, hCut⟩
  · rw [List.nil_append, List.length_nil, ← hScan] at hGathers
    rw [List.length_nil, ← hScan] at hNone
    have hResult : assemble source = ⟨(Program.scan source).program,
        (Program.scan source).program.bytes⟩ := by simp [assemble, hNone]
    rw [hResult]
    rcases hGathers.bytes_cases with
      ⟨bytes, hBytes, hEncoding, hEncoded, hBranches⟩ | ⟨k, n, name, hError, hBranch, hNone, hFirst⟩
    · exact .inl ⟨bytes, hBytes, ⟨hGathers, hEncoding, hEncoded, hEncoded.length⟩, hBranches⟩
    · exact .inr ⟨_, hError, .label hGathers.sound hBranch hNone hFirst⟩
  · rw [List.nil_append] at hSound hNot hLine
    have hFail : ∀ head, Text.lines head = before ++ [text] ∨ head = source →
        (assemble head).result = .error e := by
      intro head hHead
      have hPass : (Program.scan head).refusal = some e := by
        rw [hScan]
        rcases hHead with hHead | rfl
        · rw [hHead]
          exact (congrArg Pass.refusal (hCut [])).trans hSome
        · exact hSome
      simp [assemble, hPass]
    exact .inr ⟨e, hFail source (.inr rfl), .line hText hSound hNot hLine (exists_cut_lines hText)
      fun head hHead => hFail head (.inl hHead)⟩

theorem assembles_of_ok {source : String} {bytes : List UInt8}
    (h : (assemble source).result = .ok bytes) :
    Assembles source (assemble source).program bytes := by
  rcases assemble_cases source with ⟨_, hResult, hAssembles, -⟩ | ⟨e, hResult, -⟩
  · rw [h] at hResult
    cases hResult
    exact hAssembles
  · rw [h] at hResult
    cases hResult

/-- A source text is accepted just if its lines are sound and each branch goes to a label of one of
them; then its statements, labels and bytes are those of its lines, and otherwise the refusal is
about the first line or branch that is to blame. -/
theorem assembles_or_refused (source : String) :
    ((∃ bytes, (assemble source).result = .ok bytes) ↔ Sound (Text.lines source) ∧
      ∀ k n name, BranchesTo (Text.lines source) k n name →
        ∃ j, Defines (Text.lines source) j name) ∧
    match (assemble source).result with
    | .ok bytes => Assembles source (assemble source).program bytes
    | .error e => Refused source e := by
  rcases assemble_cases source with ⟨bytes, hResult, hAssembles, hBranches⟩ | ⟨e, hResult, hRefused⟩
  · rw [hResult]
    refine ⟨⟨?_, ?_⟩, hAssembles⟩
    · exact fun _ => ⟨hAssembles.gathers.sound, hBranches⟩
    · exact fun _ => ⟨bytes, rfl⟩
  · rw [hResult]
    refine ⟨⟨?_, ?_⟩, hRefused⟩
    · rintro ⟨bytes, ⟨⟩⟩
    · rintro ⟨hSound, hBranches⟩
      obtain ⟨k, n, name, hBranch, hNone⟩ := hRefused.not_accepted hSound
      obtain ⟨j, hDefined⟩ := hBranches k n name hBranch
      exact absurd hDefined (hNone j)

end Microbus.Assembly
