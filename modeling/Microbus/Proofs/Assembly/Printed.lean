import Microbus.Proofs.Assembly.Lines

/-! # Statements as text

The text of a statement is a line in normal form, and read as a line it comes to this very
statement, as long as it tells all there is to it: an operand byte that is not written has to have
its usual value, and a label has to be one that is read as a label and kept as it is written.
-/

namespace Microbus.Assembly
set_option autoImplicit false

open Grammar

/-- A statement that its text determines. -/
def StatementKind.Printable : StatementKind → Prop
  | .noop => True
  | .instruction i =>
      (i.op.hasOperand = false → i.operand = 0) ∧ (i.op = .stackReset → i.operand = 0xff)
  | .branch _ label =>
      Word label.toList ∧ Text.lowercase label = label ∧ ∃ c ∈ label.toList, c.isDigit = false

/-! ## Operands -/

theorem number_toString {n : Nat} (h : n < 0x8000_0000_0000_0000) :
    Number (toString n).toList n where
  nonempty := by simp
  digits := by
    intro c hc
    rw [Nat.toString_eq_repr, Nat.toList_repr] at hc
    exact Nat.isDigit_of_mem_toDigits (by decide) (by decide) hc
  value := by
    rw [Nat.toString_eq_repr, Nat.toList_repr]
    exact Nat.ofDigitChars_ten_toDigits
  small := h

theorem number_operand (b : UInt8) : Number (toString b.toNat).toList b.toNat :=
  number_toString (Nat.lt_trans b.toNat_lt (by decide))

theorem constant_operand (b : UInt8) : Constant (toString b.toNat).toList b.toNat :=
  .number (number_operand b)

theorem cell_operand (b : UInt8) : Cell ('$' :: (toString b.toNat).toList) b.toNat :=
  .mk (g := []) nofun (constant_operand b)

theorem ofInt_toNat (b : UInt8) : UInt8.ofInt b.toNat = b := by
  have hSmall : ((b.toNat : Int) % 2 ^ 8).toNat = b.toNat := by
    have hb := b.toNat_lt
    omega
  rw [UInt8.ofInt, hSmall, UInt8.ofNat_toNat]

theorem gap_space : Gap [' '] := by
  intro c hc
  rw [List.mem_singleton.mp hc]
  rfl

theorem separator_arrow : Separator " -> ".toList := .arrow gap_space gap_space

theorem separator_comma : Separator ",".toList := .comma (g := []) (h := []) nofun nofun

theorem not_constant_of_word {s : List Char} (hWord : Word s) (hLetter : ∃ c ∈ s, c.isDigit = false)
    (v : Int) : ¬ Constant s v := by
  intro h
  obtain ⟨c, hc, hDigit⟩ := hLetter
  cases h with
  | number hNumber =>
      rw [hNumber.digits c hc] at hDigit
      cases hDigit
  | @operation s g h t sign n k _ _ _ _ _ =>
      have hSign := hWord.2 sign.char (by simp)
      cases sign <;> exact absurd hSign (by decide)

/-! ## Lines -/

instance (word : String) (s : List Char) : Decidable (Keyword word s) :=
  inferInstanceAs (Decidable (_ = _))

theorem keyword_of_mem_mnemonics {name : String} {c : Command} (h : (name, c) ∈ mnemonics) :
    Keyword name name.toList := by
  have hAll : ∀ m ∈ mnemonics, Keyword m.1 m.1.toList := by decide
  exact hAll (name, c) h

inductive Normal : List Char → StatementKind → Prop
  | mk {name : String} {c : Command} {rest : List Char} {kind : StatementKind} :
      (name, c) ∈ mnemonics → (∀ a ∈ rest.head?, Text.isSpace a = true) → Rest c rest kind →
      Normal (name.toList ++ rest) kind

section

variable {c : Command} {kind : StatementKind} {text s : List Char}

theorem normal_of_operands (name : String) (hMem : (name, c) ∈ mnemonics)
    (hOperands : Operands c s kind) (hText : text = name.toList ++ ' ' :: s) :
    Normal text kind := by
  have hRest : Rest c ([' '] ++ (s ++ [])) kind := .operands gap_space hOperands nofun
  rw [List.append_nil] at hRest
  rw [hText]
  exact .mk hMem (by simp [Text.isSpace]) hRest

theorem normal_with_byte (name : String) {op : Opcode} {b : UInt8} (hMem : (name, c) ∈ mnemonics)
    (hOperands : Operands c s (.instruction ⟨op, .ofInt b.toNat⟩))
    (hText : text = name.toList ++ ' ' :: s) : Normal text (.instruction ⟨op, b⟩) := by
  rw [ofInt_toNat] at hOperands
  exact normal_of_operands name hMem hOperands hText

theorem normal_plain {name : String} (hMem : (name, .plain kind) ∈ mnemonics) :
    Normal name.toList kind := by
  have hRest : Rest (.plain kind) [] kind := .operands (g := []) (h := []) nofun .plain nofun
  have hNormal := Normal.mk hMem (by simp) hRest
  rwa [List.append_nil] at hNormal

theorem normal_display : Normal "out".toList (.instruction ⟨.display, 0⟩) := by
  have hMem : ("out", Command.output) ∈ mnemonics := by decide
  have hRest : Rest .output [] (.instruction ⟨.display, 0⟩) := .display (by simp)
  have hNormal := Normal.mk hMem (by simp) hRest
  rwa [List.append_nil] at hNormal

end

theorem keyword_dataReg (r : DataReg) : Keyword r.keyword r.keyword.toList := by
  cases r <;> decide

theorem keyword_outputKind (k : OutputKind) : Keyword k.keyword k.keyword.toList := by
  cases k <;> decide

theorem mem_mnemonics_binaryOp (op : BinaryOp) : (op.mnemonic, .arithmetic op) ∈ mnemonics := by
  cases op <;> decide

theorem mem_mnemonics_unaryOp (op : UnaryOp) :
    (op.mnemonic, .single (.unary op) 0) ∈ mnemonics := by
  cases op <;> decide

theorem mem_mnemonics_branch (op : Branch) : (op.mnemonic, .branch op) ∈ mnemonics := by
  cases op with
  | jump condition => cases condition <;> decide
  | call => decide

theorem normal_alu {op : BinaryOp} {source : AluSource} {b : UInt8}
    (hUnused : (Opcode.alu op source).hasOperand = false → b = 0) :
    Normal (Instruction.text ⟨.alu op source, b⟩).toList (.instruction ⟨.alu op source, b⟩) := by
  have hMem := mem_mnemonics_binaryOp op
  cases source with
  | memory =>
      exact normal_with_byte op.mnemonic hMem (.withMemory (cell_operand b))
        (by simp [Instruction.text])
  | b =>
      rw [hUnused rfl]
      exact normal_of_operands op.mnemonic hMem (.withB (s := ['b']) rfl) (by simp [Instruction.text])
  | x =>
      rw [hUnused rfl]
      exact normal_of_operands op.mnemonic hMem (.withX (s := ['x']) rfl) (by simp [Instruction.text])
  | memoryAtB =>
      rw [hUnused rfl]
      exact normal_of_operands op.mnemonic hMem (.withMemoryAtB (g := []) (s := ['b']) nofun rfl)
        (by simp [Instruction.text])
  | memoryAtX =>
      rw [hUnused rfl]
      exact normal_of_operands op.mnemonic hMem (.withMemoryAtX (g := []) (s := ['x']) nofun rfl)
        (by simp [Instruction.text])

theorem normal_instruction {i : Instruction} (h : (StatementKind.instruction i).Printable) :
    Normal i.text.toList (.instruction i) := by
  obtain ⟨op, b⟩ := i
  obtain ⟨hUnused, hReset⟩ := h
  have hNumber := constant_operand b
  have hCell := cell_operand b
  cases op with
  | halt | swap | ret =>
      obtain rfl : b = 0 := hUnused rfl
      exact normal_plain (by decide)
  | stackReset =>
      obtain rfl : b = 0xff := hReset rfl
      exact normal_plain (by decide)
  | display =>
      obtain rfl : b = 0 := hUnused rfl
      exact normal_display
  | unary op =>
      obtain rfl : b = 0 := hUnused rfl
      exact normal_plain (mem_mnemonics_unaryOp op)
  | loadMemory r =>
      exact normal_with_byte "load" (by decide) (.loadMemory hCell separator_arrow (keyword_dataReg r))
        (by simp [Instruction.text])
  | loadImmediate r =>
      exact normal_with_byte "load" (by decide)
        (.loadImmediate hNumber separator_arrow (keyword_dataReg r)) (by simp [Instruction.text])
  | store r =>
      exact normal_with_byte "store" (by decide) (.store (keyword_dataReg r) separator_arrow hCell)
        (by simp [Instruction.text])
  | move source target =>
      obtain rfl : b = 0 := hUnused rfl
      have hSource : Keyword source.keyword source.keyword.toList := by cases source <;> decide
      have hTarget : Keyword target.keyword target.keyword.toList := by cases target <;> decide
      exact normal_of_operands "move" (by decide) (.move hSource separator_comma hTarget)
        (by simp [Instruction.text])
  | alu op source => exact normal_alu hUnused
  | output k =>
      exact normal_with_byte "out" (by decide)
        (.output (keyword_outputKind k) gap_space (by simp) hNumber) (by simp [Instruction.text])
  | outputIndirect k =>
      exact normal_with_byte "out" (by decide)
        (.outputIndirect (keyword_outputKind k) gap_space (by simp) hCell)
        (by simp [Instruction.text])
  | jump condition =>
      exact normal_with_byte condition.mnemonic (mem_mnemonics_branch (.jump condition))
        (.toCell hCell) (by simp [Instruction.text])
  | call =>
      exact normal_with_byte "call" (mem_mnemonics_branch .call) (.toCell hCell)
        (by simp [Instruction.text])
  | push r =>
      obtain rfl : b = 0 := hUnused rfl
      exact normal_of_operands "push" (by decide) (.push (keyword_dataReg r))
        (by simp [Instruction.text])
  | pop r =>
      obtain rfl : b = 0 := hUnused rfl
      exact normal_of_operands "pop" (by decide) (.pop (keyword_dataReg r))
        (by simp [Instruction.text])

theorem StatementKind.Printable.normal {kind : StatementKind} (h : kind.Printable) :
    Normal kind.text.toList kind := by
  cases kind with
  | noop => exact normal_plain (by decide)
  | instruction i => exact normal_instruction h
  | branch op label =>
      obtain ⟨hWord, hLower, hLetter⟩ := h
      have hOperands : Operands (.branch op) label.toList _ :=
        .toLabel hWord (not_constant_of_word hWord hLetter)
      rw [String.ofList_toList, hLower] at hOperands
      exact normal_of_operands op.mnemonic (mem_mnemonics_branch op) hOperands
        (by simp [StatementKind.text])

/-! ## Characters -/

def Clean (s : List Char) : Prop := ∀ c ∈ s, c ≠ '/' ∧ c ≠ '\n' ∧ c ≠ '\r'

instance (s : List Char) : Decidable (Clean s) := List.decidableBAll _ s

theorem clean_append {s t : List Char} : Clean (s ++ t) ↔ Clean s ∧ Clean t :=
  List.forall_mem_append

theorem clean_of_word {s : List Char} (h : ∀ c ∈ s, Text.isWordChar c = true) : Clean s := by
  intro c hc
  have hWord := h c hc
  refine ⟨?_, ?_, ?_⟩ <;> rintro rfl <;> exact absurd hWord (by decide)

theorem clean_operand (b : UInt8) : Clean (toString b.toNat).toList :=
  clean_of_word fun c hc => isWordChar_of_isDigit ((number_operand b).digits c hc)

theorem clean_dataReg (r : DataReg) : Clean r.keyword.toList := by
  cases r <;> decide

theorem clean_outputKind (k : OutputKind) : Clean k.keyword.toList := by
  cases k <;> decide

theorem clean_mnemonic {name : String} {c : Command} (h : (name, c) ∈ mnemonics) :
    Clean name.toList :=
  clean_of_word fun d hd => isWordChar_of_isAlpha ((letters_of_mem_mnemonics h).2 d hd)

theorem clean_instruction (i : Instruction) : Clean i.text.toList := by
  obtain ⟨op, b⟩ := i
  have hNumber := clean_operand b
  cases op with
  | halt | swap | ret | stackReset | display =>
      simp only [Instruction.text]
      decide
  | unary op => exact clean_mnemonic (mem_mnemonics_unaryOp op)
  | move source target =>
      have hSource : Clean source.keyword.toList := by cases source <;> decide
      have hTarget : Clean target.keyword.toList := by cases target <;> decide
      simp only [Instruction.text, String.toList_append, clean_append]
      exact ⟨⟨⟨by decide, hSource⟩, by decide⟩, hTarget⟩
  | loadMemory r | loadImmediate r =>
      simp only [Instruction.text, String.toList_append, clean_append]
      exact ⟨⟨⟨by decide, hNumber⟩, by decide⟩, clean_dataReg r⟩
  | store r =>
      simp only [Instruction.text, String.toList_append, clean_append]
      exact ⟨⟨⟨by decide, clean_dataReg r⟩, by decide⟩, hNumber⟩
  | alu op source =>
      have hMnemonic := clean_mnemonic (mem_mnemonics_binaryOp op)
      cases source with
      | memory =>
          simp only [Instruction.text, String.toList_append, clean_append]
          exact ⟨hMnemonic, by decide, hNumber⟩
      | b | x | memoryAtB | memoryAtX =>
          simp only [Instruction.text, String.toList_append, clean_append]
          exact ⟨hMnemonic, by decide⟩
  | output k | outputIndirect k =>
      simp only [Instruction.text, String.toList_append, clean_append]
      exact ⟨⟨⟨by decide, clean_outputKind k⟩, by decide⟩, hNumber⟩
  | jump condition =>
      simp only [Instruction.text, String.toList_append, clean_append]
      exact ⟨⟨clean_mnemonic (mem_mnemonics_branch (.jump condition)), by decide⟩, hNumber⟩
  | call =>
      simp only [Instruction.text, String.toList_append, clean_append]
      exact ⟨by decide, hNumber⟩
  | push r | pop r =>
      simp only [Instruction.text, String.toList_append, clean_append]
      exact ⟨by decide, clean_dataReg r⟩

theorem StatementKind.Printable.clean {kind : StatementKind} (h : kind.Printable) :
    Clean kind.text.toList := by
  cases kind with
  | noop => decide
  | instruction i => exact clean_instruction i
  | branch op label =>
      simp only [StatementKind.text, String.toList_append, clean_append]
      exact ⟨⟨clean_mnemonic (mem_mnemonics_branch op), by decide⟩, clean_of_word h.1.2⟩

theorem beforeComment_of_clean {s : List Char} (h : Clean s) : beforeComment s = s := by
  have hTake : s.takeWhile (· != '/') = s := by
    rw [List.takeWhile_eq_self_iff]
    intro c hc
    simpa using (h c hc).1
  exact hTake

theorem Normal.line {text : List Char} {kind : StatementKind} (h : Normal text kind) :
    Grammar.Line text none kind := by
  obtain ⟨hMem, hSpace, hRest⟩ := h
  rename_i name c rest
  have hLine : Grammar.Line ([] ++ ([] ++ (name.toList ++ rest))) none kind :=
    .mk nofun .none hMem (keyword_of_mem_mnemonics hMem) hSpace hRest
  exact hLine

theorem Normal.yields {text : List Char} {kind : StatementKind} (h : Normal text kind)
    (hClean : Clean text) (line : Nat) : Yields text line none kind := by
  refine yields_of_line ?_
  rw [beforeComment_of_clean hClean]
  exact h.line

/-- The text of a statement yields the statement, whatever line it stands on. -/
theorem StatementKind.Printable.yields {kind : StatementKind} (h : kind.Printable) (line : Nat) :
    Yields kind.text.toList line none kind :=
  h.normal.yields h.clean line

end Microbus.Assembly
