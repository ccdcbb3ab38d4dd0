import Mathlib.Data.List.Forall2
import Microbus.Proofs.Assembly.Printed
import Microbus.Proofs.Assembly.Source

/-! # From statements to text and back

Statements that are printed a line each are read back as they are, and the instructions among them
come out as their bytes. Disassembling these bytes gives the same text again but for the moves of a
register to itself, which have a byte that reads as no instruction; without them the text that
comes of the bytes leads back to the bytes.
-/

namespace Microbus
set_option autoImplicit false

/-! ## Pairs of bytes -/

def pairs : List UInt8 → List (UInt8 × UInt8)
  | opcode :: operand :: rest => (opcode, operand) :: pairs rest
  | _ => []

def disassembly (bytes : List UInt8) : List String :=
  (pairs bytes).map fun p => disassemble p.1 p.2

def Instruction.pair (i : Instruction) : UInt8 × UInt8 :=
  (i.op.toByte, if i.op.hasOperand then i.operand else 0)

theorem pairs_flatMap_toBytes (is : List Instruction) :
    pairs (is.flatMap Instruction.toBytes) = is.map Instruction.pair := by
  induction is with
  | nil => rfl
  | cons i is ih =>
      rw [List.flatMap_cons, List.map_cons, ← ih]
      rfl

namespace Assembly

open Grammar

def listed (texts : List String) : String := String.join (texts.map fun text => text ++ "\n")

def printed (kinds : List StatementKind) : String := listed (kinds.map StatementKind.text)

/-- Statements that stand one behind the other from a line on, which is their place as well. -/
def numberedFrom (n : Nat) (kinds : List StatementKind) : List Statement :=
  (kinds.zipIdx n).map fun k => ⟨k.2, k.2, k.1⟩

def StatementKind.instruction? : StatementKind → Option Instruction
  | .instruction i => some i
  | _ => none

/-! ## Lines -/

theorem linesFrom_append (line rest : List Char) {t : List Char} (h : '\n' ∉ t) :
    Text.linesFrom line (t ++ '\n' :: rest) =
      (Text.dropReturn (t.reverse ++ line)).reverse :: Text.linesFrom [] rest := by
  induction t generalizing line with
  | nil => simp [Text.linesFrom]
  | cons c t ih =>
      obtain ⟨hc, ht⟩ := not_or.mp (mt List.mem_cons.mpr h)
      have hNext : c ≠ '\n' := fun hEq => hc hEq.symm
      simp [Text.linesFrom, hNext, ih _ ht]

theorem dropReturn_of_clean {s : List Char} (h : Clean s) : Text.dropReturn s = s := by
  unfold Text.dropReturn
  split
  · next cs => exact absurd rfl (h '\r' List.mem_cons_self).2.2
  · rfl

theorem lines_listed {texts : List String} (h : ∀ text ∈ texts, Clean text.toList) :
    Text.lines (listed texts) = texts.map String.toList := by
  induction texts with
  | nil => rfl
  | cons text texts ih =>
      obtain ⟨hText, hRest⟩ := List.forall_mem_cons.mp h
      have hBreak : '\n' ∉ text.toList := fun hMem => (hText '\n' hMem).2.1 rfl
      have hReverse : Clean text.toList.reverse := fun c hc => hText c (List.mem_reverse.mp hc)
      have hLines := linesFrom_append [] (listed texts).toList hBreak
      rw [List.append_nil, dropReturn_of_clean hReverse, List.reverse_reverse] at hLines
      have hList : (listed (text :: texts)).toList = text.toList ++ '\n' :: (listed texts).toList := by
        simp [listed]
      rw [Text.lines, hList, hLines, List.map_cons]
      exact congrArg _ (ih hRest)

/-! ## The first pass -/

section

variable {p : Program} {kinds : List StatementKind}

theorem addLine_of_yields {text : List Char} {line : Nat} {kind : StatementKind}
    (h : Yields text line none kind) : p.addLine text line = ⟨p.addStatement line kind, none⟩ := by
  obtain ⟨sl, hSplit, hLabel, hStatement⟩ := h
  have hNone : sl.label = none := Option.map_eq_none_iff.mp hLabel
  simp [Program.addLine, hSplit, Program.addLabel, hNone, hStatement]

theorem addLines_printed (h : ∀ kind ∈ kinds, kind.Printable) :
    p.addLines p.nextIndex ((kinds.map StatementKind.text).map String.toList) =
      ⟨{ p with statements := p.statements ++ (numberedFrom p.nextIndex kinds).toArray }, none⟩ := by
  induction kinds generalizing p with
  | nil => simp [Program.addLines, numberedFrom]
  | cons kind kinds ih =>
      obtain ⟨hKind, hRest⟩ := List.forall_mem_cons.mp h
      have hNext : (p.addStatement p.nextIndex kind).nextIndex = p.nextIndex + 1 := by
        simp [Program.addStatement, Program.nextIndex]
      have hLines := ih (p := p.addStatement p.nextIndex kind) hRest
      rw [hNext] at hLines
      simp only [List.map_cons, Program.addLines, addLine_of_yields (hKind.yields _), hLines]
      simp [Program.addStatement, numberedFrom]

theorem scan_printed (h : ∀ kind ∈ kinds, kind.Printable) :
    Program.scan (printed kinds) = ⟨⟨.empty, (numberedFrom 1 kinds).toArray⟩, none⟩ := by
  have hClean : ∀ text ∈ kinds.map StatementKind.text, Clean text.toList := by
    intro text hText
    obtain ⟨kind, hKind, rfl⟩ := List.mem_map.mp hText
    exact (h kind hKind).clean
  rw [Program.scan, printed, lines_listed hClean]
  have hLines := addLines_printed (p := .empty) h
  simpa [Program.empty, Program.nextIndex] using hLines

theorem map_kind_numberedFrom (n : Nat) (kinds : List StatementKind) :
    (numberedFrom n kinds).map Statement.kind = kinds := by
  rw [numberedFrom, List.map_map]
  exact List.zipIdx_map_fst n kinds

theorem listing_eq_printed (p : Program) :
    p.listing = printed (p.statements.toList.map Statement.kind) := by
  rw [printed, listed, List.map_map, List.map_map]
  rfl

theorem listing_scan_printed (h : ∀ kind ∈ kinds, kind.Printable) :
    (Program.scan (printed kinds)).program.listing = printed kinds := by
  rw [scan_printed h, listing_eq_printed]
  exact congrArg printed (map_kind_numberedFrom 1 kinds)

/-! ## The second pass -/

def emitted (kinds : List StatementKind) : List UInt8 :=
  (kinds.filterMap StatementKind.instruction?).flatMap Instruction.toBytes

theorem resolve?_eq {labels : LabelTable} {s : Statement}
    (h : ∀ op label, s.kind ≠ .branch op label) : s.resolve? labels = s.kind.instruction? := by
  unfold Statement.resolve?
  cases hKind : s.kind with
  | noop => rfl
  | instruction i => rfl
  | branch op label => exact absurd hKind (h op label)

theorem assemble_printed (h : ∀ kind ∈ kinds, kind.Printable)
    (hBranch : ∀ kind ∈ kinds, ∀ op label, kind ≠ .branch op label) :
    (assemble (printed kinds)).result = .ok (emitted kinds) := by
  have hResult : (assemble (printed kinds)).result =
      Program.encodeAll .empty (numberedFrom 1 kinds) := by
    simp [assemble, scan_printed h, Program.bytes]
  have hMap := map_kind_numberedFrom 1 kinds
  have hKinds : ∀ s ∈ numberedFrom 1 kinds, ∀ op label, s.kind ≠ .branch op label := by
    intro s hs
    exact hBranch s.kind (hMap ▸ List.mem_map_of_mem hs)
  rw [hResult]
  rcases encodeAll_cases .empty (numberedFrom 1 kinds) with
    ⟨-, hBytes⟩ | ⟨before, s, after, name, hText, -, ⟨op, hKind, -⟩, -⟩
  · have hResolve : (numberedFrom 1 kinds).filterMap (Statement.resolve? .empty) =
        kinds.filterMap StatementKind.instruction? := by
      calc (numberedFrom 1 kinds).filterMap (Statement.resolve? .empty)
          = (numberedFrom 1 kinds).filterMap (StatementKind.instruction? ∘ Statement.kind) :=
            List.filterMap_congr fun s hs => resolve?_eq (hKinds s hs)
        _ = ((numberedFrom 1 kinds).map Statement.kind).filterMap StatementKind.instruction? :=
            List.filterMap_map.symm
        _ = kinds.filterMap StatementKind.instruction? := by rw [hMap]
    rw [hBytes, hResolve, emitted]
  · exact absurd hKind (hKinds s (by simp [hText]) op name)

end

/-! ## And back -/

/-- An instruction that its text determines is disassembled to its text, unless it moves a register
to itself. -/
theorem disassemble_pair {i : Instruction} (h : (StatementKind.instruction i).Printable)
    (hFirst : i.pair.1 ≠ 0x22) (hSecond : i.pair.1 ≠ 0x26) :
    disassemble i.pair.1 i.pair.2 = i.text := by
  obtain ⟨op, b⟩ := i
  have hMove : ¬ op.IsSelfMove := by
    rintro (rfl | rfl)
    · exact hFirst rfl
    · exact hSecond rfl
  have hOperand : (if op.hasOperand then b else 0) = b := by
    split
    · rfl
    · next hUnused => exact (h.1 (by simpa using hUnused)).symm
  simp [disassemble, Instruction.pair, Instruction.decode, Opcode.ofByte?_toByte hMove, hOperand]

theorem printable_of_mem {kinds : List StatementKind} (h : ∀ kind ∈ kinds, kind.Printable)
    {i : Instruction} (hi : i ∈ kinds.filterMap StatementKind.instruction?) :
    (StatementKind.instruction i).Printable := by
  obtain ⟨kind, hKind, hSome⟩ := List.mem_filterMap.mp hi
  cases kind with
  | instruction j =>
      cases hSome
      exact h _ hKind
  | noop | branch op label => cases hSome

theorem assemble_instructions {is : List Instruction}
    (h : ∀ i ∈ is, (StatementKind.instruction i).Printable) :
    (assemble (listed (is.map Instruction.text))).result =
      .ok (is.flatMap Instruction.toBytes) := by
  have hText : listed (is.map Instruction.text) = printed (is.map .instruction) := by
    rw [printed, List.map_map]
    rfl
  have hBytes : emitted (is.map .instruction) = is.flatMap Instruction.toBytes := by
    have hSome : StatementKind.instruction? ∘ StatementKind.instruction = some := rfl
    rw [emitted, List.filterMap_map, hSome, List.filterMap_some]
  rw [hText, ← hBytes]
  refine assemble_printed (List.forall_mem_map.mpr h) ?_
  simp

theorem disassembly_emitted {kinds : List StatementKind} (h : ∀ kind ∈ kinds, kind.Printable)
    (hPairs : ∀ p ∈ pairs (emitted kinds), p.1 ≠ 0x22 ∧ p.1 ≠ 0x26) :
    disassembly (emitted kinds) =
      (kinds.filterMap StatementKind.instruction?).map Instruction.text := by
  rw [emitted, pairs_flatMap_toBytes] at hPairs
  rw [disassembly, emitted, pairs_flatMap_toBytes, List.map_map]
  refine List.map_congr_left ?_
  intro i hi
  obtain ⟨hFirst, hSecond⟩ := hPairs i.pair (List.mem_map_of_mem hi)
  exact disassemble_pair (printable_of_mem h hi) hFirst hSecond

/-- Printed statements are read back as they are. If no branch is among them, their instructions
come out as bytes, which disassemble to the same texts but for moves of a register to itself; and
without such moves the disassembled text leads back to the bytes. -/
theorem roundTrip_printed {kinds : List StatementKind} (h : ∀ kind ∈ kinds, kind.Printable) :
    Program.scan (printed kinds) = ⟨⟨.empty, (numberedFrom 1 kinds).toArray⟩, none⟩ ∧
    (Program.scan (printed kinds)).program.listing = printed kinds ∧
    ((∀ kind ∈ kinds, ∀ op label, kind ≠ .branch op label) →
      (assemble (printed kinds)).result = .ok (emitted kinds) ∧
      List.Forall₂ (fun p i => p.1 ≠ 0x22 → p.1 ≠ 0x26 → disassemble p.1 p.2 = i.text)
        (pairs (emitted kinds)) (kinds.filterMap StatementKind.instruction?) ∧
      ((∀ p ∈ pairs (emitted kinds), p.1 ≠ 0x22 ∧ p.1 ≠ 0x26) →
        (assemble (listed (disassembly (emitted kinds)))).result = .ok (emitted kinds))) := by
  refine ⟨scan_printed h, listing_scan_printed h, ?_⟩
  intro hBranch
  refine ⟨assemble_printed h hBranch, ?_, ?_⟩
  · rw [emitted, pairs_flatMap_toBytes, List.forall₂_map_left_iff, List.forall₂_same]
    exact fun i hi => disassemble_pair (printable_of_mem h hi)
  · intro hPairs
    have hAgain := assemble_instructions fun i hi => printable_of_mem h hi
    rwa [← disassembly_emitted h hPairs] at hAgain

def sampleKinds : List StatementKind :=
  [.noop, .instruction ⟨.loadImmediate .a, 5⟩, .instruction ⟨.outputIndirect .command, 7⟩,
    .instruction ⟨.stackReset, 0xff⟩]

theorem roundTrip_printed_sampleKinds :
    Program.scan (printed (.branch .call "5a" :: sampleKinds)) =
        ⟨⟨.empty, (numberedFrom 1 (.branch .call "5a" :: sampleKinds)).toArray⟩, none⟩ ∧
      printed sampleKinds = "noop\nload 5 -> a\nout cmd $7\nstkrest\n" ∧
      (assemble (printed sampleKinds)).result = .ok [0x12, 5, 0x94, 7, 0xb4, 0xff] ∧
      disassembly [0x12, 5, 0x94, 7, 0xb4, 0xff] = ["load 5 -> a", "out cmd $7", "stkrest"] ∧
      (assemble (listed (disassembly [0x12, 5, 0x94, 7, 0xb4, 0xff]))).result =
        .ok [0x12, 5, 0x94, 7, 0xb4, 0xff] := by
  have hSample : ∀ kind ∈ sampleKinds, kind.Printable := by
    simp [sampleKinds, StatementKind.Printable, Opcode.hasOperand]
  have hWord : Word "5a".toList := ⟨by decide, List.all_eq_true.mp (by decide)⟩
  have hLabel : (StatementKind.branch .call "5a").Printable :=
    ⟨hWord, by decide +kernel, 'a', by decide, by decide⟩
  have hScan := (roundTrip_printed (List.forall_mem_cons.mpr ⟨hLabel, hSample⟩)).1
  obtain ⟨hBytes, -, hAgain⟩ := (roundTrip_printed hSample).2.2 (by simp [sampleKinds])
  have hPairs : pairs (emitted sampleKinds) = [(0x12, 5), (0x94, 7), (0xb4, 0xff)] := by decide
  rw [hPairs] at hAgain
  exact ⟨hScan, by decide +kernel, hBytes, by decide +kernel, hAgain (by simp)⟩

end Assembly

end Microbus
