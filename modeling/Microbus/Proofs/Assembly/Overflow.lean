import Microbus.Proofs.Assembly.Operands

/-! # Literals out of range

What is written as a literal need not be one: its digits may run on without end. If a number or the
result does not fit into 64 bits with a sign, no reader of an operand takes a value from it. It finds
no number, or it stops in front of the sign, or it takes a literal whose value is refused later.
-/

namespace Microbus.Assembly
set_option autoImplicit false

open Grammar

def Digits (s : List Char) : Prop := s ≠ [] ∧ ∀ c ∈ s, c.isDigit = true

/-- A number as it is written, and perhaps a sign and a second one. -/
inductive Writes : List Char → Nat → Option (Sign × Nat) → Prop
  | single {s : List Char} : Digits s → Writes s (digitsValue s) none
  | operation {s g h t : List Char} {sign : Sign} : Digits s → Gap g → Gap h → Digits t →
      Writes (s ++ (g ++ sign.char :: (h ++ t))) (digitsValue s) (some (sign, digitsValue t))

def total (n : Nat) : Option (Sign × Nat) → Int
  | none => n
  | some (sign, k) => n + sign.apply k

/-- All numbers and the result fit into 64 bits with a sign. -/
structure Fits (n : Nat) (more : Option (Sign × Nat)) : Prop where
  first : inRange n = true
  second : ∀ t ∈ more, inRange t.2 = true
  result : inRange (total n more) = true

instance (n : Nat) (more : Option (Sign × Nat)) : Decidable (Fits n more) :=
  decidable_of_iff (inRange n = true ∧ (∀ t ∈ more, inRange t.2 = true) ∧
      inRange (total n more) = true)
    ⟨fun ⟨h₁, h₂, h₃⟩ => ⟨h₁, h₂, h₃⟩, fun ⟨h₁, h₂, h₃⟩ => ⟨h₁, h₂, h₃⟩⟩

/-- A text at which a literal was cut off: a sign with no number behind it, which is no arrow. -/
def CutOff (s : List Char) : Prop :=
  ∃ g sign t, s = g ++ Sign.char sign :: t ∧ Gap g ∧ t.head? ≠ some '>'

section

variable {s t rest : List Char} {n : Nat} {more : Option (Sign × Nat)}

theorem Digits.begins (h : Digits s) : Begins Char.isDigit s := by
  obtain ⟨c, t, rfl⟩ := List.exists_cons_of_ne_nil h.1
  exact ⟨c, t, rfl, h.2 c List.mem_cons_self⟩

theorem Writes.begins (h : Writes s n more) : Begins Char.isDigit s := by
  cases h with
  | single hs => exact hs.begins
  | operation hs => exact hs.begins.append _

theorem opens_of_digit (h : Begins Char.isDigit s) : Begins opensOperand s := by
  obtain ⟨c, t, rfl, hc⟩ := h
  exact ⟨c, t, rfl, by simp [opensOperand, isWordChar_of_isDigit hc]⟩

theorem Digits.stops (h : Digits s) (rest : List Char) : Stops Text.isSpace (s ++ rest) :=
  (opens_of_digit (h.begins.append rest)).stops

theorem Digits.number (h : Digits s) (hRange : inRange (digitsValue s) = true) :
    Number s (digitsValue s) where
  nonempty := h.1
  digits := h.2
  value := rfl
  small := inRange_natCast.mp hRange

theorem Writes.constant (h : Writes s n more) (hFits : Fits n more) :
    Constant s (total n more) := by
  cases h with
  | single hs => exact .number (hs.number hFits.first)
  | @operation s g h t sign hs hg hh ht =>
      have hSecond : inRange (digitsValue t) = true := hFits.second (sign, digitsValue t) rfl
      exact .operation (hs.number hFits.first) hg hh (ht.number hSecond) hFits.result

theorem CutOff.not_gap (h : CutOff s) : ¬ Gap s := by
  obtain ⟨g, sign, t, rfl, -, -⟩ := h
  intro hGap
  have hSign := hGap sign.char (by simp)
  cases sign <;> exact absurd hSign (by decide)

theorem cutOff_of_operation {g h : List Char} {sign : Sign} (hg : Gap g) (hh : Gap h)
    (ht : Digits t) : CutOff (g ++ sign.char :: (h ++ (t ++ rest))) := by
  refine ⟨g, sign, h ++ (t ++ rest), rfl, hg, ?_⟩
  cases h with
  | nil =>
      obtain ⟨c, t, rfl, hc⟩ := ht.begins
      rintro ⟨⟩
      exact absurd hc (by decide)
  | cons c h =>
      rintro ⟨⟩
      exact absurd (hh '>' List.mem_cons_self) (by decide)

def Literal.Bad (l : Literal) : Prop := ∃ problem, l.value? = .error problem

def LoadSource.literal : LoadSource → Literal
  | immediate l => l
  | memory l => l

namespace Reader

theorem separator_of_cutOff (h : CutOff s) {mark : List Char} :
    separator s ≠ .ok (mark, rest) := by
  obtain ⟨g, sign, t, rfl, hg, ht⟩ := h
  intro hMark
  obtain ⟨k, l, hk, -, hArrow, hText, -⟩ := separator_eq_ok_iff.mp hMark
  have hSign : Stops Text.isSpace (sign.char :: t) := by
    cases sign <;> exact stops_cons.mpr (by decide)
  have hMarkStops : Stops Text.isSpace (mark ++ (l ++ rest)) := by
    rcases hArrow with rfl | rfl <;> exact stops_cons.mpr (by decide)
  obtain ⟨-, hSame⟩ := append_unique_of_stops hText hg hSign hk hMarkStops
  rcases hArrow with rfl | rfl
  · have hHead := (List.cons.inj hSame).1
    cases sign <;> exact absurd hHead (by decide)
  · have hTail : t = '>' :: (l ++ rest) := (List.cons.inj hSame).2
    exact ht (by rw [hTail]; rfl)

theorem number_of_overflow (hs : Digits s) (hRest : Stops Char.isDigit rest)
    (hNot : ¬ inRange (digitsValue s) = true) : ∃ place, number (s ++ rest) = .error place := by
  refine exists_error ?_
  intro n left hRead
  obtain ⟨t, hText, ht, hLeft⟩ := number_eq_ok_iff.mp hRead
  obtain ⟨rfl, -⟩ := append_unique_of_stops hText hs.2 hRest ht.digits hLeft
  rw [ht.value] at hNot
  exact hNot (inRange_natCast.mpr ht.small)

theorem term?_of_overflow {g h : List Char} (sign : Sign) (hg : Gap g) (hh : Gap h)
    (ht : Digits t) (hRest : Stops Char.isDigit rest) (hNot : ¬ inRange (digitsValue t) = true) :
    term? (g ++ sign.char :: (h ++ (t ++ rest))) = none := by
  have hSign : Stops Text.isSpace (sign.char :: (h ++ (t ++ rest))) := by
    cases sign <;> exact stops_cons.mpr (by decide)
  obtain ⟨place, hNumber⟩ := number_of_overflow ht hRest hNot
  simp only [term?, dropWhile_append_of_stops hg hSign, ofChar?_eq_some_iff.mpr rfl,
    Option.bind_eq_bind, Option.bind_some, dropWhile_append_of_stops hh (ht.stops rest), hNumber]

/-- A reader gets nothing of use from a literal at the front of a text: what it gets is bad, or the
literal is cut off. -/
def Rejects {α : Type} (bad : α → Prop) (p : Reader α) (s : List Char) : Prop :=
  ∀ a rest, p s = .ok (a, rest) → bad a ∨ CutOff rest

theorem rejects_literal (h : Writes s n more) (hNot : ¬ Fits n more) (hRest : EndsLiteral rest) :
    Rejects Literal.Bad literal (s ++ rest) := by
  intro l left hRead
  obtain ⟨k, mid, hNumber, rfl, rfl⟩ := literal_eq_ok_iff.mp hRead
  cases h with
  | single hs =>
      by_cases hRange : inRange (digitsValue s) = true
      · exact absurd ⟨hRange, by simp, hRange⟩ hNot
      · obtain ⟨place, hError⟩ := number_of_overflow hs hRest.digit hRange
        rw [hError] at hNumber
        cases hNumber
  | @operation s g h t sign hs hg hh ht =>
      have hText : s ++ (g ++ sign.char :: (h ++ t)) ++ rest =
          s ++ (g ++ sign.char :: (h ++ (t ++ rest))) := by simp
      have hSign : Stops Char.isDigit (g ++ sign.char :: (h ++ (t ++ rest))) := by
        refine Stops.append_gap hg (fun c hc => isDigit_of_isSpace hc) (stops_cons.mpr ?_)
        cases sign <;> decide
      rw [hText] at hNumber
      by_cases hFirst : inRange (digitsValue s) = true
      · rw [number_eq_ok_iff.mpr ⟨s, rfl, hs.number hFirst, hSign⟩] at hNumber
        cases hNumber
        by_cases hSecond : inRange (digitsValue t) = true
        · have hTerm : term? (g ++ sign.char :: (h ++ (t ++ rest))) =
              some ((sign, digitsValue t), rest) :=
            term?_eq_some_iff.mpr ⟨g, h, t, rfl, hg, hh, ht.number hSecond, hRest.digit⟩
          have hResult : ¬ inRange (digitsValue s + sign.apply (digitsValue t)) = true := by
            intro hResult
            refine hNot ⟨hFirst, ?_, hResult⟩
            rintro _ ⟨⟩
            exact hSecond
          refine .inl ⟨.literalRange, ?_⟩
          simp only [Literal.value?, terms_of_some hTerm, terms_of_none hRest.term]
          exact if_neg hResult
        · rw [terms_of_none (term?_of_overflow sign hg hh ht hRest.digit hSecond)]
          exact .inr (cutOff_of_operation hg hh ht)
      · obtain ⟨place, hError⟩ := number_of_overflow hs hSign hFirst
        rw [hError] at hNumber
        cases hNumber

section

variable {α β : Type} {bad : α → Prop} {p : Reader α}

theorem rejects_of_error {place : List Char} (h : p s = .error place) : Rejects bad p s := by
  intro a rest hRead
  rw [h] at hRead
  cases hRead

theorem rejects_firstOf {ps : List (Reader α)} (h : ∀ q ∈ p :: ps, Rejects bad q s) :
    Rejects bad (firstOf p ps) s := by
  intro a rest hRead
  obtain ⟨q, hMem, hRead⟩ := exists_of_firstOf hRead
  exact h q hMem a rest hRead

theorem Rejects.map (h : Rejects bad p s) {bad' : β → Prop} {f : α → β}
    (hBad : ∀ a, bad a → bad' (f a)) : Rejects bad' (f <$> p) s := by
  intro b rest hRead
  obtain ⟨a, hFirst, rfl⟩ := map_eq_ok_iff.mp hRead
  exact (h a rest hFirst).imp (hBad a) id

theorem Rejects.pairOf_left (h : Rejects bad p s) (q : Reader β) :
    Rejects (fun a => bad a.1) (pairOf p q) s := by
  rintro ⟨a, b⟩ rest hRead
  obtain ⟨mid, mark, left, hFirst, hMark, -⟩ := pairOf_eq_ok_iff.mp hRead
  rcases h a mid hFirst with hBad | hCut
  · exact .inl hBad
  · exact absurd hMark (separator_of_cutOff hCut)

theorem Rejects.pairOf_right {q : Reader β} {b : β} {u : List Char} (h : Rejects bad p u)
    (hFirst : q (s ++ (t ++ u)) = .ok (b, t ++ u)) (ht : Separator t)
    (hu : Begins opensOperand u) :
    Rejects (fun a => bad a.2) (pairOf q p) (s ++ (t ++ u)) := by
  rintro ⟨b', a⟩ rest hRead
  obtain ⟨mid, mark, left, hFirst', hMark, hSecond⟩ := pairOf_eq_ok_iff.mp hRead
  obtain ⟨mark', hMark'⟩ := separator_of_grammar ht hu.stops
  rw [hFirst] at hFirst'
  cases hFirst'
  rw [hMark'] at hMark
  cases hMark
  exact h a rest hSecond

end

section

variable {g : List Char}

theorem Rejects.address (h : Rejects Literal.Bad literal s) (hs : Begins Char.isDigit s)
    (hg : Gap g) : Rejects Literal.Bad address ('$' :: (g ++ s)) := by
  intro l rest hRead
  obtain ⟨k, mid, hText, hk, hMid, hRead⟩ := address_eq_ok_iff.mp hRead
  obtain ⟨-, rfl⟩ :=
    append_unique_of_stops (List.cons.inj hText).2 hg (opens_of_digit hs).stops hk hMid
  exact h l rest hRead

theorem literal_of_dollar (s : List Char) : literal ('$' :: s) = .error ('$' :: s) := by
  simp [literal, number_of_head (c := '$') (by decide)]

theorem address_of_digit (hs : Begins Char.isDigit s) : ∃ place, address s = .error place := by
  obtain ⟨c, t, rfl, hc⟩ := hs
  refine address_of_head ?_ t
  rintro rfl
  exact absurd hc (by decide)

theorem Rejects.immediate (h : Rejects Literal.Bad literal s) (hs : Begins Char.isDigit s) :
    Rejects (fun a => a.literal.Bad) loadSource s := by
  intro a rest hRead
  obtain ⟨place, hAddress⟩ := address_of_digit hs
  rw [loadSource, orElse_of_error (map_of_error hAddress _)] at hRead
  have hMap : Rejects (fun a => a.literal.Bad) (LoadSource.immediate <$> Reader.literal) s :=
    h.map fun _ hBad => hBad
  exact hMap a rest hRead

theorem Rejects.cell (h : Rejects Literal.Bad Reader.address ('$' :: s)) :
    Rejects (fun a => a.literal.Bad) loadSource ('$' :: s) := by
  intro a rest hRead
  rcases orElse_eq_ok_iff.mp hRead with hRead | ⟨-, hRead⟩
  · have hMap : Rejects (fun a => a.literal.Bad) (LoadSource.memory <$> Reader.address) ('$' :: s) :=
      h.map fun _ hBad => hBad
    exact hMap a rest hRead
  · rw [map_of_error (literal_of_dollar s)] at hRead
    cases hRead

theorem Rejects.aluOperand (h : Rejects Literal.Bad Reader.address ('$' :: (g ++ s)))
    (hs : Begins Char.isDigit s) (hg : Gap g) :
    Rejects (fun a => ∃ l, a = AluOperand.memory l ∧ l.Bad) Reader.aluOperand
      ('$' :: (g ++ s)) := by
  have hMemory : ∀ w d a, w.toList.head? = some d → d.isAlpha = true →
      ∃ place, memoryAt w a ('$' :: (g ++ s)) = .error place := by
    intro w d a hw hd
    obtain ⟨c, t, rfl, hc⟩ := hs
    refine memoryAt_of_head hw hd hg (isSpace_of_isWordChar (isWordChar_of_isDigit hc)) ?_ a t
    rintro rfl
    have hAlpha := isAlpha_of_toLower hd
    rw [isAlpha_of_isDigit hc] at hAlpha
    cases hAlpha
  obtain ⟨_, hAtB⟩ := hMemory "b" 'b' .memoryAtB rfl (by decide)
  obtain ⟨_, hAtX⟩ := hMemory "x" 'x' .memoryAtX rfl (by decide)
  have hKeyword : ∀ w d a, w.toList = [d] → d ≠ '$' →
      ∃ place, keywordFor w (a : AluOperand) ('$' :: (g ++ s)) = .error place :=
    fun w d a hw hd => keywordFor_of_head (c := '$') hw (Ne.symm hd) a (g ++ s)
  obtain ⟨_, hB⟩ := hKeyword "b" 'b' .b rfl (by decide)
  obtain ⟨_, hX⟩ := hKeyword "x" 'x' .x rfl (by decide)
  refine rejects_firstOf ?_
  simp only [List.forall_mem_cons]
  exact ⟨rejects_of_error hAtB, rejects_of_error hAtX, h.map fun l hBad => ⟨l, rfl, hBad⟩,
    rejects_of_error hB, rejects_of_error hX, by simp⟩

theorem Rejects.targetCell (h : Rejects Literal.Bad Reader.address ('$' :: s)) :
    Rejects (fun a => ∃ l, a = Target.address l ∧ l.Bad) target ('$' :: s) := by
  have hName : name ('$' :: s) = .error ('$' :: s) := by
    have hDollar : Text.isWordChar '$' = false := by decide
    simp [name, run1, hDollar]
  refine rejects_firstOf ?_
  simp only [List.forall_mem_cons]
  exact ⟨h.map fun l hBad => ⟨l, rfl, hBad⟩,
    rejects_of_error (map_of_error (bind_of_error (literal_of_dollar s) _) _),
    rejects_of_error (map_of_error hName _), by simp⟩

theorem Rejects.target {h : List Char} {sign : Sign} (hRejects : Rejects Literal.Bad literal
      (s ++ (g ++ sign.char :: (h ++ t)) ++ rest)) (hs : Digits s) (hg : Gap g) (hh : Gap h)
    (ht : Digits t) : Rejects (fun a => ∃ l, a = Target.address l ∧ l.Bad) target
      (s ++ (g ++ sign.char :: (h ++ t)) ++ rest) := by
  have hBare : Rejects Literal.Bad bareLiteral (s ++ (g ++ sign.char :: (h ++ t)) ++ rest) := by
    intro l left hRead
    exact hRejects l left (bareLiteral_eq_ok_iff.mp hRead).1
  have hName : Rejects (fun _ => False) name (s ++ (g ++ sign.char :: (h ++ t)) ++ rest) := by
    intro w left hRead
    obtain ⟨u, hText, hu, -, hLeft⟩ := name_eq_ok_iff.mp hRead
    have hText' : s ++ (g ++ sign.char :: (h ++ (t ++ rest))) = u ++ left := by simpa using hText
    have hSign : Stops Text.isWordChar (g ++ sign.char :: (h ++ (t ++ rest))) := by
      refine Stops.append_gap hg (fun c hc => isWordChar_of_isSpace hc) (stops_cons.mpr ?_)
      cases sign <;> decide
    obtain ⟨-, rfl⟩ := append_unique_of_stops hText'
      (fun c hc => isWordChar_of_isDigit (hs.2 c hc)) hSign hu.2 hLeft
    exact .inr (cutOff_of_operation hg hh ht)
  obtain ⟨place, hAddress⟩ :=
    address_of_digit ((hs.begins.append (g ++ sign.char :: (h ++ t))).append rest)
  refine rejects_firstOf ?_
  simp only [List.forall_mem_cons]
  exact ⟨rejects_of_error (map_of_error hAddress _), hBare.map fun l hBad => ⟨l, rfl, hBad⟩,
    hName.map fun _ hFalse => hFalse.elim, by simp⟩

end

end Reader

end

end Microbus.Assembly
