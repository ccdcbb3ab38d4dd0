import Microbus.Proofs.Assembly.Readers

/-! # What operand readers take

The readers of operands against the forms of the grammar. Operands begin visibly, and the first
character tells most alternatives apart: a dollar sign begins a cell, a digit a number, a letter a
keyword. Labels may begin with digits, so that a target is read as a label only after it has been
tried as a number.
-/

namespace Microbus.Assembly
set_option autoImplicit false

open Grammar

namespace Grammar

def Begins (kind : Char → Bool) (s : List Char) : Prop := ∃ c t, s = c :: t ∧ kind c = true

def opensOperand (c : Char) : Bool := Text.isWordChar c || c == '$'

theorem isBlank_of_opensOperand {c : Char} (h : opensOperand c = true) :
    Text.isBlank c = false := by
  simp only [opensOperand, Bool.or_eq_true, beq_iff_eq] at h
  rcases h with h | rfl
  · exact isBlank_of_isWordChar h
  · decide

section

variable {kind : Char → Bool} {s : List Char}

theorem Begins.append (h : Begins kind s) (t : List Char) : Begins kind (s ++ t) := by
  obtain ⟨c, u, rfl, hc⟩ := h
  exact ⟨c, u ++ t, rfl, hc⟩

theorem Begins.opens (h : Begins Text.isWordChar s) : Begins opensOperand s := by
  obtain ⟨c, t, rfl, hc⟩ := h
  exact ⟨c, t, rfl, by simp [opensOperand, hc]⟩

theorem Begins.exists_visible (h : Begins opensOperand s) : ∃ c ∈ s, Text.isBlank c = false := by
  obtain ⟨c, t, rfl, hc⟩ := h
  exact ⟨c, List.mem_cons_self, isBlank_of_opensOperand hc⟩

theorem Begins.stops (h : Begins opensOperand s) : Stops Text.isSpace s := by
  obtain ⟨c, t, rfl, hc⟩ := h
  refine stops_cons.mpr ?_
  cases hSpace : Text.isSpace c with
  | false => rfl
  | true => rw [← Text.isBlank_of_isSpace hSpace, isBlank_of_opensOperand hc]

theorem Constant.begins {v : Int} (h : Constant s v) : Begins Text.isWordChar s := by
  obtain ⟨c, t, rfl, hc⟩ := h.exists_digit
  exact ⟨c, t, rfl, isWordChar_of_isDigit hc⟩

theorem Cell.begins {v : Int} (h : Cell s v) : Begins opensOperand s := by
  obtain ⟨-, -⟩ := h
  exact ⟨'$', _, rfl, by decide⟩

theorem Word.begins (h : Word s) : Begins Text.isWordChar s := by
  obtain ⟨hNe, hs⟩ := h
  obtain ⟨c, t, rfl⟩ := List.exists_cons_of_ne_nil hNe
  exact ⟨c, t, rfl, hs c List.mem_cons_self⟩

theorem isAlpha_of_toLower {c : Char} (h : c.toLower.isAlpha = true) : c.isAlpha = true := by
  by_cases hUpper : c.val ≥ 'A'.val ∧ c.val ≤ 'Z'.val
  · exact Bool.or_eq_true_iff.mpr (.inl (decide_eq_true hUpper))
  · have hSame : c.toLower = c := dif_neg hUpper
    rwa [hSame] at h

theorem isAlpha_of_isDigit {c : Char} (h : c.isDigit = true) : c.isAlpha = false := by
  have hDigit : (decide (48 ≤ c.val) && decide (c.val ≤ 57)) = true := h
  change (decide (65 ≤ c.val ∧ c.val ≤ 90) || (decide (97 ≤ c.val) && decide (c.val ≤ 122))) = false
  simp only [Bool.and_eq_true, decide_eq_true_eq, Bool.or_eq_false_iff, Bool.and_eq_false_iff,
    decide_eq_false_iff_not, UInt32.le_iff_toNat_le, UInt32.reduceToNat] at hDigit ⊢
  omega

theorem Keyword.exists_cons {word : String} (h : Keyword word s) {d : Char}
    (hd : word.toList.head? = some d) : ∃ c t, s = c :: t ∧ c.toLower = d := by
  rw [← h, List.head?_map] at hd
  cases s with
  | nil => cases hd
  | cons c t => exact ⟨c, t, rfl, by simpa using hd⟩

theorem Keyword.begins {word : String} (h : Keyword word s)
    (hWord : word.toList.head?.any Char.isAlpha = true) : Begins Text.isWordChar s := by
  obtain ⟨d, hHead, hd⟩ := (Option.any_eq_true _ _).mp hWord
  obtain ⟨c, t, rfl, rfl⟩ := h.exists_cons hHead
  exact ⟨c, t, rfl, isWordChar_of_isAlpha (isAlpha_of_toLower hd)⟩

theorem Operands.begins {c : Command} {result : StatementKind} (h : Operands c s result) :
    Begins opensOperand s ∨ c = .plain result ∧ s = [] := by
  cases h with
  | loadImmediate hs => exact .inl (hs.begins.opens.append _)
  | loadMemory hs => exact .inl (hs.begins.append _)
  | @store _ _ _ _ r hs => exact .inl ((hs.begins (by cases r <;> decide)).opens.append _)
  | withB hs | withX hs => exact .inl (hs.begins (by decide)).opens
  | withMemory hs => exact .inl hs.begins
  | withMemoryAtB | withMemoryAtX => exact .inl ⟨'$', _, rfl, by decide⟩
  | toCell hs => exact .inl hs.begins
  | toConstant hs => exact .inl hs.begins.opens
  | toLabel hs => exact .inl hs.begins.opens
  | @move _ _ _ r _ hs => exact .inl ((hs.begins (by cases r <;> decide)).opens.append _)
  | @push _ r hs | @pop _ r hs => exact .inl (hs.begins (by cases r <;> decide)).opens
  | @output _ _ _ _ k hs | @outputIndirect _ _ _ _ k hs =>
      exact .inl ((hs.begins (by cases k <;> decide)).opens.append _)
  | plain => exact .inr ⟨rfl, rfl⟩

end

theorem Gap.stops {h : List Char} (hh : Gap h) : Stops Text.isWordChar h := by
  have hStops := Stops.append_gap hh (fun c hc => isWordChar_of_isSpace hc)
    (stops_nil Text.isWordChar)
  rwa [List.append_nil] at hStops

theorem Separator.stops {t : List Char} (ht : Separator t) (rest : List Char) :
    Stops Text.isWordChar (t ++ rest) := by
  cases ht with
  | comma hg | arrow hg =>
      rw [List.append_assoc]
      exact Stops.append_gap hg (fun c hc => isWordChar_of_isSpace hc) (stops_cons.mpr (by decide))

end Grammar

section

variable {α β : Type} {sl : SourceLine} {line : Nat}

theorem bind_eq_ok_iff {ε : Type} {x : Except ε α} {f : α → Except ε β} {b : β} :
    (x >>= f) = .ok b ↔ ∃ a, x = .ok a ∧ f a = .ok b := by
  cases x with
  | error e => simp [bind, Except.bind]
  | ok a => simp [bind, Except.bind]

theorem withLiteral_eq_ok_iff {op : Opcode} {l : Literal} {kind : StatementKind} :
    withLiteral sl line op l = .ok kind ↔
      ∃ v, l.value? = .ok v ∧ kind = .instruction ⟨op, .ofInt v⟩ := by
  simp only [withLiteral, bind_eq_ok_iff, Literal.evaluate, Literal.byte?]
  cases h : l.value? with
  | error problem => simp [Except.map]
  | ok v =>
      simp only [Except.map, Except.ok.injEq, exists_eq_left', pure, Except.pure]
      exact eq_comm

theorem readOperands_eq_ok_iff {problem : Problem} {p : Reader α} {a : α} :
    readOperands sl line problem p = .ok a ↔ Reader.whole p sl.operands = .ok a := by
  unfold readOperands
  cases h : Reader.whole p sl.operands with
  | error place => simp
  | ok b => simp

end

namespace Reader

variable {α β : Type} {s t rest : List Char} {v : Int}

theorem map_of_error {p : Reader α} {place : List Char} (h : p s = .error place) (f : α → β) :
    (f <$> p) s = .error place :=
  bind_of_error h fun a => pure (f a)

theorem exists_error {p : Reader α} (h : ∀ a rest, p s ≠ .ok (a, rest)) :
    ∃ place, p s = .error place := by
  cases hp : p s with
  | error place => exact ⟨place, rfl⟩
  | ok r => exact absurd hp (h r.1 r.2)

theorem optional_eq_ok_some_iff {p : Reader α} {a : α} :
    optional p s = .ok (some a, rest) ↔ p s = .ok (a, rest) := by
  unfold optional
  cases hp : p s with
  | error place => simp
  | ok r => simp [Prod.ext_iff]

theorem pairOf_of_parts {p : Reader α} {q : Reader β} {a : α} {b : β} {u : List Char}
    (hp : p (s ++ (t ++ (u ++ rest))) = .ok (a, t ++ (u ++ rest))) (ht : Separator t)
    (hu : Begins opensOperand u) (hq : q (u ++ rest) = .ok (b, rest)) :
    pairOf p q (s ++ (t ++ u) ++ rest) = .ok ((a, b), rest) := by
  obtain ⟨mark, hMark⟩ := separator_of_grammar ht (hu.append rest).stops
  rw [List.append_assoc, List.append_assoc]
  exact pairOf_eq_ok_iff.mpr ⟨_, mark, u ++ rest, hp, hMark, hq⟩

theorem address_of_begins (ht : Begins Text.isWordChar t) (rest : List Char) :
    ∃ place, address (t ++ rest) = .error place := by
  obtain ⟨c, t, rfl, hc⟩ := ht
  refine address_of_head ?_ _
  rintro rfl
  exact absurd hc (by decide)

theorem loadSource_sound {sl : SourceLine} {line : Nat} {source : LoadSource}
    {immediate memory : Opcode} {kind : StatementKind} (h : loadSource s = .ok (source, rest))
    (hKind : withSource sl line immediate memory source = .ok kind) :
    ∃ t v, s = t ++ rest ∧ (Constant t v ∧ kind = .instruction ⟨immediate, .ofInt v⟩ ∨
      Cell t v ∧ kind = .instruction ⟨memory, .ofInt v⟩) := by
  rcases orElse_eq_ok_iff.mp h with h | ⟨-, h⟩
  · obtain ⟨l, hRead, rfl⟩ := map_eq_ok_iff.mp h
    obtain ⟨v, hValue, rfl⟩ := withLiteral_eq_ok_iff.mp hKind
    obtain ⟨t, rfl, ht⟩ := cell_of_address hRead hValue
    exact ⟨t, v, rfl, .inr ⟨ht, rfl⟩⟩
  · obtain ⟨l, hRead, rfl⟩ := map_eq_ok_iff.mp h
    obtain ⟨v, hValue, rfl⟩ := withLiteral_eq_ok_iff.mp hKind
    obtain ⟨t, rfl, ht⟩ := constant_of_literal hRead hValue
    exact ⟨t, v, rfl, .inl ⟨ht, rfl⟩⟩

theorem loadSource_of_cell (h : Cell t v) (hRest : EndsLiteral rest) :
    ∃ l, loadSource (t ++ rest) = .ok (.memory l, rest) ∧ l.value? = .ok v := by
  obtain ⟨l, hRead, hValue⟩ := address_of_cell h hRest
  exact ⟨l, orElse_of_ok (map_eq_ok_iff.mpr ⟨l, hRead, rfl⟩), hValue⟩

theorem loadSource_of_constant (h : Constant t v) (hRest : EndsLiteral rest) :
    ∃ l, loadSource (t ++ rest) = .ok (.immediate l, rest) ∧ l.value? = .ok v := by
  obtain ⟨l, hRead, hValue⟩ := literal_of_constant h hRest
  obtain ⟨place, hAddress⟩ := address_of_begins h.begins rest
  refine ⟨l, ?_, hValue⟩
  rw [loadSource, orElse_of_error (map_of_error hAddress _)]
  exact map_eq_ok_iff.mpr ⟨l, hRead, rfl⟩

theorem memoryAt_eq_ok_iff {word : String} {a operand : AluOperand}
    (hWord : word.toList.head?.any Char.isAlpha = true) : memoryAt word a s = .ok (operand, rest) ↔
      a = operand ∧ ∃ g t, s = '$' :: (g ++ (t ++ rest)) ∧ Gap g ∧ Keyword word t ∧
        Stops Text.isWordChar rest := by
  simp only [memoryAt, bind_eq_ok_iff, exactly_eq_ok_iff, spaces_eq_ok_iff, keywordFor_eq_ok_iff]
  constructor
  · rintro ⟨_, _, ⟨-, rfl⟩, _, _, ⟨g, rfl, hg, -⟩, rfl, t, rfl, ht, hRest⟩
    exact ⟨rfl, g, t, rfl, hg, ht, hRest⟩
  · rintro ⟨rfl, g, t, rfl, hg, ht, hRest⟩
    have hStops := ((ht.begins hWord).opens.append rest).stops
    exact ⟨_, _, ⟨rfl, rfl⟩, (), t ++ rest, ⟨g, rfl, hg, hStops⟩, rfl, t, rfl, ht, hRest⟩

theorem memoryAt_of_head {w : String} {d c : Char} {g : List Char}
    (hWord : w.toList.head? = some d) (hd : d.isAlpha = true) (hg : Gap g)
    (hc : Text.isSpace c = false) (hHead : c.toLower ≠ d) (a : AluOperand) (s : List Char) :
    ∃ place, memoryAt w a ('$' :: (g ++ c :: s)) = .error place := by
  refine exists_error ?_
  intro operand rest h
  obtain ⟨rfl, k, t, hText, hk, ht, hRest⟩ :=
    (memoryAt_eq_ok_iff (by rw [hWord]; exact hd)).mp h
  obtain ⟨e, t, rfl, he⟩ := ht.exists_cons hWord
  have hStop : Stops Text.isSpace (e :: (t ++ rest)) := by
    have hBegins : Begins Text.isWordChar (e :: (t ++ rest)) :=
      ⟨e, t ++ rest, rfl, isWordChar_of_isAlpha (isAlpha_of_toLower (by rw [he]; exact hd))⟩
    exact hBegins.opens.stops
  obtain ⟨-, hRest'⟩ := append_unique_of_stops (List.cons.inj hText).2 hg (stops_cons.mpr hc) hk hStop
  obtain ⟨rfl, -⟩ := List.cons.inj hRest'
  exact hHead he

theorem exists_of_firstOf {p : Reader α} {qs : List (Reader α)} {r : α × List Char}
    (h : firstOf p qs s = .ok r) : ∃ q ∈ p :: qs, q s = .ok r := by
  induction qs generalizing p with
  | nil => exact ⟨p, List.mem_cons_self, h⟩
  | cons q qs ih =>
      rcases orElse_eq_ok_iff.mp h with h | ⟨-, h⟩
      · exact ⟨p, List.mem_cons_self, h⟩
      · obtain ⟨q', hMem, h⟩ := ih h
        exact ⟨q', List.mem_cons_of_mem _ hMem, h⟩

theorem bareLiteral_eq_ok_iff {l : Literal} :
    bareLiteral s = .ok (l, rest) ↔ literal s = .ok (l, rest) ∧ Stops Text.isWordChar rest := by
  simp only [bareLiteral, bind_eq_ok_iff, wordEnd_eq_ok_iff]
  constructor
  · rintro ⟨l', _, hRead, _, _, ⟨rfl, hRest⟩, hEnd⟩
    cases hEnd
    exact ⟨hRead, hRest⟩
  · rintro ⟨hRead, hRest⟩
    exact ⟨l, rest, hRead, (), rest, ⟨rfl, hRest⟩, rfl⟩

/-- A word in front of spaces is read as a literal only if it is a number. -/
theorem constant_of_bareLiteral {w h left : List Char} {l : Literal} (hw : Word w) (hh : Gap h)
    (hRead : bareLiteral (w ++ h) = .ok (l, left)) : ∃ v, Constant w v := by
  obtain ⟨hRead, hLeft⟩ := bareLiteral_eq_ok_iff.mp hRead
  obtain ⟨n, mid, hNumber, -, rfl⟩ := literal_eq_ok_iff.mp hRead
  obtain ⟨t, hText, ht, -⟩ := number_eq_ok_iff.mp hNumber
  rcases List.append_eq_append_iff.mp hText with ⟨k, rfl, rfl⟩ | ⟨k, rfl, rfl⟩
  · cases k with
    | nil => exact ⟨n, .number (by simpa using ht)⟩
    | cons c k =>
        have hDigit := ht.digits c (List.mem_append_right w List.mem_cons_self)
        rw [isDigit_of_isSpace (hh c List.mem_cons_self)] at hDigit
        cases hDigit
  · cases k with
    | nil => exact ⟨n, .number (by simpa using ht)⟩
    | cons c k =>
        have hc := hw.2 c (List.mem_append_right t List.mem_cons_self)
        have hTerm : term? (c :: k ++ h) = none := by
          have hNone : Sign.ofChar? c = none := by
            cases hSign : Sign.ofChar? c with
            | none => rfl
            | some sign =>
                rw [ofChar?_eq_some_iff.mp hSign] at hc
                cases sign <;> exact absurd hc (by decide)
          simp [term?, isSpace_of_isWordChar hc, hNone]
        rw [terms_of_none hTerm, List.cons_append, stops_cons, hc] at hLeft
        cases hLeft

theorem target_of_cell (h : Cell t v) (hRest : EndsLiteral rest) :
    ∃ l, target (t ++ rest) = .ok (.address l, rest) ∧ l.value? = .ok v := by
  obtain ⟨l, hRead, hValue⟩ := address_of_cell h hRest
  exact ⟨l, orElse_of_ok (map_eq_ok_iff.mpr ⟨l, hRead, rfl⟩), hValue⟩

theorem target_of_constant (h : Constant t v) (hRest : Gap rest) :
    ∃ l, target (t ++ rest) = .ok (.address l, rest) ∧ l.value? = .ok v := by
  obtain ⟨l, hRead, hValue⟩ := literal_of_constant h (endsLiteral_of_gap hRest)
  obtain ⟨place, hAddress⟩ := address_of_begins h.begins rest
  refine ⟨l, ?_, hValue⟩
  rw [target, firstOf, orElse_of_error (map_of_error hAddress _)]
  exact orElse_of_ok (map_eq_ok_iff.mpr ⟨l, bareLiteral_eq_ok_iff.mpr ⟨hRead, hRest.stops⟩, rfl⟩)

theorem target_of_word (h : Word t) (hNone : ∀ v, ¬ Constant t v) (hRest : Gap rest) :
    target (t ++ rest) = .ok (.label (String.ofList t), rest) := by
  obtain ⟨place, hAddress⟩ := address_of_begins h.begins rest
  obtain ⟨place', hLiteral⟩ : ∃ place, bareLiteral (t ++ rest) = .error place := by
    refine exists_error ?_
    intro l left hRead
    obtain ⟨v, hv⟩ := constant_of_bareLiteral h hRest hRead
    exact hNone v hv
  rw [target, firstOf, orElse_of_error (map_of_error hAddress _), firstOf,
    orElse_of_error (map_of_error hLiteral _)]
  exact map_eq_ok_iff.mpr ⟨_, name_eq_ok_iff.mpr ⟨t, rfl, h, rfl, hRest.stops⟩, rfl⟩

theorem word_of_target {label : String} (h : target s = .ok (.label label, rest))
    (hRest : Gap rest) :
    ∃ t, s = t ++ rest ∧ Word t ∧ label = String.ofList t ∧ ∀ v, ¬ Constant t v := by
  rcases orElse_eq_ok_iff.mp h with h | ⟨-, h⟩
  · obtain ⟨l, -, hEq⟩ := map_eq_ok_iff.mp h
    cases hEq
  rcases orElse_eq_ok_iff.mp h with h | ⟨⟨place, hLiteral⟩, h⟩
  · obtain ⟨l, -, hEq⟩ := map_eq_ok_iff.mp h
    cases hEq
  obtain ⟨name, hRead, hEq⟩ := map_eq_ok_iff.mp h
  cases hEq
  obtain ⟨t, rfl, ht, rfl, -⟩ := name_eq_ok_iff.mp hRead
  refine ⟨t, rfl, ht, rfl, ?_⟩
  intro v hv
  obtain ⟨l, hRead, -⟩ := literal_of_constant hv (endsLiteral_of_gap hRest)
  have hBare := bareLiteral_eq_ok_iff.mpr ⟨hRead, hRest.stops⟩
  have hTarget := map_eq_ok_iff (f := Target.address).mpr ⟨l, hBare, rfl⟩
  rw [hTarget] at hLiteral
  cases hLiteral

theorem constant_of_target {l : Literal} (h : target s = .ok (.address l, rest))
    (hValue : l.value? = .ok v) : ∃ t, s = t ++ rest ∧ (Cell t v ∨ Constant t v) := by
  obtain ⟨q, hq, h⟩ := exists_of_firstOf h
  simp only [List.mem_cons, List.not_mem_nil, or_false] at hq
  rcases hq with rfl | rfl | rfl
  · obtain ⟨l, hRead, hEq⟩ := map_eq_ok_iff.mp h
    cases hEq
    obtain ⟨t, rfl, ht⟩ := cell_of_address hRead hValue
    exact ⟨t, rfl, .inl ht⟩
  · obtain ⟨l, hRead, hEq⟩ := map_eq_ok_iff.mp h
    cases hEq
    obtain ⟨t, rfl, ht⟩ := constant_of_literal (bareLiteral_eq_ok_iff.mp hRead).1 hValue
    exact ⟨t, rfl, .inr ht⟩
  · obtain ⟨l, -, hEq⟩ := map_eq_ok_iff.mp h
    cases hEq

theorem aluOperand_sound {operand : AluOperand} (h : aluOperand s = .ok (operand, rest)) :
    match operand with
    | .b => ∃ t, s = t ++ rest ∧ Keyword "b" t
    | .x => ∃ t, s = t ++ rest ∧ Keyword "x" t
    | .memory l => ∀ v, l.value? = .ok v → ∃ t, s = t ++ rest ∧ Cell t v
    | .memoryAtB => ∃ g t, s = '$' :: (g ++ t) ++ rest ∧ Gap g ∧ Keyword "b" t
    | .memoryAtX => ∃ g t, s = '$' :: (g ++ t) ++ rest ∧ Gap g ∧ Keyword "x" t := by
  obtain ⟨q, hq, h⟩ := exists_of_firstOf h
  simp only [List.mem_cons, List.not_mem_nil, or_false] at hq
  rcases hq with rfl | rfl | rfl | rfl | rfl
  · obtain ⟨rfl, g, t, rfl, hg, ht, -⟩ := (memoryAt_eq_ok_iff (by decide)).mp h
    exact ⟨g, t, by simp, hg, ht⟩
  · obtain ⟨rfl, g, t, rfl, hg, ht, -⟩ := (memoryAt_eq_ok_iff (by decide)).mp h
    exact ⟨g, t, by simp, hg, ht⟩
  · obtain ⟨l, hRead, rfl⟩ := map_eq_ok_iff.mp h
    exact fun v hValue => cell_of_address hRead hValue
  · obtain ⟨rfl, t, rfl, ht, -⟩ := keywordFor_eq_ok_iff.mp h
    exact ⟨t, rfl, ht⟩
  · obtain ⟨rfl, t, rfl, ht, -⟩ := keywordFor_eq_ok_iff.mp h
    exact ⟨t, rfl, ht⟩

theorem aluOperand_of_keyword (word : String) (operand : AluOperand)
    (hOperand : (word, operand) ∈ [("b", AluOperand.b), ("x", .x)]) (ht : Keyword word t)
    (hRest : Stops Text.isWordChar rest) : aluOperand (t ++ rest) = .ok (operand, rest) := by
  have hWord : word.toList.head?.any Char.isAlpha = true := by
    simp only [List.mem_cons, Prod.mk.injEq, List.not_mem_nil, or_false] at hOperand
    rcases hOperand with ⟨rfl, -⟩ | ⟨rfl, -⟩ <;> decide
  obtain ⟨place, hAddress⟩ := address_of_begins (ht.begins hWord) rest
  have hMemory : ∀ w a, w.toList.head?.any Char.isAlpha = true →
      ∃ place, memoryAt w a (t ++ rest) = .error place := by
    intro w a hw
    refine exists_error ?_
    intro operand left h
    obtain ⟨-, g, u, hText, -⟩ := (memoryAt_eq_ok_iff hw).mp h
    obtain ⟨c, t, rfl, hc⟩ := ht.begins hWord
    rw [(List.cons.inj hText).1] at hc
    exact absurd hc (by decide)
  obtain ⟨_, hB⟩ := hMemory "b" .memoryAtB (by decide)
  obtain ⟨_, hX⟩ := hMemory "x" .memoryAtX (by decide)
  rw [aluOperand, firstOf, orElse_of_error hB, firstOf, orElse_of_error hX, firstOf,
    orElse_of_error (map_of_error hAddress _)]
  exact (firstOf_keywordFor_eq_ok_iff [("x", AluOperand.x)] (by decide)
    (by decide)).mpr ⟨(word, operand), hOperand, rfl, t, rfl, ht, hRest⟩

theorem aluOperand_of_cell (h : Cell t v) (hRest : EndsLiteral rest) :
    ∃ l, aluOperand (t ++ rest) = .ok (.memory l, rest) ∧ l.value? = .ok v := by
  obtain ⟨l, hRead, hValue⟩ := address_of_cell h hRest
  have hMemory : ∀ w d a, w.toList.head? = some d → d.isAlpha = true →
      ∃ place, memoryAt w a (t ++ rest) = .error place := by
    intro w d a hw hd
    obtain ⟨hg, ht⟩ := h
    obtain ⟨c, u, rfl, hc⟩ := ht.exists_digit
    rw [List.cons_append, List.append_assoc, List.cons_append]
    refine memoryAt_of_head hw hd hg (isSpace_of_isWordChar (isWordChar_of_isDigit hc)) ?_ a _
    rintro rfl
    have hAlpha := isAlpha_of_toLower hd
    rw [isAlpha_of_isDigit hc] at hAlpha
    cases hAlpha
  obtain ⟨_, hB⟩ := hMemory "b" 'b' .memoryAtB rfl (by decide)
  obtain ⟨_, hX⟩ := hMemory "x" 'x' .memoryAtX rfl (by decide)
  refine ⟨l, ?_, hValue⟩
  rw [aluOperand, firstOf, orElse_of_error hB, firstOf, orElse_of_error hX]
  exact orElse_of_ok (map_eq_ok_iff.mpr ⟨l, hRead, rfl⟩)

theorem aluOperand_of_memoryAtB {g : List Char} (hg : Gap g) (ht : Keyword "b" t)
    (hRest : Stops Text.isWordChar rest) :
    aluOperand ('$' :: (g ++ (t ++ rest))) = .ok (.memoryAtB, rest) :=
  orElse_of_ok ((memoryAt_eq_ok_iff (by decide)).mpr ⟨rfl, g, t, rfl, hg, ht, hRest⟩)

theorem aluOperand_of_memoryAtX {g : List Char} (hg : Gap g) (ht : Keyword "x" t)
    (hRest : Stops Text.isWordChar rest) :
    aluOperand ('$' :: (g ++ (t ++ rest))) = .ok (.memoryAtX, rest) := by
  obtain ⟨c, u, rfl, hc⟩ := ht.exists_cons (d := 'x') rfl
  have hAlpha : c.isAlpha = true := isAlpha_of_toLower (by rw [hc]; decide)
  obtain ⟨_, hB⟩ := memoryAt_of_head (w := "b") (d := 'b') (c := c) rfl (by decide) hg
    (isSpace_of_isWordChar (isWordChar_of_isAlpha hAlpha)) (by rw [hc]; decide) .memoryAtB
    (u ++ rest)
  rw [aluOperand, firstOf, List.cons_append, orElse_of_error hB]
  exact orElse_of_ok ((memoryAt_eq_ok_iff (by decide)).mpr ⟨rfl, g, c :: u, rfl, hg, ht, hRest⟩)

theorem outputOperands_eq_ok_some_iff {k : OutputKind} {source : LoadSource} :
    outputOperands s = .ok ((k, some source), rest) ↔ ∃ t g left, s = t ++ (g ++ left) ∧
      Keyword k.keyword t ∧ g ≠ [] ∧ Gap g ∧ Stops Text.isSpace left ∧
      loadSource left = .ok (source, rest) := by
  simp only [outputOperands, bind_eq_ok_iff, outputKind_eq_ok_iff]
  constructor
  · rintro ⟨k', _, ⟨t, rfl, ht, -⟩, source', mid, hSource, hEnd⟩
    cases hEnd
    obtain ⟨_, left, hSpaces, hLoad⟩ := bind_eq_ok_iff.mp (optional_eq_ok_some_iff.mp hSource)
    obtain ⟨g, rfl, hNe, hg, hLeft⟩ := spaces1_eq_ok_iff.mp hSpaces
    exact ⟨t, g, left, rfl, ht, hNe, hg, hLeft, hLoad⟩
  · rintro ⟨t, g, left, rfl, ht, hNe, hg, hLeft, hLoad⟩
    have hStops : Stops Text.isWordChar (g ++ left) := by
      obtain ⟨c, g, rfl⟩ := List.exists_cons_of_ne_nil hNe
      exact stops_cons.mpr (isWordChar_of_isSpace (hg c List.mem_cons_self))
    have hSource : optional (do spaces1; loadSource) (g ++ left) = .ok (some source, rest) :=
      optional_eq_ok_some_iff.mpr (bind_eq_ok_iff.mpr
        ⟨(), left, spaces1_eq_ok_iff.mpr ⟨g, rfl, hNe, hg, hLeft⟩, hLoad⟩)
    exact ⟨k, g ++ left, ⟨t, rfl, ht, hStops⟩, some source, rest, hSource, rfl⟩

end Reader

end Microbus.Assembly
