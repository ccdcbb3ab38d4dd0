import Microbus.Proofs.Assembly.Operands

/-! # Small and capital letters

Folding makes the ASCII letters of a text small. No kind of character that readers ask for tells the
two forms of a letter apart, so that a reader takes from a folded text what it takes from the text,
folded.
-/

namespace Microbus.Assembly
set_option autoImplicit false

open Grammar

def fold (s : List Char) : List Char := s.map Char.toLower

/-- What takes the same values on both forms of each letter is not changed by folding. -/
theorem apply_toLower {β : Type} (f : Char → β)
    (h : ∀ n < 26, f (Char.ofNat (97 + n)) = f (Char.ofNat (65 + n))) (c : Char) :
    f c.toLower = f c := by
  by_cases hUpper : c.val ≥ 'A'.val ∧ c.val ≤ 'Z'.val
  · have hSmall : ∀ n < 26, (Char.ofNat (65 + n)).toLower = Char.ofNat (97 + n) := by decide
    have hLow : 65 ≤ c.toNat := hUpper.1
    have hHigh : c.toNat ≤ 90 := hUpper.2
    obtain ⟨n, hn, hCode⟩ : ∃ n < 26, c.toNat = 65 + n := ⟨c.toNat - 65, by omega, by omega⟩
    have hChar : c = Char.ofNat (65 + n) := by rw [← hCode, Char.ofNat_toNat]
    rw [hChar, hSmall n hn, h n hn]
  · have hSame : c.toLower = c := dif_neg hUpper
    rw [hSame]

theorem isSpace_toLower (c : Char) : Text.isSpace c.toLower = Text.isSpace c :=
  apply_toLower Text.isSpace (by decide) c

theorem isBlank_toLower (c : Char) : Text.isBlank c.toLower = Text.isBlank c :=
  apply_toLower Text.isBlank (by decide) c

theorem isWordChar_toLower (c : Char) : Text.isWordChar c.toLower = Text.isWordChar c :=
  apply_toLower Text.isWordChar (by decide) c

theorem isDigit_toLower (c : Char) : c.toLower.isDigit = c.isDigit :=
  apply_toLower Char.isDigit (by decide) c

theorem isAlpha_toLower (c : Char) : c.toLower.isAlpha = c.isAlpha :=
  apply_toLower Char.isAlpha (by decide) c

theorem ofChar?_toLower (c : Char) : Sign.ofChar? c.toLower = Sign.ofChar? c :=
  apply_toLower Sign.ofChar? (by decide) c

theorem toLower_toLower (c : Char) : c.toLower.toLower = c.toLower :=
  apply_toLower Char.toLower (by decide) c

theorem toLower_of_not_isAlpha {c : Char} (h : c.isAlpha = false) : c.toLower = c := by
  refine dif_neg fun hUpper => ?_
  have hAlpha : c.isAlpha = true := Bool.or_eq_true_iff.mpr (.inl (decide_eq_true hUpper))
  rw [hAlpha] at h
  cases h

theorem toLower_eq_iff {c d : Char} (hd : d.isAlpha = false) : c.toLower = d ↔ c = d := by
  constructor
  · rintro rfl
    rw [isAlpha_toLower] at hd
    exact (toLower_of_not_isAlpha hd).symm
  · rintro rfl
    exact toLower_of_not_isAlpha hd

section

variable {kind : Char → Bool}

@[simp] theorem fold_nil : fold [] = [] := rfl

@[simp] theorem fold_cons (c : Char) (s : List Char) : fold (c :: s) = c.toLower :: fold s := rfl

@[simp] theorem fold_append (s t : List Char) : fold (s ++ t) = fold s ++ fold t :=
  List.map_append

@[simp] theorem length_fold (s : List Char) : (fold s).length = s.length := List.length_map _

theorem fold_fold (s : List Char) : fold (fold s) = fold s := by
  induction s with
  | nil => rfl
  | cons c s ih => rw [fold_cons, fold_cons, toLower_toLower, ih]

theorem fold_of_digits {s : List Char} (h : ∀ c ∈ s, c.isDigit = true) : fold s = s := by
  induction s with
  | nil => rfl
  | cons c s ih =>
      obtain ⟨hc, hs⟩ := List.forall_mem_cons.mp h
      rw [fold_cons, toLower_of_not_isAlpha (isAlpha_of_isDigit hc), ih hs]

theorem takeWhile_fold (hKind : ∀ c, kind c.toLower = kind c) (s : List Char) :
    (fold s).takeWhile kind = fold (s.takeWhile kind) := by
  have hSame : kind ∘ Char.toLower = kind := funext hKind
  rw [fold, List.takeWhile_map, hSame]
  rfl

theorem dropWhile_fold (hKind : ∀ c, kind c.toLower = kind c) (s : List Char) :
    (fold s).dropWhile kind = fold (s.dropWhile kind) := by
  have hSame : kind ∘ Char.toLower = kind := funext hKind
  rw [fold, List.dropWhile_map, hSame]
  rfl

theorem allBlank_fold (s : List Char) : Text.allBlank (fold s) = Text.allBlank s := by
  have hSame : Text.isBlank ∘ Char.toLower = Text.isBlank := funext isBlank_toLower
  rw [Text.allBlank, fold, List.all_map, hSame]
  rfl

end

namespace Reader

variable {α β γ δ : Type}

def folded (f : α → β) : Except (List Char) (α × List Char) → Except (List Char) (β × List Char)
  | .ok (a, rest) => .ok (f a, fold rest)
  | .error place => .error (fold place)

/-- A reader takes from a folded text what another one takes from the text. -/
def Folds (f : α → β) (p : Reader α) (q : Reader β) : Prop := ∀ s, q (fold s) = folded f (p s)

variable {f : α → β} {p : Reader α} {q : Reader β}

theorem folds_pure (f : α → β) (a : α) : Folds f (pure a) (pure (f a)) := fun _ => rfl

theorem Folds.bind {g : γ → δ} {k : α → Reader γ} {l : β → Reader δ} (h : Folds f p q)
    (hNext : ∀ a, Folds g (k a) (l (f a))) : Folds g (p >>= k) (q >>= l) := by
  intro s
  cases hp : p s with
  | error place =>
      have hq : q (fold s) = .error (fold place) := by rw [h s, hp]; rfl
      rw [bind_of_error hp, bind_of_error hq]
      rfl
  | ok r =>
      obtain ⟨a, rest⟩ := r
      have hq : q (fold s) = .ok (f a, fold rest) := by rw [h s, hp]; rfl
      rw [bind_of_ok hp, bind_of_ok hq]
      exact hNext a rest

theorem Folds.map {g : γ → δ} {k : α → γ} {l : β → δ} (h : Folds f p q)
    (hMap : ∀ a, g (k a) = l (f a)) : Folds g (k <$> p) (l <$> q) := by
  refine h.bind (k := fun a => pure (k a)) (l := fun b => pure (l b)) fun a => ?_
  rw [← hMap a]
  exact folds_pure g (k a)

theorem Folds.orElse {p' : Reader α} {q' : Reader β} (h : Folds f p q) (h' : Folds f p' q') :
    Folds f (orElse p p') (orElse q q') := by
  intro s
  cases hp : p s with
  | error place =>
      have hq : q (fold s) = .error (fold place) := by rw [h s, hp]; rfl
      rw [orElse_of_error hp, orElse_of_error hq]
      exact h' s
  | ok r =>
      have hq : q (fold s) = .ok (f r.1, fold r.2) := by rw [h s, hp]; rfl
      rw [orElse_of_ok hp, orElse_of_ok hq]
      rfl

theorem folds_firstOf {f : α → α} {ps : List (Reader α)} (h : ∀ q ∈ p :: ps, Folds f q q) :
    Folds f (firstOf p ps) (firstOf p ps) := by
  induction ps generalizing p with
  | nil => exact h p List.mem_cons_self
  | cons q ps ih =>
      obtain ⟨hp, hps⟩ := List.forall_mem_cons.mp h
      exact hp.orElse (ih hps)

theorem Folds.optional (h : Folds f p q) : Folds (Option.map f) (optional p) (optional q) := by
  intro s
  unfold Reader.optional
  rw [h s]
  cases p s with
  | error place => rfl
  | ok r => rfl

theorem folds_spaces : Folds id spaces spaces := by
  intro s
  rw [spaces, spaces, dropWhile_fold isSpace_toLower]
  rfl

theorem folds_spaces1 : Folds id spaces1 spaces1 := by
  intro s
  cases s with
  | nil => rfl
  | cons c s =>
      have hSpaces := folds_spaces (c :: s)
      simp only [fold_cons] at hSpaces
      simp only [fold_cons, spaces1, isSpace_toLower, hSpaces]
      split <;> rfl

theorem folds_run1 {kind : Char → Bool} (hKind : ∀ c, kind c.toLower = kind c) :
    Folds fold (run1 kind) (run1 kind) := by
  intro s
  simp only [run1, takeWhile_fold hKind, dropWhile_fold hKind]
  cases s.takeWhile kind <;> rfl

theorem isPrefixOf_fold {t : List Char} (ht : t.any Char.isAlpha = false) (s : List Char) :
    t.isPrefixOf (fold s) = t.isPrefixOf s := by
  induction t generalizing s with
  | nil => simp
  | cons d t ih =>
      obtain ⟨hd, ht⟩ := Bool.or_eq_false_iff.mp ht
      cases s with
      | nil => rfl
      | cons c s =>
          have hHead : (d == c.toLower) = (d == c) := by
            rw [Bool.eq_iff_iff, beq_iff_eq, beq_iff_eq, eq_comm, toLower_eq_iff hd, eq_comm]
          rw [fold_cons, List.isPrefixOf_cons_cons, List.isPrefixOf_cons_cons, hHead, ih ht]

theorem folds_exactly {t : List Char} (ht : t.any Char.isAlpha = false) :
    Folds id (exactly t) (exactly t) := by
  intro s
  simp only [exactly, isPrefixOf_fold ht]
  split
  · rw [fold, ← List.map_drop]
    rfl
  · rfl

theorem folds_atEnd : Folds id atEnd atEnd := by
  intro s
  cases s <;> rfl

theorem folds_wordEnd : Folds id wordEnd wordEnd := by
  intro s
  cases s with
  | nil => rfl
  | cons c s =>
      simp only [fold_cons, wordEnd, isWordChar_toLower]
      split <;> rfl

theorem folds_keywordFor {f : α → α} {a : α} (ha : f a = a) (word : String) :
    Folds f (keywordFor word a) (keywordFor word a) := by
  intro s
  have hWord : keyword word (fold s) = folded id (keyword word s) := by
    have hTake : ((fold s).take word.toList.length).map Char.toLower =
        (s.take word.toList.length).map Char.toLower := by
      rw [fold, ← List.map_take]
      exact fold_fold (s.take word.toList.length)
    have hDrop : (fold s).drop word.toList.length = fold (s.drop word.toList.length) :=
      List.map_drop.symm
    simp only [keyword, hTake, hDrop, folds_wordEnd (s.drop _)]
    split <;> rfl
  simp only [keywordFor, hWord]
  cases keyword word s with
  | error place => rfl
  | ok r => simp [folded, ha]

theorem folds_separator : Folds id separator separator := by
  have hMark : Folds id (orElse (exactly [',']) (exactly ['-', '>']))
      (orElse (exactly [',']) (exactly ['-', '>'])) :=
    (folds_exactly (by decide)).orElse (folds_exactly (by decide))
  exact folds_spaces.bind fun _ => hMark.bind fun mark => folds_spaces.bind fun _ =>
    folds_pure id mark

theorem Folds.pairOf {g : γ → δ} {p' : Reader γ} {q' : Reader δ} (h : Folds f p q)
    (h' : Folds g p' q') : Folds (Prod.map f g) (pairOf p p') (pairOf q q') :=
  h.bind fun a => folds_separator.bind fun _ => h'.bind fun c => folds_pure (Prod.map f g) (a, c)

theorem whole_fold {f : α → α} {p : Reader α} (h : Folds f p p) (s : List Char) :
    whole p (fold s) = match whole p s with
      | .ok a => .ok (f a)
      | .error place => .error (fold place) := by
  simp only [whole, dropWhile_fold isSpace_toLower, h (s.dropWhile _)]
  cases p (s.dropWhile Text.isSpace) with
  | error place => rfl
  | ok r =>
      simp only [folded, dropWhile_fold isSpace_toLower]
      cases r.2.dropWhile Text.isSpace <;> rfl

end Reader

/-! ## Operands -/

def Literal.fold (l : Literal) : Literal := { l with place := Assembly.fold l.place }

def LoadSource.fold : LoadSource → LoadSource
  | immediate l => immediate l.fold
  | memory l => memory l.fold

def AluOperand.fold : AluOperand → AluOperand
  | memory l => memory l.fold
  | a => a

def Target.fold : Target → Target
  | address l => address l.fold
  | label name => label (String.ofList (Assembly.fold name.toList))

namespace Reader

theorem folds_number : Folds id number number := by
  intro s
  have hDigits : fold (s.takeWhile Char.isDigit) = s.takeWhile Char.isDigit :=
    fold_of_digits fun c hc => List.mem_takeWhile_imp hc
  simp only [number, takeWhile_fold isDigit_toLower, dropWhile_fold isDigit_toLower, hDigits]
  split
  · rfl
  · split <;> rfl

theorem term?_fold (s : List Char) :
    term? (fold s) = (term? s).map fun t => (t.1, fold t.2) := by
  simp only [term?, dropWhile_fold isSpace_toLower]
  cases s.dropWhile Text.isSpace with
  | nil => rfl
  | cons c r =>
      simp only [fold_cons, ofChar?_toLower, dropWhile_fold isSpace_toLower, folds_number (r.dropWhile _)]
      cases Sign.ofChar? c with
      | none => rfl
      | some sign => cases number (r.dropWhile Text.isSpace) <;> rfl

theorem terms_fold (s : List Char) : terms (fold s) = ((terms s).1, fold (terms s).2) := by
  induction s using terms.induct with
  | case1 s hNone =>
      have hNone' : term? (fold s) = none := by rw [term?_fold, hNone]; rfl
      rw [terms_of_none hNone, terms_of_none hNone']
  | case2 s t rest hSome ih =>
      have hSome' : term? (fold s) = some (t, fold rest) := by rw [term?_fold, hSome]; rfl
      rw [terms_of_some hSome, terms_of_some hSome', ih]

theorem folds_literal : Folds Literal.fold literal literal := by
  intro s
  simp only [literal, folds_number s]
  cases number s with
  | error place => rfl
  | ok r =>
      simp only [folded, terms_fold]
      rfl

theorem folds_address : Folds Literal.fold address address :=
  (folds_exactly (by decide)).bind fun _ => folds_spaces.bind fun _ => folds_literal

theorem folds_name : Folds (fun w => String.ofList (fold w.toList)) name name := by
  intro s
  simp only [name, folds_run1 isWordChar_toLower s]
  cases run1 Text.isWordChar s with
  | error place => rfl
  | ok r => simp [folded]

theorem folds_loadSource : Folds LoadSource.fold loadSource loadSource := by
  refine .orElse ?_ ?_
  · exact folds_address.map fun _ => rfl
  · exact folds_literal.map fun _ => rfl

theorem folds_dataReg : Folds id dataReg dataReg :=
  folds_firstOf (by simp [folds_keywordFor])

theorem folds_moveSource : Folds id moveSource moveSource :=
  folds_firstOf (by simp [folds_keywordFor])

theorem folds_moveTarget : Folds id moveTarget moveTarget :=
  folds_firstOf (by simp [folds_keywordFor])

theorem folds_outputKind : Folds id outputKind outputKind :=
  folds_firstOf (by simp [folds_keywordFor])

theorem folds_memoryAt {a : AluOperand} (ha : a.fold = a) (word : String) :
    Folds AluOperand.fold (memoryAt word a) (memoryAt word a) :=
  (folds_exactly (by decide)).bind fun _ => folds_spaces.bind fun _ => folds_keywordFor ha word

theorem folds_aluOperand : Folds AluOperand.fold aluOperand aluOperand := by
  refine folds_firstOf ?_
  simp only [List.forall_mem_cons]
  exact ⟨folds_memoryAt rfl "b", folds_memoryAt rfl "x", folds_address.map fun _ => rfl,
    folds_keywordFor rfl "b", folds_keywordFor rfl "x", by simp⟩

theorem folds_bareLiteral : Folds Literal.fold bareLiteral bareLiteral :=
  folds_literal.bind fun l => folds_wordEnd.bind fun _ => folds_pure Literal.fold l

theorem folds_target : Folds Target.fold target target := by
  refine folds_firstOf ?_
  simp only [List.forall_mem_cons]
  exact ⟨folds_address.map fun _ => rfl, folds_bareLiteral.map fun _ => rfl,
    folds_name.map fun _ => rfl, by simp⟩

theorem folds_outputOperands :
    Folds (Prod.map id (Option.map LoadSource.fold)) outputOperands outputOperands := by
  have hSource : Folds LoadSource.fold (do spaces1; loadSource) (do spaces1; loadSource) :=
    folds_spaces1.bind fun _ => folds_loadSource
  exact folds_outputKind.bind fun k => hSource.optional.bind fun source =>
    folds_pure (Prod.map id (Option.map LoadSource.fold)) (k, source)

end Reader

end Microbus.Assembly
