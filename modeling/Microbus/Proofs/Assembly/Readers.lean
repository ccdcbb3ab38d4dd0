import Mathlib.Data.List.TakeWhile
import Microbus.Proofs.Assembly.Grammar

/-! # What readers take

A reader of a part of a line is described by an equivalence: it succeeds just if the text begins
with a part of the right form and the rest does not prolong it. Readers take as much as they can,
so each equivalence names the characters at which its part has to stop. Literals are the exception:
they are read beyond two terms, and their value is checked only later.
-/

namespace Microbus.Assembly
set_option autoImplicit false

open Grammar

def Stops (kind : Char → Bool) (s : List Char) : Prop := ∀ c ∈ s.head?, kind c = false

section

variable {kind : Char → Bool} {s t rest : List Char}

@[simp] theorem stops_nil (kind : Char → Bool) : Stops kind [] := by simp [Stops]

@[simp] theorem stops_cons {c : Char} : Stops kind (c :: s) ↔ kind c = false := by simp [Stops]

theorem stops_dropWhile (kind : Char → Bool) (s : List Char) : Stops kind (s.dropWhile kind) := by
  intro c hc
  have h := List.head?_dropWhile_not kind s
  rwa [hc] at h

theorem takeWhile_append_of_stops (h : ∀ c ∈ t, kind c = true) (hRest : Stops kind rest) :
    (t ++ rest).takeWhile kind = t := by
  rw [List.takeWhile_append_of_pos h]
  cases rest with
  | nil => simp
  | cons c rest => simp [stops_cons.mp hRest]

theorem dropWhile_append_of_stops (h : ∀ c ∈ t, kind c = true) (hRest : Stops kind rest) :
    (t ++ rest).dropWhile kind = rest := by
  rw [List.dropWhile_append_of_pos h]
  cases rest with
  | nil => rfl
  | cons c rest => simp [stops_cons.mp hRest]

theorem append_unique_of_stops {rest' : List Char} (h : s ++ rest = t ++ rest')
    (hs : ∀ c ∈ s, kind c = true) (hRest : Stops kind rest) (ht : ∀ c ∈ t, kind c = true)
    (hRest' : Stops kind rest') : s = t ∧ rest = rest' := by
  have hTake := congrArg (List.takeWhile kind) h
  have hDrop := congrArg (List.dropWhile kind) h
  rw [takeWhile_append_of_stops hs hRest, takeWhile_append_of_stops ht hRest'] at hTake
  rw [dropWhile_append_of_stops hs hRest, dropWhile_append_of_stops ht hRest'] at hDrop
  exact ⟨hTake, hDrop⟩

theorem dropWhile_eq_iff : s.dropWhile kind = rest ↔
    ∃ t, s = t ++ rest ∧ (∀ c ∈ t, kind c = true) ∧ Stops kind rest := by
  constructor
  · rintro rfl
    exact ⟨s.takeWhile kind, List.takeWhile_append_dropWhile.symm,
      fun c hc => List.mem_takeWhile_imp hc, stops_dropWhile kind s⟩
  · rintro ⟨t, rfl, ht, hRest⟩
    exact dropWhile_append_of_stops ht hRest

theorem Stops.append_gap {g : List Char} (hg : Gap g)
    (hSpace : ∀ c, Text.isSpace c = true → kind c = false) (hs : Stops kind s) :
    Stops kind (g ++ s) := by
  cases g with
  | nil => exact hs
  | cons c g => exact stops_cons.mpr (hSpace c (hg c List.mem_cons_self))

end

theorem isWordChar_of_isDigit {c : Char} (h : c.isDigit = true) : Text.isWordChar c = true :=
  Text.isWordChar_of_isAlphanum (by simp [Char.isAlphanum, h])

theorem isWordChar_of_isAlpha {c : Char} (h : c.isAlpha = true) : Text.isWordChar c = true :=
  Text.isWordChar_of_isAlphanum (by simp [Char.isAlphanum, h])

def blankCodes : List Nat :=
  [0x09, 0x0a, 0x0b, 0x0c, 0x0d, 0x20, 0x85, 0xa0, 0x1680, 0x2000, 0x2001, 0x2002, 0x2003, 0x2004,
    0x2005, 0x2006, 0x2007, 0x2008, 0x2009, 0x200a, 0x2028, 0x2029, 0x202f, 0x205f, 0x3000]

theorem toNat_mem_blankCodes {c : Char} (h : Text.isBlank c = true) : c.toNat ∈ blankCodes := by
  simp only [Text.isBlank, Bool.or_eq_true, Bool.and_eq_true, decide_eq_true_eq,
    beq_iff_eq] at h
  simp only [blankCodes, List.mem_cons, List.not_mem_nil]
  omega

theorem isWordChar_of_isBlank {c : Char} (h : Text.isBlank c = true) :
    Text.isWordChar c = false := by
  have hAll : ∀ n ∈ blankCodes, Text.isWordChar (Char.ofNat n) = false := by decide +kernel
  have hCode := hAll c.toNat (toNat_mem_blankCodes h)
  rwa [Char.ofNat_toNat] at hCode

theorem isBlank_of_isWordChar {c : Char} (h : Text.isWordChar c = true) :
    Text.isBlank c = false := by
  cases hBlank : Text.isBlank c with
  | false => rfl
  | true => rw [isWordChar_of_isBlank hBlank] at h; cases h

theorem isWordChar_of_isSpace {c : Char} (h : Text.isSpace c = true) :
    Text.isWordChar c = false :=
  isWordChar_of_isBlank (Text.isBlank_of_isSpace h)

theorem isDigit_of_isSpace {c : Char} (h : Text.isSpace c = true) : c.isDigit = false := by
  simp only [Text.isSpace, Bool.or_eq_true, beq_iff_eq] at h
  rcases h with rfl | rfl <;> decide

theorem isSpace_of_isWordChar {c : Char} (h : Text.isWordChar c = true) :
    Text.isSpace c = false := by
  cases hSpace : Text.isSpace c with
  | false => rfl
  | true => rw [isWordChar_of_isSpace hSpace] at h; cases h

theorem inRange_natCast {n : Nat} : inRange n = true ↔ n < 0x8000_0000_0000_0000 := by
  simp only [inRange, Bool.and_eq_true, decide_eq_true_eq]
  omega

theorem ofChar?_eq_some_iff {c : Char} {sign : Sign} :
    Sign.ofChar? c = some sign ↔ c = sign.char := by
  unfold Sign.ofChar?
  split
  · next h => subst h; cases sign <;> simp [Sign.char]
  · next h =>
      split
      · next h' => subst h'; cases sign <;> simp [Sign.char]
      · next h' => cases sign <;> simp [Sign.char, h, h']

namespace Reader

variable {α β : Type} {p q : Reader α} {s rest : List Char}

theorem bind_of_ok {a : α} {mid : List Char} (h : p s = .ok (a, mid)) (f : α → Reader β) :
    (p >>= f) s = f a mid := by
  simp only [bind, h]

theorem bind_of_error {place : List Char} (h : p s = .error place) (f : α → Reader β) :
    (p >>= f) s = .error place := by
  simp only [bind, h]

theorem bind_eq_ok_iff {f : α → Reader β} {r : β × List Char} :
    (p >>= f) s = .ok r ↔ ∃ a mid, p s = .ok (a, mid) ∧ f a mid = .ok r := by
  cases hp : p s with
  | error place => simp [bind_of_error hp]
  | ok m =>
      obtain ⟨a, mid⟩ := m
      rw [bind_of_ok hp]
      constructor
      · exact fun h => ⟨a, mid, rfl, h⟩
      · rintro ⟨a', mid', hEq, h⟩
        cases hEq
        exact h

theorem map_eq_ok_iff {f : α → β} {b : β} :
    (f <$> p) s = .ok (b, rest) ↔ ∃ a, p s = .ok (a, rest) ∧ f a = b := by
  change (p >>= fun a => pure (f a)) s = _ ↔ _
  rw [bind_eq_ok_iff]
  constructor
  · rintro ⟨a, mid, hp, hEq⟩
    cases hEq
    exact ⟨a, hp, rfl⟩
  · rintro ⟨a, hp, rfl⟩
    exact ⟨a, rest, hp, rfl⟩

theorem orElse_of_ok {r : α × List Char} (h : p s = .ok r) : orElse p q s = .ok r := by
  simp [orElse, h]

theorem orElse_of_error {place : List Char} (h : p s = .error place) : orElse p q s = q s := by
  simp [orElse, h]

theorem orElse_eq_ok_iff {r : α × List Char} :
    orElse p q s = .ok r ↔ p s = .ok r ∨ (∃ place, p s = .error place) ∧ q s = .ok r := by
  cases hp : p s with
  | error place => simp [orElse, hp]
  | ok m => simp [orElse, hp]

theorem spaces_eq_ok_iff {u : Unit} : spaces s = .ok (u, rest) ↔
    ∃ g, s = g ++ rest ∧ Gap g ∧ Stops Text.isSpace rest := by
  simp only [spaces, Except.ok.injEq, Prod.mk.injEq, true_and]
  exact dropWhile_eq_iff

theorem spaces1_eq_ok_iff {u : Unit} : spaces1 s = .ok (u, rest) ↔
    ∃ g, s = g ++ rest ∧ g ≠ [] ∧ Gap g ∧ Stops Text.isSpace rest := by
  cases s with
  | nil => simp [spaces1, eq_comm]
  | cons c s =>
      cases hc : Text.isSpace c with
      | true =>
          simp only [spaces1, hc, if_true]
          rw [spaces_eq_ok_iff]
          constructor
          · rintro ⟨g, hEq, hg, hRest⟩
            refine ⟨g, hEq, ?_, hg, hRest⟩
            rintro rfl
            rw [List.nil_append] at hEq
            rw [← hEq, stops_cons, hc] at hRest
            cases hRest
          · rintro ⟨g, hEq, -, hg, hRest⟩
            exact ⟨g, hEq, hg, hRest⟩
      | false =>
          simp only [spaces1, hc, Bool.false_eq_true, if_false, reduceCtorEq, false_iff]
          rintro ⟨g, hEq, hNe, hg, -⟩
          obtain ⟨d, g, rfl⟩ := List.exists_cons_of_ne_nil hNe
          rw [List.cons_append, List.cons.injEq] at hEq
          rw [hEq.1, hg d List.mem_cons_self] at hc
          cases hc

theorem exactly_eq_ok_iff {t u : List Char} :
    exactly t s = .ok (u, rest) ↔ u = t ∧ s = t ++ rest := by
  unfold exactly
  split
  · next h =>
      obtain ⟨r, rfl⟩ := List.isPrefixOf_iff_prefix.mp h
      simp [eq_comm]
  · next h =>
      simp only [reduceCtorEq, false_iff, not_and]
      rintro - rfl
      exact h (List.isPrefixOf_iff_prefix.mpr ⟨rest, rfl⟩)

theorem wordEnd_eq_ok_iff {u : Unit} :
    wordEnd s = .ok (u, rest) ↔ s = rest ∧ Stops Text.isWordChar rest := by
  cases s with
  | nil =>
      simp only [wordEnd, Except.ok.injEq, Prod.mk.injEq, true_and]
      constructor
      · rintro rfl
        exact ⟨rfl, stops_nil _⟩
      · exact And.left
  | cons c s =>
      cases hc : Text.isWordChar c with
      | true =>
          simp only [wordEnd, hc, if_true, reduceCtorEq, false_iff, not_and]
          rintro rfl h
          rw [stops_cons, hc] at h
          cases h
      | false =>
          simp only [wordEnd, hc, Bool.false_eq_true, if_false, Except.ok.injEq, Prod.mk.injEq,
            true_and]
          constructor
          · rintro rfl
            exact ⟨rfl, stops_cons.mpr hc⟩
          · rintro ⟨rfl, -⟩
            rfl

theorem keyword_eq_ok_iff {word : String} {u : Unit} : keyword word s = .ok (u, rest) ↔
    ∃ t, s = t ++ rest ∧ Keyword word t ∧ Stops Text.isWordChar rest := by
  simp only [keyword]
  constructor
  · intro h
    split at h
    · next hWord =>
        obtain ⟨rfl, hRest⟩ := wordEnd_eq_ok_iff.mp h
        exact ⟨_, (List.take_append_drop _ s).symm, hWord, hRest⟩
    · cases h
  · rintro ⟨t, rfl, hWord, hRest⟩
    have hLength : t.length = word.toList.length := by rw [← hWord, List.length_map]
    have hLetters : t.map Char.toLower = word.toList := hWord
    rw [← hLength, List.take_left, List.drop_left, if_pos hLetters]
    exact wordEnd_eq_ok_iff.mpr ⟨rfl, hRest⟩

theorem keywordFor_eq_ok_iff {word : String} {a b : α} : keywordFor word a s = .ok (b, rest) ↔
    a = b ∧ ∃ t, s = t ++ rest ∧ Keyword word t ∧ Stops Text.isWordChar rest := by
  rw [← keyword_eq_ok_iff (u := ())]
  unfold keywordFor
  cases hWord : keyword word s with
  | error place => simp
  | ok r =>
      obtain ⟨⟨⟩, left⟩ := r
      simp

theorem keyword_of_head {word : String} {c d : Char} {ds : List Char}
    (hWord : word.toList = d :: ds) (hc : c.toLower ≠ d) (s : List Char) :
    ∃ place, keyword word (c :: s) = .error place := by
  refine ⟨c :: s, ?_⟩
  simp [keyword, hWord, hc]

theorem keywordFor_of_head {word : String} {c d : Char} {ds : List Char}
    (hWord : word.toList = d :: ds) (hc : c.toLower ≠ d) (a : α) (s : List Char) :
    ∃ place, keywordFor word a (c :: s) = .error place := by
  obtain ⟨place, h⟩ := keyword_of_head hWord hc s
  exact ⟨place, by simp [keywordFor, h]⟩

/-- Keywords that begin with different letters can be tried in any order. -/
theorem firstOf_keywordFor_eq_ok_iff {w : String} {a b : α} (table : List (String × α))
    (hHeads : ((w, a) :: table).Pairwise fun x y => x.1.toList.head? ≠ y.1.toList.head?)
    (hWords : ∀ x ∈ (w, a) :: table, x.1.toList ≠ []) :
    firstOf (keywordFor w a) (table.map fun x => keywordFor x.1 x.2) s = .ok (b, rest) ↔
      ∃ x ∈ (w, a) :: table, x.2 = b ∧
        ∃ t, s = t ++ rest ∧ Keyword x.1 t ∧ Stops Text.isWordChar rest := by
  induction table generalizing w a with
  | nil => simpa [firstOf] using keywordFor_eq_ok_iff
  | cons y table ih =>
      obtain ⟨hHead, hHeads⟩ := List.pairwise_cons.mp hHeads
      have hWordsTail : ∀ x ∈ y :: table, x.1.toList ≠ [] :=
        fun x hx => hWords x (List.mem_cons_of_mem _ hx)
      simp only [List.map_cons, firstOf, orElse_eq_ok_iff, keywordFor_eq_ok_iff,
        ih hHeads hWordsTail]
      constructor
      · rintro (⟨rfl, h⟩ | ⟨-, x, hx, hEq, h⟩)
        · exact ⟨(w, a), List.mem_cons_self, rfl, h⟩
        · exact ⟨x, List.mem_cons_of_mem _ hx, hEq, h⟩
      · rintro ⟨x, hx, hEq, h⟩
        rcases List.mem_cons.mp hx with rfl | hx
        · exact .inl ⟨hEq, h⟩
        · refine .inr ⟨?_, x, hx, hEq, h⟩
          obtain ⟨t, rfl, hWord, -⟩ := h
          obtain ⟨d, ds, hw⟩ := List.exists_cons_of_ne_nil (hWords (w, a) List.mem_cons_self)
          obtain ⟨e, es, hx'⟩ := List.exists_cons_of_ne_nil (hWordsTail x hx)
          have hLetters := hHead x hx
          rw [Keyword, hx'] at hWord
          obtain ⟨c, t, rfl, hc, -⟩ := List.map_eq_cons_iff.mp hWord
          refine keywordFor_of_head hw ?_ a _
          rintro rfl
          exact hLetters (by simp [hw, hx', hc])

theorem dataReg_eq_ok_iff {r : DataReg} : dataReg s = .ok (r, rest) ↔
    ∃ t, s = t ++ rest ∧ Keyword r.keyword t ∧ Stops Text.isWordChar rest := by
  refine (firstOf_keywordFor_eq_ok_iff [(DataReg.b.keyword, DataReg.b)] (by decide)
    (by decide)).trans ?_
  cases r <;> simp

theorem moveSource_eq_ok_iff {r : MoveSource} : moveSource s = .ok (r, rest) ↔
    ∃ t, s = t ++ rest ∧ Keyword r.keyword t ∧ Stops Text.isWordChar rest := by
  refine (firstOf_keywordFor_eq_ok_iff [(MoveSource.b.keyword, MoveSource.b),
    (MoveSource.sp.keyword, .sp)] (by decide) (by decide)).trans ?_
  cases r <;> simp

theorem moveTarget_eq_ok_iff {r : MoveTarget} : moveTarget s = .ok (r, rest) ↔
    ∃ t, s = t ++ rest ∧ Keyword r.keyword t ∧ Stops Text.isWordChar rest := by
  refine (firstOf_keywordFor_eq_ok_iff [(MoveTarget.b.keyword, MoveTarget.b),
    (MoveTarget.x.keyword, .x)] (by decide) (by decide)).trans ?_
  cases r <;> simp

theorem outputKind_eq_ok_iff {k : OutputKind} : outputKind s = .ok (k, rest) ↔
    ∃ t, s = t ++ rest ∧ Keyword k.keyword t ∧ Stops Text.isWordChar rest := by
  refine (firstOf_keywordFor_eq_ok_iff [(OutputKind.address.keyword, OutputKind.address),
    (OutputKind.data.keyword, .data)] (by decide) (by decide)).trans ?_
  cases k <;> simp

theorem name_eq_ok_iff {w : String} : name s = .ok (w, rest) ↔
    ∃ t, s = t ++ rest ∧ Word t ∧ w = String.ofList t ∧ Stops Text.isWordChar rest := by
  simp only [name, run1]
  constructor
  · intro h
    cases hTake : s.takeWhile Text.isWordChar with
    | nil => simp [hTake] at h
    | cons c t =>
        simp only [hTake, Except.ok.injEq, Prod.mk.injEq] at h
        obtain ⟨rfl, rfl⟩ := h
        refine ⟨c :: t, ?_, ⟨by simp, ?_⟩, rfl, stops_dropWhile _ s⟩
        · rw [← hTake, List.takeWhile_append_dropWhile]
        · intro d hd
          rw [← hTake] at hd
          exact List.mem_takeWhile_imp hd
  · rintro ⟨t, rfl, ⟨hNe, ht⟩, rfl, hRest⟩
    rw [takeWhile_append_of_stops ht hRest, dropWhile_append_of_stops ht hRest]
    cases t with
    | nil => exact absurd rfl hNe
    | cons c t => rfl

theorem number_eq_ok_iff {n : Nat} : number s = .ok (n, rest) ↔
    ∃ t, s = t ++ rest ∧ Number t n ∧ Stops Char.isDigit rest := by
  simp only [number]
  constructor
  · intro h
    cases hTake : s.takeWhile Char.isDigit with
    | nil => simp [hTake] at h
    | cons c t =>
        simp only [hTake] at h
        split at h
        · next hRange =>
            simp only [Except.ok.injEq, Prod.mk.injEq] at h
            obtain ⟨rfl, rfl⟩ := h
            refine ⟨c :: t, ?_, ⟨by simp, ?_, rfl, inRange_natCast.mp hRange⟩, stops_dropWhile _ s⟩
            · rw [← hTake, List.takeWhile_append_dropWhile]
            · intro d hd
              rw [← hTake] at hd
              exact List.mem_takeWhile_imp hd
        · cases h
  · rintro ⟨t, rfl, hNumber, hRest⟩
    rw [takeWhile_append_of_stops hNumber.digits hRest,
      dropWhile_append_of_stops hNumber.digits hRest]
    have hRange : inRange n = true := inRange_natCast.mpr hNumber.small
    cases t with
    | nil => exact absurd rfl hNumber.nonempty
    | cons c t => simp [hRange, hNumber.value]

theorem number_of_head {c : Char} (hc : c.isDigit = false) (s : List Char) :
    number (c :: s) = .error (c :: s) := by
  simp [number, hc]

theorem term?_eq_some_iff {sign : Sign} {n : Nat} : term? s = some ((sign, n), rest) ↔
    ∃ g h t, s = g ++ sign.char :: (h ++ (t ++ rest)) ∧ Gap g ∧ Gap h ∧ Number t n ∧
      Stops Char.isDigit rest := by
  unfold term?
  constructor
  · intro h
    cases hDrop : s.dropWhile Text.isSpace with
    | nil => simp [hDrop] at h
    | cons c r =>
        simp only [hDrop] at h
        obtain ⟨sign', hSign, h⟩ := Option.bind_eq_some_iff.mp h
        cases hNumber : number (r.dropWhile Text.isSpace) with
        | error place => simp [hNumber] at h
        | ok m =>
            obtain ⟨n', left⟩ := m
            simp only [hNumber, Option.some.injEq, Prod.mk.injEq] at h
            obtain ⟨⟨rfl, rfl⟩, rfl⟩ := h
            obtain ⟨g, rfl, hg, -⟩ := dropWhile_eq_iff.mp hDrop
            obtain ⟨t, hr, ht, hRest⟩ := number_eq_ok_iff.mp hNumber
            obtain ⟨k, rfl, hk, -⟩ := dropWhile_eq_iff.mp hr
            rw [ofChar?_eq_some_iff.mp hSign]
            exact ⟨g, k, t, rfl, hg, hk, ht, hRest⟩
  · rintro ⟨g, h, t, rfl, hg, hh, ht, hRest⟩
    have hSign : Stops Text.isSpace (sign.char :: (h ++ (t ++ rest))) := by
      cases sign <;> exact stops_cons.mpr (by decide)
    have hDigits : Stops Text.isSpace (t ++ rest) := by
      obtain ⟨c, t, rfl⟩ := List.exists_cons_of_ne_nil ht.nonempty
      exact stops_cons.mpr (isSpace_of_isWordChar
        (isWordChar_of_isDigit (ht.digits c List.mem_cons_self)))
    rw [dropWhile_append_of_stops hg hSign]
    simp only [ofChar?_eq_some_iff.mpr rfl, Option.bind_eq_bind, Option.bind_some]
    rw [dropWhile_append_of_stops hh hDigits, number_eq_ok_iff.mpr ⟨t, rfl, ht, hRest⟩]

theorem terms_of_none (h : term? s = none) : terms s = ([], s) := by
  rw [terms]
  split
  · rfl
  · next hSome => rw [h] at hSome; cases hSome

theorem terms_of_some {t : Sign × Nat} (h : term? s = some (t, rest)) :
    terms s = (t :: (terms rest).1, (terms rest).2) := by
  rw [terms]
  split
  · next hNone => rw [h] at hNone; cases hNone
  · next hSome =>
      rw [h] at hSome
      cases hSome
      rfl

/-- A literal cannot go on at a text: neither with a digit nor with another term. -/
structure EndsLiteral (s : List Char) : Prop where
  digit : Stops Char.isDigit s
  term : term? s = none

theorem literal_eq_ok_iff {l : Literal} : literal s = .ok (l, rest) ↔
    ∃ n mid, number s = .ok (n, mid) ∧ l = ⟨s, n, (terms mid).1⟩ ∧ rest = (terms mid).2 := by
  unfold literal
  cases hNumber : number s with
  | error place => simp
  | ok m =>
      obtain ⟨n, mid⟩ := m
      simp only [Except.ok.injEq, Prod.mk.injEq]
      constructor
      · rintro ⟨rfl, rfl⟩
        exact ⟨n, mid, ⟨rfl, rfl⟩, rfl, rfl⟩
      · rintro ⟨n', mid', ⟨rfl, rfl⟩, rfl, rfl⟩
        exact ⟨rfl, rfl⟩

theorem constant_of_literal {l : Literal} {v : Int} (h : literal s = .ok (l, rest))
    (hValue : l.value? = .ok v) : ∃ t, s = t ++ rest ∧ Constant t v := by
  obtain ⟨n, mid, hNumber, rfl, rfl⟩ := literal_eq_ok_iff.mp h
  obtain ⟨t, rfl, ht, -⟩ := number_eq_ok_iff.mp hNumber
  cases hFirst : term? mid with
  | none =>
      simp only [Literal.value?, terms_of_none hFirst] at hValue ⊢
      split at hValue
      · cases hValue
        exact ⟨t, rfl, .number ht⟩
      · cases hValue
  | some m =>
      obtain ⟨⟨sign, k⟩, left⟩ := m
      obtain ⟨g, h', u, rfl, hg, hh, hu, -⟩ := term?_eq_some_iff.mp hFirst
      cases hSecond : term? left with
      | none =>
          simp only [Literal.value?, terms_of_some hFirst, terms_of_none hSecond] at hValue ⊢
          split at hValue
          · next hRange =>
              cases hValue
              exact ⟨_, by simp, .operation ht hg hh hu hRange⟩
          · cases hValue
      | some m =>
          simp only [Literal.value?, terms_of_some hFirst, terms_of_some hSecond] at hValue
          cases hValue

theorem literal_of_constant {t : List Char} {v : Int} (h : Constant t v)
    (hRest : EndsLiteral rest) :
    ∃ l, literal (t ++ rest) = .ok (l, rest) ∧ l.value? = .ok v := by
  cases h with
  | @number s n ht =>
      have hNumber : number (t ++ rest) = .ok (n, rest) :=
        number_eq_ok_iff.mpr ⟨t, rfl, ht, hRest.digit⟩
      refine ⟨⟨t ++ rest, n, []⟩, literal_eq_ok_iff.mpr ⟨n, rest, hNumber, ?_, ?_⟩, ?_⟩
      · rw [terms_of_none hRest.term]
      · rw [terms_of_none hRest.term]
      · simp [Literal.value?, inRange_natCast.mpr ht.small]
  | @operation s g h u sign n k ht hg hh hu hRange =>
      have hTerm : term? (g ++ sign.char :: (h ++ (u ++ rest))) = some ((sign, k), rest) :=
        term?_eq_some_iff.mpr ⟨g, h, u, rfl, hg, hh, hu, hRest.digit⟩
      have hSign : Stops Char.isDigit (g ++ sign.char :: (h ++ (u ++ rest))) := by
        refine Stops.append_gap hg (fun c hc => isDigit_of_isSpace hc) (stops_cons.mpr ?_)
        cases sign <;> decide
      have hText : s ++ (g ++ sign.char :: (h ++ u)) ++ rest =
          s ++ (g ++ sign.char :: (h ++ (u ++ rest))) := by simp
      have hNumber : number (s ++ (g ++ sign.char :: (h ++ u)) ++ rest) =
          .ok (n, g ++ sign.char :: (h ++ (u ++ rest))) := by
        rw [hText]
        exact number_eq_ok_iff.mpr ⟨s, rfl, ht, hSign⟩
      refine ⟨⟨s ++ (g ++ sign.char :: (h ++ u)) ++ rest, n, [(sign, k)]⟩,
        literal_eq_ok_iff.mpr ⟨n, _, hNumber, ?_, ?_⟩, ?_⟩
      · rw [terms_of_some hTerm, terms_of_none hRest.term]
      · rw [terms_of_some hTerm, terms_of_none hRest.term]
      · simp [Literal.value?, hRange]

theorem address_eq_ok_iff {l : Literal} : address s = .ok (l, rest) ↔
    ∃ g mid, s = '$' :: (g ++ mid) ∧ Gap g ∧ Stops Text.isSpace mid ∧
      literal mid = .ok (l, rest) := by
  simp only [address, bind_eq_ok_iff, exactly_eq_ok_iff, spaces_eq_ok_iff]
  constructor
  · rintro ⟨_, mid, ⟨-, rfl⟩, _, left, ⟨g, rfl, hg, hLeft⟩, h⟩
    exact ⟨g, left, rfl, hg, hLeft, h⟩
  · rintro ⟨g, mid, rfl, hg, hMid, h⟩
    exact ⟨_, _, ⟨rfl, rfl⟩, (), mid, ⟨g, rfl, hg, hMid⟩, h⟩

theorem cell_of_address {l : Literal} {v : Int} (h : address s = .ok (l, rest))
    (hValue : l.value? = .ok v) : ∃ t, s = t ++ rest ∧ Cell t v := by
  obtain ⟨g, mid, rfl, hg, -, hLiteral⟩ := address_eq_ok_iff.mp h
  obtain ⟨t, rfl, ht⟩ := constant_of_literal hLiteral hValue
  exact ⟨'$' :: (g ++ t), by simp, .mk hg ht⟩

end Reader

namespace Grammar

theorem Constant.exists_digit {s : List Char} {v : Int} (h : Constant s v) :
    ∃ c t, s = c :: t ∧ c.isDigit = true := by
  cases h with
  | number h =>
      obtain ⟨c, t, rfl⟩ := List.exists_cons_of_ne_nil h.nonempty
      exact ⟨c, t, rfl, h.digits c List.mem_cons_self⟩
  | operation h =>
      obtain ⟨c, t, rfl⟩ := List.exists_cons_of_ne_nil h.nonempty
      exact ⟨c, _, rfl, h.digits c List.mem_cons_self⟩

end Grammar

namespace Reader

variable {s rest : List Char}

theorem address_of_cell {t : List Char} {v : Int} (h : Cell t v) (hRest : EndsLiteral rest) :
    ∃ l, address (t ++ rest) = .ok (l, rest) ∧ l.value? = .ok v := by
  obtain ⟨hg, ht⟩ := h
  rename_i g t
  obtain ⟨l, hLiteral, hValue⟩ := literal_of_constant ht hRest
  refine ⟨l, address_eq_ok_iff.mpr ⟨g, t ++ rest, by simp, hg, ?_, hLiteral⟩, hValue⟩
  obtain ⟨c, t, rfl, hc⟩ := ht.exists_digit
  exact stops_cons.mpr (isSpace_of_isWordChar (isWordChar_of_isDigit hc))

theorem address_of_head {c : Char} (hc : c ≠ '$') (s : List Char) :
    ∃ place, address (c :: s) = .error place := by
  cases h : address (c :: s) with
  | error place => exact ⟨place, rfl⟩
  | ok r =>
      obtain ⟨g, mid, hEq, -⟩ := address_eq_ok_iff.mp h
      exact absurd (List.cons.inj hEq).1 hc

theorem endsLiteral_of_gap {h : List Char} (hh : Gap h) : EndsLiteral h := by
  refine ⟨?_, ?_⟩
  · have hStops := Stops.append_gap hh (fun c hc => isDigit_of_isSpace hc) (stops_nil Char.isDigit)
    rwa [List.append_nil] at hStops
  · have hDrop : h.dropWhile Text.isSpace = [] := List.dropWhile_eq_nil_iff.mpr hh
    simp [term?, hDrop]

/-- The arrow begins like a difference, but no number follows its sign. -/
theorem endsLiteral_of_separator {t : List Char} (ht : Separator t) (rest : List Char) :
    EndsLiteral (t ++ rest) := by
  cases ht with
  | @comma g h hg hh =>
      have hMark : Stops Text.isSpace (',' :: (h ++ rest)) := stops_cons.mpr (by decide)
      have hText : g ++ ',' :: h ++ rest = g ++ ',' :: (h ++ rest) := by simp
      rw [hText]
      refine ⟨Stops.append_gap hg (fun c hc => isDigit_of_isSpace hc)
        (stops_cons.mpr (by decide)), ?_⟩
      have hSign : Sign.ofChar? ',' = none := by decide
      simp [term?, dropWhile_append_of_stops hg hMark, hSign]
  | @arrow g h hg hh =>
      have hMark : Stops Text.isSpace ('-' :: '>' :: (h ++ rest)) := stops_cons.mpr (by decide)
      have hText : g ++ '-' :: '>' :: h ++ rest = g ++ '-' :: '>' :: (h ++ rest) := by simp
      have hHead : Stops Text.isSpace ('>' :: (h ++ rest)) := stops_cons.mpr (by decide)
      have hDrop : ('>' :: (h ++ rest)).dropWhile Text.isSpace = '>' :: (h ++ rest) :=
        dropWhile_append_of_stops (t := []) (by simp) hHead
      rw [hText]
      refine ⟨Stops.append_gap hg (fun c hc => isDigit_of_isSpace hc)
        (stops_cons.mpr (by decide)), ?_⟩
      have hSign : Sign.ofChar? '-' = some .minus := by decide
      have hNumber := number_of_head (c := '>') (by decide) (h ++ rest)
      simp [term?, dropWhile_append_of_stops hg hMark, hSign, hDrop, hNumber]

theorem separator_eq_ok_iff {mark : List Char} : separator s = .ok (mark, rest) ↔
    ∃ g h, Gap g ∧ Gap h ∧ (mark = [','] ∨ mark = ['-', '>']) ∧ s = g ++ (mark ++ (h ++ rest)) ∧
      Stops Text.isSpace rest := by
  simp only [separator, bind_eq_ok_iff, spaces_eq_ok_iff, orElse_eq_ok_iff, exactly_eq_ok_iff]
  constructor
  · rintro ⟨_, mid, ⟨g, rfl, hg, -⟩, mark', left, hMark, _, rest', ⟨h, rfl, hh, hRest⟩, hEnd⟩
    obtain ⟨rfl, rfl⟩ : mark' = mark ∧ rest' = rest := by
      simpa [pure] using hEnd
    rcases hMark with ⟨rfl, rfl⟩ | ⟨-, rfl, rfl⟩
    · exact ⟨g, h, hg, hh, .inl rfl, rfl, hRest⟩
    · exact ⟨g, h, hg, hh, .inr rfl, rfl, hRest⟩
  · rintro ⟨g, h, hg, hh, hMark, rfl, hRest⟩
    refine ⟨(), mark ++ (h ++ rest), ⟨g, rfl, hg, ?_⟩, mark, h ++ rest, ?_, (), rest,
      ⟨h, rfl, hh, hRest⟩, rfl⟩
    · rcases hMark with rfl | rfl <;> exact stops_cons.mpr (by decide)
    · rcases hMark with rfl | rfl
      · exact .inl ⟨rfl, rfl⟩
      · exact .inr ⟨⟨'-' :: '>' :: (h ++ rest), by simp [exactly]⟩, rfl, rfl⟩

theorem separator_of_grammar {t : List Char} (ht : Separator t)
    (hRest : Stops Text.isSpace rest) : ∃ mark, separator (t ++ rest) = .ok (mark, rest) := by
  cases ht with
  | @comma g h hg hh =>
      exact ⟨[','], separator_eq_ok_iff.mpr ⟨g, h, hg, hh, .inl rfl, by simp, hRest⟩⟩
  | @arrow g h hg hh =>
      exact ⟨['-', '>'], separator_eq_ok_iff.mpr ⟨g, h, hg, hh, .inr rfl, by simp, hRest⟩⟩

theorem grammar_of_separator {mark : List Char} (h : separator s = .ok (mark, rest)) :
    ∃ t, s = t ++ rest ∧ Separator t := by
  obtain ⟨g, k, hg, hk, rfl | rfl, rfl, -⟩ := separator_eq_ok_iff.mp h
  · exact ⟨g ++ ',' :: k, by simp, .comma hg hk⟩
  · exact ⟨g ++ '-' :: '>' :: k, by simp, .arrow hg hk⟩

theorem pairOf_eq_ok_iff {α β : Type} {p : Reader α} {q : Reader β} {a : α} {b : β} :
    pairOf p q s = .ok ((a, b), rest) ↔ ∃ mid mark left, p s = .ok (a, mid) ∧
      separator mid = .ok (mark, left) ∧ q left = .ok (b, rest) := by
  simp only [pairOf, bind_eq_ok_iff]
  constructor
  · rintro ⟨a', mid, hp, mark, left, hMark, b', rest', hq, hEnd⟩
    obtain ⟨⟨rfl, rfl⟩, rfl⟩ : (a' = a ∧ b' = b) ∧ rest' = rest := by
      simpa [pure] using hEnd
    exact ⟨mid, mark, left, hp, hMark, hq⟩
  · rintro ⟨mid, mark, left, hp, hMark, hq⟩
    exact ⟨a, mid, hp, mark, left, hMark, b, rest, hq, rfl⟩

theorem whole_eq_ok_iff {α : Type} {p : Reader α} {a : α} : whole p s = .ok a ↔
    ∃ g t h, s = g ++ t ∧ Gap g ∧ Stops Text.isSpace t ∧ p t = .ok (a, h) ∧ Gap h := by
  simp only [whole]
  constructor
  · intro h
    obtain ⟨g, hs, hg, hStop⟩ := dropWhile_eq_iff.mp (rfl : s.dropWhile Text.isSpace = _)
    cases hp : p (s.dropWhile Text.isSpace) with
    | error place => simp [hp] at h
    | ok m =>
        obtain ⟨a', left⟩ := m
        cases hLeft : left.dropWhile Text.isSpace with
        | nil =>
            simp only [hp, hLeft, Except.ok.injEq] at h
            subst h
            exact ⟨g, _, left, hs, hg, hStop, hp, List.dropWhile_eq_nil_iff.mp hLeft⟩
        | cons c r => simp [hp, hLeft] at h
  · rintro ⟨g, t, h, rfl, hg, ht, hp, hh⟩
    have hDrop : h.dropWhile Text.isSpace = [] := List.dropWhile_eq_nil_iff.mpr hh
    simp [dropWhile_append_of_stops hg ht, hp, hDrop]

end Reader

end Microbus.Assembly
