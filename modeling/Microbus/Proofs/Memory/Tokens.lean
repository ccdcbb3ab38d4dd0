import Microbus.Memory.Image

/-! # Tokens of an image text

The tokens are described without the function that finds them: they are the longest runs of
characters that are no white space, and every text is cut into runs in exactly one way.
-/

namespace Microbus.Memory.Image
set_option autoImplicit false

open Text (isBlank)

/-- A text is made of runs without white space, with white space around each of them. -/
inductive Runs : List (List Char) → List Char → Prop
  | blank {gap : List Char} (hGap : ∀ c ∈ gap, isBlank c = true) : Runs [] gap
  | token {ts : List (List Char)} {gap t rest : List Char}
      (hGap : ∀ c ∈ gap, isBlank c = true) (hToken : t ≠ [])
      (hVisible : ∀ c ∈ t, isBlank c = false) (hEnd : ∀ c ∈ rest.head?, isBlank c = true)
      (hRest : Runs ts rest) : Runs (t :: ts) (gap ++ t ++ rest)

variable {ts : List (List Char)} {token gap t cs rest : List Char} {c : Char}

theorem Runs.cons_blank (h : Runs ts cs) (hc : isBlank c = true) : Runs ts (c :: cs) := by
  cases h with
  | blank hGap => exact .blank (List.forall_mem_cons.mpr ⟨hc, hGap⟩)
  | token hGap hToken hVisible hEnd hRest =>
      exact .token (List.forall_mem_cons.mpr ⟨hc, hGap⟩) hToken hVisible hEnd hRest

theorem runs_tokensFrom (hVisible : ∀ c ∈ token, isBlank c = false) :
    Runs (tokensFrom token cs) (token.reverse ++ cs) := by
  induction cs generalizing token with
  | nil =>
      have hReverse : ∀ c ∈ token.reverse, isBlank c = false := by simpa using hVisible
      have hNoGap : ∀ c ∈ ([] : List Char), isBlank c = true := by simp
      cases token with
      | nil => exact .blank hNoGap
      | cons d token => exact .token hNoGap (by simp) hReverse (by simp) (.blank hNoGap)
  | cons c cs ih =>
      cases hc : isBlank c with
      | true =>
          have hReverse : ∀ c ∈ token.reverse, isBlank c = false := by simpa using hVisible
          have hNone : ∀ c ∈ ([] : List Char), isBlank c = false := by simp
          have hRest : Runs (tokensFrom [] cs) (c :: cs) := (ih hNone).cons_blank hc
          cases token with
          | nil => simpa [tokensFrom, hc] using hRest
          | cons d token =>
              have hRuns : Runs ((d :: token).reverse :: tokensFrom [] cs)
                  ([] ++ (d :: token).reverse ++ c :: cs) :=
                .token (by simp) (by simp) hReverse (by simpa using hc) hRest
              simpa [tokensFrom, hc] using hRuns
      | false =>
          have hMore : ∀ d ∈ c :: token, isBlank d = false := List.forall_mem_cons.mpr ⟨hc, hVisible⟩
          simpa [tokensFrom, hc] using ih hMore

theorem tokensFrom_blank (hGap : ∀ c ∈ gap, isBlank c = true) :
    tokensFrom [] (gap ++ cs) = tokensFrom [] cs := by
  induction gap with
  | nil => rfl
  | cons c gap ih =>
      obtain ⟨hc, hGap⟩ := List.forall_mem_cons.mp hGap
      simpa [tokensFrom, hc] using ih hGap

theorem tokensFrom_visible (hVisible : ∀ c ∈ t, isBlank c = false) :
    tokensFrom token (t ++ cs) = tokensFrom (t.reverse ++ token) cs := by
  induction t generalizing token with
  | nil => rfl
  | cons c t ih =>
      obtain ⟨hc, hVisible⟩ := List.forall_mem_cons.mp hVisible
      simpa [tokensFrom, hc] using ih hVisible

theorem tokensFrom_end (hToken : token ≠ []) (hEnd : ∀ c ∈ rest.head?, isBlank c = true) :
    tokensFrom token rest = token.reverse :: tokensFrom [] rest := by
  cases rest with
  | nil => simp [tokensFrom, hToken]
  | cons c rest =>
      have hc : isBlank c = true := hEnd c rfl
      simp [tokensFrom, hc, hToken]

theorem Runs.tokens_eq (h : Runs ts cs) : tokens cs = ts := by
  unfold tokens
  induction h with
  | @blank gap hGap =>
      have hEmpty : tokensFrom [] (gap ++ []) = [] := tokensFrom_blank hGap
      rwa [List.append_nil] at hEmpty
  | token hGap hToken hVisible hEnd _ ih =>
      rw [List.append_assoc, tokensFrom_blank hGap, tokensFrom_visible hVisible, List.append_nil,
        tokensFrom_end (by simpa using hToken) hEnd, ih, List.reverse_reverse]

/-- Every text is cut into runs in exactly one way, and the tokens are these runs. -/
theorem runs_iff : Runs ts cs ↔ ts = tokens cs := by
  constructor
  · intro h
    exact h.tokens_eq.symm
  · rintro rfl
    have hNone : ∀ c ∈ ([] : List Char), isBlank c = false := by simp
    exact runs_tokensFrom hNone

end Microbus.Memory.Image
