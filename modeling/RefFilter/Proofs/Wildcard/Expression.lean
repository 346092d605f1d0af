import RefFilter.Proofs.Wildcard.Glob

/-! # What an expression tells of its pattern

In the expression of a pattern a bar that is not escaped ends a token, a point that is not escaped
is the first half of a star, and a backslash takes the character after it for itself. So the text
can be read off from the front in one way only, and it tells the tokens of the pattern. It tells no
more than them: spaces at the ends, and more than one between two tokens, leave no trace.
-/

namespace RefFilter.Wildcard

/-! ## Characters -/

/-- What an expression holds for a character of a token: a point and a star, the character behind a
backslash, or the character itself. -/
inductive Code : Char → List Char → Prop where
  | star : Code '*' ['.', '*']
  | escaped {c : Char} (hspecial : c ∈ specialChars) : Code c ['\\', c]
  | plain {c : Char} (hspecial : c ∉ specialChars) : Code c [c]

variable {c d : Char} {code other xs ys : List Char}

theorem code_translateChar (c : Char) : Code c (translateChar c) := by
  unfold translateChar escapeChar
  split_ifs with hstar hspecial
  · exact hstar ▸ .star
  · exact .escaped (List.contains_iff_mem.1 hspecial)
  · exact .plain (mt List.contains_iff_mem.2 hspecial)

/-- The codes of two characters tell the characters, and what comes after them. -/
theorem Code.append_inj (h : Code c code) (hother : Code d other)
    (heq : code ++ xs = other ++ ys) : c = d ∧ xs = ys := by
  cases h with
  | star =>
      cases hother with
      | star => exact ⟨rfl, List.append_cancel_left heq⟩
      | escaped => exact absurd (List.cons.inj heq).1 (by decide)
      | plain hspecial =>
          obtain rfl : '.' = d := (List.cons.inj heq).1
          exact absurd (by decide) hspecial
  | escaped _ =>
      cases hother with
      | star => exact absurd (List.cons.inj heq).1 (by decide)
      | escaped => exact List.cons.inj (List.cons.inj heq).2
      | plain hspecial =>
          obtain rfl : '\\' = d := (List.cons.inj heq).1
          exact absurd (by decide) hspecial
  | plain hspecial =>
      cases hother with
      | star =>
          obtain rfl : c = '.' := (List.cons.inj heq).1
          exact absurd (by decide) hspecial
      | escaped =>
          obtain rfl : c = '\\' := (List.cons.inj heq).1
          exact absurd (by decide) hspecial
      | plain => exact List.cons.inj heq

/-! ## Tokens -/

/-- A text is over, or goes on with a bar. -/
def AtBar (xs : List Char) : Prop := ∀ c ∈ xs.head?, c = '|'

/-- No code is taken for the end of a token. -/
theorem Code.not_atBar (h : Code c code) : ¬ AtBar (code ++ xs) := by
  cases h with
  | star => exact fun hbar => absurd (hbar '.' rfl) (by decide)
  | escaped => exact fun hbar => absurd (hbar '\\' rfl) (by decide)
  | plain hspecial => exact fun hbar => hspecial (hbar c rfl ▸ by decide)

/-- A token ends where its expression text is over or goes on with a bar. -/
theorem translateToken_append_inj {s t : List Char} (hxs : AtBar xs) (hys : AtBar ys)
    (h : translateToken s ++ xs = translateToken t ++ ys) : s = t ∧ xs = ys := by
  induction s generalizing t with
  | nil =>
      cases t with
      | nil => exact ⟨rfl, h⟩
      | cons d t =>
          rw [translateToken, translateToken, List.flatMap_cons, List.append_assoc] at h
          obtain rfl : xs = _ := h
          exact absurd hxs (code_translateChar d).not_atBar
  | cons c s ih =>
      rw [translateToken, List.flatMap_cons, List.append_assoc] at h
      cases t with
      | nil =>
          obtain rfl : _ = ys := h
          exact absurd hys (code_translateChar c).not_atBar
      | cons d t =>
          rw [translateToken, List.flatMap_cons, List.append_assoc] at h
          obtain ⟨rfl, hrest⟩ := (code_translateChar c).append_inj (code_translateChar d) h
          obtain ⟨rfl, hafter⟩ := ih hrest
          exact ⟨rfl, hafter⟩

/-! ## Patterns -/

/-- The expression text for tokens, with a bar before each of them. -/
def barred (tokens : List (List Char)) : List Char :=
  tokens.flatMap fun token => '|' :: translateToken token

theorem atBar_barred (tokens : List (List Char)) : AtBar (barred tokens) := by
  cases tokens with
  | nil => simp [AtBar, barred]
  | cons token rest => simp [AtBar, barred]

/-- Before the first branch a bar is all that is missing. -/
theorem bar_joinBranches {tokens : List (List Char)} (hne : tokens ≠ []) :
    '|' :: joinBranches (tokens.map translateToken) = barred tokens := by
  induction tokens with
  | nil => exact absurd rfl hne
  | cons token rest ih =>
      cases rest with
      | nil => simp [joinBranches, barred]
      | cons next rest =>
          have hrest := ih (List.cons_ne_nil next rest)
          rw [List.map_cons, List.map_cons, joinBranches, ← List.map_cons, hrest]
          · rfl
          · simp

theorem barred_injective : Function.Injective barred := by
  intro ss ts h
  induction ss generalizing ts with
  | nil =>
      cases ts with
      | nil => rfl
      | cons t ts => cases h
  | cons s ss ih =>
      cases ts with
      | nil => cases h
      | cons t ts =>
          obtain ⟨rfl, hrest⟩ :=
            translateToken_append_inj (atBar_barred ss) (atBar_barred ts) (List.cons.inj h).2
          rw [ih hrest]

theorem translateChars_eq_iff (pattern other : List Char) :
    translateChars pattern = translateChars other ↔ tokens pattern = tokens other := by
  refine ⟨fun h => ?_, fun h => by rw [translateChars, h, translateChars]⟩
  by_cases hnone : tokens pattern = []
  · have hempty := (translateChars_eq_nil_iff pattern).2 hnone
    exact hnone.trans ((translateChars_eq_nil_iff other).1 (h ▸ hempty)).symm
  · have hother : tokens other ≠ [] := by
      rwa [Ne, ← translateChars_eq_nil_iff, ← h, translateChars_eq_nil_iff]
    apply barred_injective
    rw [← bar_joinBranches hnone, ← bar_joinBranches hother]
    exact congrArg ('|' :: ·) h

/-- Two patterns have the same expression exactly if they have the same tokens in the same order,
and a pattern has the empty expression exactly if it has no token. -/
theorem expression_determines_tokens (pattern other : String) :
    (translate pattern = translate other ↔
      (pattern.toList.splitOn ' ').filter (· ≠ []) =
        (other.toList.splitOn ' ').filter (· ≠ [])) ∧
    (translate pattern = "" ↔ (pattern.toList.splitOn ' ').filter (· ≠ []) = []) := by
  have htokens (source : String) :
      (source.toList.splitOn ' ').filter (· ≠ []) = tokens source.toList := by
    rw [tokens, splitAt_eq_splitOn]
  rw [htokens, htokens, ← translateChars_eq_iff, ← translateChars_eq_nil_iff]
  exact ⟨String.ofList_inj, String.ofList_eq_empty_iff⟩

/-- A bar in a token is told from a bar between tokens, and spaces at the ends leave no trace. -/
example : translate " .*  a|b " = "\\..*|a\\|b" ∧ translate ".* a b" = "\\..*|a|b" := by decide

end RefFilter.Wildcard
