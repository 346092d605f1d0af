import RefFilter.Matcher
import RefFilter.Proofs.Regex.Reading

/-! # Wildcard patterns as globs

A token globs the names that come of it when every star is replaced by some text. The expression
of a pattern is the text of a regular expression with one branch for each token, so it is read
without a fault, and the language of a branch is what its token globs. Hence a compiled pattern
accepts exactly the names that one of its tokens globs.
-/

namespace RefFilter.Wildcard

open Regex
open scoped Computability

/-- The name is made of the literals between the stars of the token, in order, with one text in
the place of each star. -/
def Globs (token name : List Char) : Prop :=
  ∃ first rest fills, token.splitOn '*' = first :: rest ∧ fills.length = rest.length ∧
    name = first ++ (List.zipWith (· ++ ·) fills rest).flatten

/-! ## Globs by recursion on the token -/

theorem globs_nil (name : List Char) : Globs [] name ↔ name = [] := by
  constructor
  · intro h
    rcases h with ⟨first, rest, fills, hsplit, hlength, rfl⟩
    obtain ⟨rfl, rfl⟩ : [] = first ∧ [] = rest := by simpa using hsplit
    simp
  · rintro rfl
    exact ⟨[], [], [], by simp, rfl, by simp⟩

theorem globs_star (token name : List Char) :
    Globs ('*' :: token) name ↔ ∃ fill left, name = fill ++ left ∧ Globs token left := by
  have hcons : ('*' :: token).splitOn '*' = [] :: token.splitOn '*' := by
    simp [List.splitOn_cons_eq_if_modifyHead]
  constructor
  · intro h
    rcases h with ⟨first, rest, fills, hsplit, hlength, rfl⟩
    rw [hcons, List.cons.injEq] at hsplit
    obtain ⟨rfl, hrest⟩ := hsplit
    cases rest with
    | nil => exact absurd hrest (List.splitOn_ne_nil _ _)
    | cons literal rest =>
        cases fills with
        | nil => simp at hlength
        | cons fill fills =>
            refine ⟨fill, literal ++ (List.zipWith (· ++ ·) fills rest).flatten, by simp, ?_⟩
            exact ⟨literal, rest, fills, hrest, by simpa using hlength, rfl⟩
  · intro h
    rcases h with ⟨fill, left, rfl, first, rest, fills, hsplit, hlength, rfl⟩
    exact ⟨[], first :: rest, fill :: fills, by rw [hcons, hsplit], by simp [hlength], by simp⟩

theorem globs_cons {c : Char} (hc : c ≠ '*') (token name : List Char) :
    Globs (c :: token) name ↔ ∃ left, name = c :: left ∧ Globs token left := by
  have hcons : (c :: token).splitOn '*' = (token.splitOn '*').modifyHead (c :: ·) := by
    simp [List.splitOn_cons_eq_if_modifyHead, hc]
  constructor
  · intro h
    rcases h with ⟨first, rest, fills, hsplit, hlength, rfl⟩
    cases htoken : token.splitOn '*' with
    | nil => exact absurd htoken (List.splitOn_ne_nil _ _)
    | cons literal others =>
        rw [hcons, htoken, List.modifyHead_cons, List.cons.injEq] at hsplit
        obtain ⟨rfl, rfl⟩ := hsplit
        exact ⟨_, rfl, literal, others, fills, htoken, hlength, rfl⟩
  · intro h
    rcases h with ⟨left, rfl, first, rest, fills, hsplit, hlength, rfl⟩
    exact ⟨c :: first, rest, fills, by rw [hcons, hsplit]; rfl, hlength, rfl⟩

/-- Putting nothing in the place of each star gives a name that the token globs. -/
theorem exists_globs (token : List Char) : ∃ name, Globs token name := by
  induction token with
  | nil => exact ⟨[], (globs_nil []).2 rfl⟩
  | cons c token ih =>
      obtain ⟨name, h⟩ := ih
      by_cases hc : c = '*'
      · exact ⟨name, hc ▸ (globs_star token name).2 ⟨[], name, rfl, h⟩⟩
      · exact ⟨c :: name, (globs_cons hc token _).2 ⟨name, rfl, h⟩⟩

theorem globs_star_all (name : List Char) : Globs ['*'] name :=
  (globs_star [] name).2 ⟨name, [], (List.append_nil name).symm, (globs_nil []).2 rfl⟩

/-! ## Tokens -/

theorem splitAt_eq_splitOn (mark : Char) (cs : List Char) : splitAt mark cs = cs.splitOn mark := by
  induction cs with
  | nil => simp [splitAt]
  | cons c cs ih =>
      rw [splitAt, ih, List.splitOn_cons_eq_if_modifyHead]
      cases hsplit : cs.splitOn mark with
      | nil => exact absurd hsplit (List.splitOn_ne_nil _ _)
      | cons head tail => simp [beq_iff_eq]

theorem mem_tokens {pattern token : List Char} :
    token ∈ tokens pattern ↔ token ∈ pattern.splitOn ' ' ∧ token ≠ [] := by
  simp [tokens, splitAt_eq_splitOn]

theorem tokens_eq_nil_iff (pattern : List Char) :
    tokens pattern = [] ↔ ∀ c ∈ pattern, c = ' ' := by
  induction pattern with
  | nil => simp [tokens, splitAt]
  | cons c pattern ih =>
      have hne := List.splitOn_ne_nil ' ' pattern
      rw [← splitAt_eq_splitOn] at hne
      by_cases hc : c = ' '
      · simpa [tokens, splitAt, hc] using ih
      · cases hsplit : splitAt ' ' pattern with
        | nil => exact absurd hsplit hne
        | cons head tail => simp [tokens, splitAt, hc, hsplit]

/-! ## The expression of a pattern -/

def itemOf (c : Char) : Regular .item := if c = '*' then .star .point else .once (.char c)

def branchOf (token : List Char) : Regular .branch :=
  token.foldr (fun c rest => .cons (itemOf c) rest) .nil

def wholeOf : List (List Char) → Regular .whole
  | [] => .last .nil
  | [token] => .last (branchOf token)
  | token :: rest => .bar (branchOf token) (wholeOf rest)

theorem text_itemOf (c : Char) : (itemOf c).text = translateChar c := by
  by_cases hc : c = '*'
  · simp [itemOf, translateChar, hc, Regular.text]
  · simp [itemOf, translateChar, hc, Regular.text]

theorem text_branchOf (token : List Char) : (branchOf token).text = translateToken token := by
  induction token with
  | nil => rfl
  | cons c token ih =>
      have hcons : (branchOf (c :: token)).text =
          (itemOf c).text ++ (branchOf token).text := rfl
      rw [hcons, text_itemOf, ih]
      rfl

theorem text_wholeOf (tokens : List (List Char)) :
    (wholeOf tokens).text = joinBranches (tokens.map translateToken) := by
  induction tokens with
  | nil => rfl
  | cons token rest ih =>
      cases rest with
      | nil => exact text_branchOf token
      | cons next rest =>
          rw [wholeOf, Regular.text, ih, text_branchOf]
          · rfl
          · simp

theorem mem_star_point (word : List Char) : word ∈ (Regular.pointWords true)∗ := by
  refine Language.mem_kstar.2 ⟨word.map ([·]), by simp [← List.flatMap_def], ?_⟩
  intro single hsingle
  obtain ⟨c, -, rfl⟩ := List.mem_map.1 hsingle
  exact ⟨c, rfl, Or.inl rfl⟩

theorem mem_language_branchOf (token name : List Char) :
    name ∈ (branchOf token).language true ↔ Globs token name := by
  induction token generalizing name with
  | nil =>
      rw [globs_nil]
      exact Language.mem_one name
  | cons c token ih =>
      have hcons : (branchOf (c :: token)).language true =
          (itemOf c).language true * (branchOf token).language true := rfl
      rw [hcons, Language.mem_mul]
      by_cases hc : c = '*'
      · subst hc
        rw [globs_star]
        constructor
        · intro h
          rcases h with ⟨fill, -, left, hleft, rfl⟩
          exact ⟨fill, left, rfl, (ih left).1 hleft⟩
        · intro h
          rcases h with ⟨fill, left, rfl, hleft⟩
          exact ⟨fill, mem_star_point fill, left, (ih left).2 hleft, rfl⟩
      · have hitem : (itemOf c).language true = {[c]} := by
          rw [itemOf, if_neg hc]
          rfl
        rw [globs_cons hc, hitem]
        constructor
        · intro h
          rcases h with ⟨word, rfl, left, hleft, rfl⟩
          exact ⟨left, rfl, (ih left).1 hleft⟩
        · intro h
          rcases h with ⟨left, rfl, hleft⟩
          exact ⟨[c], rfl, left, (ih left).2 hleft, rfl⟩

theorem mem_language_wholeOf {tokens : List (List Char)} (hne : tokens ≠ [])
    (name : List Char) :
    name ∈ (wholeOf tokens).language true ↔ ∃ token ∈ tokens, Globs token name := by
  induction tokens with
  | nil => exact absurd rfl hne
  | cons token rest ih =>
      cases rest with
      | nil =>
          rw [wholeOf, Regular.language, mem_language_branchOf]
          simp
      | cons next rest =>
          have hcons : (wholeOf (token :: next :: rest)).language true =
              (branchOf token).language true + (wholeOf (next :: rest)).language true := rfl
          rw [hcons, Language.mem_add, mem_language_branchOf, ih (by simp)]
          simp only [List.mem_cons, exists_eq_or_imp]

theorem translateToken_ne_nil {token : List Char} (hne : token ≠ []) :
    translateToken token ≠ [] := by
  cases token with
  | nil => exact absurd rfl hne
  | cons c token =>
      by_cases hc : c = '*'
      · simp [translateToken, translateChar, hc]
      · by_cases hspecial : c ∈ specialChars <;>
          simp [translateToken, translateChar, hc, escapeChar, hspecial]

theorem joinBranches_eq_nil_iff {branches : List (List Char)}
    (hne : ∀ branch ∈ branches, branch ≠ []) : joinBranches branches = [] ↔ branches = [] := by
  cases branches with
  | nil => simp [joinBranches]
  | cons branch rest =>
      cases rest with
      | nil => simpa [joinBranches] using hne branch List.mem_cons_self
      | cons next rest => simp [joinBranches]

/-- The expression is empty exactly if there is no token. -/
theorem translateChars_eq_nil_iff (pattern : List Char) :
    translateChars pattern = [] ↔ tokens pattern = [] := by
  rw [translateChars, joinBranches_eq_nil_iff, List.map_eq_nil_iff]
  intro branch hbranch
  obtain ⟨token, htoken, rfl⟩ := List.mem_map.1 hbranch
  exact translateToken_ne_nil (mem_tokens.1 htoken).2

end RefFilter.Wildcard

namespace RefFilter.Matcher

open Wildcard

/-! ## Compiled patterns -/

theorem translate_of_no_tokens {pattern : String} (h : tokens pattern.toList = []) :
    translate pattern = "" := by
  rw [Wildcard.translate, (translateChars_eq_nil_iff _).2 h, String.ofList_nil]

theorem regex_ofWildcard_of_no_tokens {pattern : String} (h : tokens pattern.toList = []) :
    (ofWildcard pattern).regex = none := by
  rw [ofWildcard, translate_of_no_tokens h]
  rfl

theorem translate_eq_text (pattern : String) :
    translate pattern = String.ofList (wholeOf (tokens pattern.toList)).text := by
  rw [text_wholeOf]
  rfl

/-- The expression of a pattern with tokens is read as the tree of a regular expression. -/
theorem parse_translate (pattern : String) :
    Regex.parse [.dotAll] (translate pattern) =
      .ok ((wholeOf (tokens pattern.toList)).tree [.dotAll]) := by
  rw [translate_eq_text, Regex.parse_text (by simp)]

theorem regex_ofWildcard_of_tokens {pattern : String} (h : tokens pattern.toList ≠ []) :
    (ofWildcard pattern).regex = some ((wholeOf (tokens pattern.toList)).tree [.dotAll]) := by
  have hne : (translate pattern).isEmpty = false := by
    simpa [Wildcard.translate, translateChars_eq_nil_iff] using h
  simp [ofWildcard, wildcardRegex?, hne, parse_translate, Except.toOption]

theorem accepts_ofWildcard_iff (pattern name : String) :
    (ofWildcard pattern).accepts name = true ↔
      ∃ token ∈ tokens pattern.toList, Globs token name.toList := by
  by_cases h : tokens pattern.toList = []
  · simp [accepts, regex_ofWildcard_of_no_tokens h, h]
  · have hcase : Regex.Flag.ignoreCase ∉ [Regex.Flag.dotAll] := by decide
    have hdenotes := (wholeOf (tokens pattern.toList)).denotes_tree hcase
    rw [accepts, regex_ofWildcard_of_tokens h]
    exact (hdenotes.fullMatch_iff _).trans (mem_language_wholeOf h _)

/-- A compiled wildcard pattern is a glob. Its expression is empty, and then it has no expression
to match, or it is read without a fault; a name is accepted exactly if some token globs it; and
nothing is accepted exactly if the pattern holds nothing but spaces. -/
theorem ofWildcard_is_glob (pattern : String) :
    ((translate pattern = "" ∧ (ofWildcard pattern).regex = none) ∨
      ∃ regex, Regex.parse [.dotAll] (translate pattern) = .ok regex ∧
        (ofWildcard pattern).regex = some regex) ∧
    (∀ name : String, (ofWildcard pattern).accepts name = true ↔
      ∃ token ∈ pattern.toList.splitOn ' ', token ≠ [] ∧ Globs token name.toList) ∧
    ((ofWildcard pattern).acceptsNothing = true ↔ ∀ c ∈ pattern.toList, c = ' ') ∧
    ((∀ name, (ofWildcard pattern).accepts name = false) ↔ ∀ c ∈ pattern.toList, c = ' ') := by
  have haccepts (name : String) : (ofWildcard pattern).accepts name = true ↔
      ∃ token ∈ pattern.toList.splitOn ' ', token ≠ [] ∧ Globs token name.toList := by
    simp only [accepts_ofWildcard_iff, mem_tokens, and_assoc]
  rw [← tokens_eq_nil_iff]
  by_cases h : tokens pattern.toList = []
  · have hregex := regex_ofWildcard_of_no_tokens h
    refine ⟨Or.inl ⟨translate_of_no_tokens h, hregex⟩, haccepts, ?_, ?_⟩
    · simp [acceptsNothing, hregex, h]
    · simp [accepts, hregex, h]
  · have hregex := regex_ofWildcard_of_tokens h
    refine ⟨Or.inr ⟨_, parse_translate pattern, hregex⟩, haccepts, ?_, ?_⟩
    · simp [acceptsNothing, hregex, h]
    · refine iff_of_false (fun hnone => ?_) h
      obtain ⟨token, htoken⟩ := List.exists_mem_of_ne_nil _ h
      obtain ⟨name, hglobs⟩ := exists_globs token
      have hname : (ofWildcard pattern).accepts (String.ofList name) = true :=
        (accepts_ofWildcard_iff _ _).2 ⟨token, htoken, by rwa [String.toList_ofList]⟩
      rw [hnone] at hname
      cases hname

end RefFilter.Matcher
