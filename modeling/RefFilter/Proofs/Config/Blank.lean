import RefFilter.Proofs.Config.Defaults

/-! # Blank texts and patterns without tokens

A text is blank if it holds nothing but white space of any kind, and a wildcard pattern has no
tokens if it holds nothing but spaces. A space is white space, so a text that is not blank has a
token. A text of other white space has one too, although it is blank, but then it is replaced before
it gets to be a pattern. Hence an include list always matches something, and only a blank exclude
list matches nothing.
-/

namespace RefFilter

open Text Wildcard

/-! ## Tokens -/

/-- A text that is not blank has a token. -/
theorem Wildcard.tokens_ne_nil_of_filled {source : String} (h : trim source ≠ "") :
    tokens source.toList ≠ [] := by
  intro hnone
  have hspaces := (tokens_eq_nil_iff source.toList).1 hnone
  refine h ((isBlankText_iff source).1 (List.all_eq_true.2 fun c hc => ?_))
  rw [hspaces c hc]
  decide

namespace Matcher

theorem acceptsNothing_ofWildcard_iff (pattern : String) :
    (ofWildcard pattern).acceptsNothing = true ↔ tokens pattern.toList = [] := by
  by_cases h : tokens pattern.toList = []
  · simp [acceptsNothing, regex_ofWildcard_of_no_tokens h, h]
  · simp [acceptsNothing, regex_ofWildcard_of_tokens h, h]

/-- A pattern with a token accepts what the token globs. -/
theorem exists_accepts_ofWildcard {pattern : String} (h : tokens pattern.toList ≠ []) :
    ∃ name, (ofWildcard pattern).accepts name = true := by
  obtain ⟨token, htoken⟩ := List.exists_mem_of_ne_nil _ h
  obtain ⟨name, hglobs⟩ := exists_globs token
  refine ⟨String.ofList name, (accepts_ofWildcard_iff _ _).2 ⟨token, htoken, ?_⟩⟩
  rwa [String.toList_ofList]

end Matcher

/-! ## Texts and their defaults -/

/-- A text is not given exactly if it is absent or nothing but white space. -/
theorem Text.not_given_iff (text : Option String) :
    (∀ source, ¬ Given text source) ↔
      text = none ∨ ∃ source, text = some source ∧ ∀ c ∈ source.toList, isSpace c = true := by
  cases text with
  | none => simp [Given]
  | some source =>
      have hblank : trim source = "" ↔ ∀ c ∈ source.toList, isSpace c = true := by
        rw [← isBlankText_iff, isBlankText, List.all_eq_true]
      simp [Given, hblank]

namespace Section

theorem tokens_includes_ne_nil (includes : Option String) :
    tokens (orIfBlank includes includeAll).toList ≠ [] := by
  by_cases hgiven : ∃ source, Given includes source
  · obtain ⟨source, hsource⟩ := hgiven
    rw [hsource.orIfBlank]
    exact tokens_ne_nil_of_filled hsource.2
  · rw [orIfBlank_of_blank (not_exists.1 hgiven)]
    decide

theorem tokens_excludes_eq_nil_iff (excludes : Option String) :
    tokens (orIfBlank excludes excludeNone).toList = [] ↔ ∀ source, ¬ Given excludes source := by
  constructor
  · intro hnone source hsource
    rw [hsource.orIfBlank] at hnone
    exact tokens_ne_nil_of_filled hsource.2 hnone
  · intro hblank
    rw [orIfBlank_of_blank hblank]
    rfl

/-- The patterns of a section under the wildcard policy compile. The first one always matches some
name. The second one matches nothing exactly if the exclude list is absent or nothing but white
space, and otherwise it matches some name too. A text that is not blank is a pattern as it was
written. -/
theorem blank_excludes_alone_match_nothing (texts : Section) :
    ∃ (wanted unwanted : Pattern) (includes excludes : Matcher),
      texts.pair .wildcard = ⟨wanted, some unwanted⟩ ∧
      wanted.compile = .ok includes ∧ unwanted.compile = .ok excludes ∧
      includes.acceptsNothing = false ∧ (∃ name, includes.accepts name = true) ∧
      (excludes.acceptsNothing = true ↔ texts.excludes = none ∨
        ∃ source, texts.excludes = some source ∧ ∀ c ∈ source.toList, isSpace c = true) ∧
      (excludes.acceptsNothing = true ∨ ∃ name, excludes.accepts name = true) ∧
      (∀ source, Given texts.includes source →
        wanted.source = source ∧ includes.source = source) ∧
      (∀ source, Given texts.excludes source →
        unwanted.source = source ∧ excludes.source = source) := by
  have hincludes := tokens_includes_ne_nil texts.includes
  refine ⟨⟨orIfBlank texts.includes includeAll, .wildcard⟩,
    ⟨orIfBlank texts.excludes excludeNone, .wildcard⟩, _, _, rfl, rfl, rfl, ?_,
    Matcher.exists_accepts_ofWildcard hincludes, ?_, ?_, ?_, ?_⟩
  · rw [← Bool.not_eq_true]
    exact mt (Matcher.acceptsNothing_ofWildcard_iff _).1 hincludes
  · rw [Matcher.acceptsNothing_ofWildcard_iff, tokens_excludes_eq_nil_iff, not_given_iff]
  · rw [Matcher.acceptsNothing_ofWildcard_iff]
    exact or_iff_not_imp_left.2 Matcher.exists_accepts_ofWildcard
  · intro source hgiven
    exact ⟨hgiven.orIfBlank includeAll, hgiven.orIfBlank includeAll⟩
  · intro source hgiven
    exact ⟨hgiven.orIfBlank excludeNone, hgiven.orIfBlank excludeNone⟩

/-- A name between two kinds of white space, and white space that is a token. -/
def tabbedLists : Section := .ofWildcards (some "\tmain\u3000") (some "\t\u00A0")

theorem tabbedLists_match_main_only :
    tokens "\t\u00A0".toList ≠ [] ∧
    ∃ (wanted unwanted : Pattern) (includes excludes : Matcher),
      tabbedLists.pair .wildcard = ⟨wanted, some unwanted⟩ ∧
      wanted.compile = .ok includes ∧ unwanted.compile = .ok excludes ∧
      includes.source = "\tmain\u3000" ∧ excludes.acceptsNothing = true := by
  obtain ⟨wanted, unwanted, includes, excludes, hpair, hwanted, hunwanted, -, -, hnothing, -,
    hkept, -⟩ := blank_excludes_alone_match_nothing tabbedLists
  have hblank : isBlankText "\t\u00A0" = true := by decide
  have hgiven : Given tabbedLists.includes "\tmain\u3000" := ⟨rfl, by decide⟩
  exact ⟨by decide, wanted, unwanted, includes, excludes, hpair, hwanted, hunwanted,
    (hkept _ hgiven).2, hnothing.2 (Or.inr ⟨_, rfl, List.all_eq_true.1 hblank⟩)⟩

end Section

end RefFilter
