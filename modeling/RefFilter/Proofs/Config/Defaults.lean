import RefFilter.Proofs.Rule.Compilation
import RefFilter.Proofs.Rule.Decision
import RefFilter.Proofs.Wildcard.Glob

/-! # Blank texts and their defaults

A text is blank exactly if trimming leaves nothing of it. In a section a blank text is replaced by
a default that excludes no name, so what a section rejects is told by its texts that are not blank:
an include list rejects the names that none of its tokens globs, an exclude list those that one of
its tokens globs, and an expression those that it does not match as a whole.
-/

namespace RefFilter

namespace Text

/-! ## Blank texts -/

theorem trimChars_eq_nil_iff (cs : List Char) : trimChars cs = [] ↔ ∀ c ∈ cs, isSpace c = true := by
  rw [trimChars, List.reverse_eq_nil_iff, List.dropWhile_eq_nil_iff]
  constructor
  · intro hleft
    refine List.dropWhile_eq_nil_iff.1 ?_
    by_contra hne
    -- What dropping stops at is no space, but trimming the other end removed it.
    have hhead := List.head_dropWhile_not isSpace hne
    rw [hleft _ (List.mem_reverse.2 (List.head_mem hne))] at hhead
    cases hhead
  · intro hall c hc
    exact hall c (List.dropWhile_sublist _ |>.subset (List.mem_reverse.1 hc))

theorem isBlankText_iff (text : String) : isBlankText text = true ↔ trim text = "" := by
  rw [isBlankText, List.all_eq_true, ← trimChars_eq_nil_iff, trim]
  exact String.ofList_eq_empty_iff.symm

/-- A text is there and is not blank. -/
def Given (text : Option String) (source : String) : Prop :=
  text = some source ∧ trim source ≠ ""

theorem Given.orIfBlank {text : Option String} {source : String} (h : Given text source)
    (fallback : String) : orIfBlank text fallback = source := by
  obtain ⟨rfl, hfilled⟩ := h
  rw [Text.orIfBlank, if_neg (mt (isBlankText_iff source).1 hfilled)]

theorem orIfBlank_of_blank {text : Option String} (h : ∀ source, ¬ Given text source)
    (fallback : String) : orIfBlank text fallback = fallback := by
  cases text with
  | none => rfl
  | some source =>
      have hblank : trim source = "" := by
        by_contra hfilled
        exact h source ⟨rfl, hfilled⟩
      rw [orIfBlank, if_pos ((isBlankText_iff source).2 hblank)]

/-- What the default lacks holds of a text or its default exactly if it holds of the text. -/
theorem orIfBlank_iff (property : String → Prop) {fallback : String}
    (hfallback : ¬ property fallback) (text : Option String) :
    property (orIfBlank text fallback) ↔ ∃ source, Given text source ∧ property source := by
  constructor
  · intro h
    by_cases hgiven : ∃ source, Given text source
    · obtain ⟨source, hsource⟩ := hgiven
      rw [hsource.orIfBlank] at h
      exact ⟨source, hsource, h⟩
    · rw [orIfBlank_of_blank (not_exists.1 hgiven)] at h
      exact absurd h hfallback
  · intro h
    rcases h with ⟨source, hsource, hproperty⟩
    rwa [hsource.orIfBlank]

end Text

open Text

/-! ## Defaults -/

def Wildcard.GlobsAny (pattern name : String) : Prop :=
  ∃ token ∈ pattern.toList.splitOn ' ', token ≠ [] ∧ Globs token name.toList

theorem Matcher.accepts_iff_globsAny (pattern name : String) :
    (ofWildcard pattern).accepts name = true ↔ Wildcard.GlobsAny pattern name := by
  simp only [accepts_ofWildcard_iff, Wildcard.mem_tokens, and_assoc, Wildcard.GlobsAny]

theorem globsAny_includeAll (name : String) : Wildcard.GlobsAny Section.includeAll name :=
  ⟨['*'], by decide, by simp, Wildcard.globs_star_all _⟩

theorem not_globsAny_excludeNone (name : String) :
    ¬ Wildcard.GlobsAny Section.excludeNone name := by
  intro h
  rcases h with ⟨token, hmem, hne, -⟩
  exact hne (List.mem_singleton.1 hmem)

theorem parse_matchAll :
    Regex.parse [] Section.matchAll = .ok ((Wildcard.wholeOf [['*']]).tree [.dotAll]) := by
  cbv

/-- The expression for blank texts compiles and matches every name. -/
theorem ofRegex_matchAll :
    ∃ matcher, Matcher.ofRegex Section.matchAll = .ok matcher ∧
      ∀ name, matcher.accepts name = true := by
  refine ⟨_, by rw [Matcher.ofRegex, parse_matchAll], ?_⟩
  intro name
  have hcase : Regex.Flag.ignoreCase ∉ [Regex.Flag.dotAll] := by decide
  have hdenotes := (Wildcard.wholeOf [['*']]).denotes_tree hcase
  refine (hdenotes.fullMatch_iff _).2 ((Wildcard.mem_language_wholeOf (by simp) _).2 ?_)
  exact ⟨['*'], List.mem_singleton_self _, Wildcard.globs_star_all _⟩

/-! ## Sections -/

namespace Section

def Rejects (policy : Policy) (texts : Section) (name : String) : Prop :=
  match policy with
  | .wildcard =>
      (∃ source, Given texts.includes source ∧ ¬ Wildcard.GlobsAny source name) ∨
        ∃ source, Given texts.excludes source ∧ Wildcard.GlobsAny source name
  | .regex =>
      ∃ source, Given texts.regex source ∧
        ∃ matcher, Matcher.ofRegex source = .ok matcher ∧ matcher.accepts name = false

variable {texts : Section} {guard : Guard}

theorem includes_reject_iff (includes : Option String) (name : String) :
    (Matcher.ofWildcard (orIfBlank includes includeAll)).accepts name = false ↔
      ∃ source, Given includes source ∧ ¬ Wildcard.GlobsAny source name := by
  have hdefault : ¬ ¬ Wildcard.GlobsAny includeAll name := not_not.2 (globsAny_includeAll name)
  rw [← Bool.not_eq_true, Matcher.accepts_iff_globsAny]
  exact orIfBlank_iff (¬ Wildcard.GlobsAny · name) hdefault includes

theorem excludes_reject_iff (excludes : Option String) (name : String) :
    (Matcher.ofWildcard (orIfBlank excludes excludeNone)).accepts name = true ↔
      ∃ source, Given excludes source ∧ Wildcard.GlobsAny source name := by
  have hdefault : ¬ Wildcard.GlobsAny excludeNone name := not_globsAny_excludeNone name
  rw [Matcher.accepts_iff_globsAny]
  exact orIfBlank_iff (Wildcard.GlobsAny · name) hdefault excludes

theorem regex_rejects_iff {regex : Option String} {matcher : Matcher}
    (hmatcher : Matcher.ofRegex (orIfBlank regex matchAll) = .ok matcher) (name : String) :
    matcher.accepts name = false ↔
      ∃ source, Given regex source ∧
        ∃ matcher, Matcher.ofRegex source = .ok matcher ∧ matcher.accepts name = false := by
  obtain ⟨every, hevery, haccepts⟩ := ofRegex_matchAll
  let misses (source : String) : Prop :=
    ∃ matcher, Matcher.ofRegex source = .ok matcher ∧ matcher.accepts name = false
  have hdefault : ¬ misses matchAll := by simp [misses, hevery, haccepts]
  have hmisses : misses (orIfBlank regex matchAll) ↔ matcher.accepts name = false := by
    simp [misses, hmatcher]
  rw [← hmisses]
  exact orIfBlank_iff misses hdefault regex

/-- The guard of a section has a cause against exactly the names that its texts reject. -/
theorem cause?_isSome_iff_rejects {policy : Policy}
    (hguard : Guard.ofPair (texts.pair policy) = .ok guard) (name : String) :
    (guard.cause? name).isSome = true ↔ texts.Rejects policy name := by
  cases policy with
  | regex =>
      obtain ⟨matcher, hmatcher, rfl⟩ := map_eq_ok_iff.1 hguard
      rw [Guard.cause?_isSome_iff]
      exact regex_rejects_iff hmatcher name
  | wildcard =>
      obtain rfl := Except.ok.inj hguard
      rw [Guard.cause?_isSome_iff]
      exact or_congr (includes_reject_iff _ _) (excludes_reject_iff _ _)

end Section

end RefFilter
