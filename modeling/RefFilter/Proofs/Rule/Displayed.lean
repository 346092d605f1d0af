import RefFilter.Proofs.Regex.Points
import RefFilter.Proofs.Rule.Languages

/-! # Displayed expressions

A wildcard pattern is shown with the expression that it is compiled from. That expression is a
regular expression as well: behind the flag that lets a point stand for any character it accepts the
same names, and without the flag it does so for names without a newline. A rule that only includes
names by wildcard patterns can hence be written with their expressions, and it decides alike.
-/

namespace RefFilter

/-! ## Displayed expressions -/

/-- The expression of a wildcard pattern behind the flag of the point. -/
def Wildcard.flagged (pattern : String) : String := "(?s)" ++ translate pattern

namespace Matcher

open Wildcard

def ofExpression (flags : Regex.Flags) (expressionOf : String → String) (pattern : String) :
    Matcher :=
  ofTree flags (expressionOf pattern) (wholeOf (tokens pattern.toList))

theorem ofRegex_flagged (pattern : String) :
    ofRegex (flagged pattern) = .ok (ofExpression [.dotAll] flagged pattern) := by
  have htext : flagged pattern =
      String.ofList ('(' :: '?' :: 's' :: ')' :: (wholeOf (tokens pattern.toList)).text) := by
    rw [flagged, translate_eq_text, ← String.toList_inj]
    simp
  apply ofRegex_of_parse
  rw [htext]
  exact Regex.parse_dotAll _

theorem ofRegex_translate (pattern : String) :
    ofRegex (translate pattern) = .ok (ofExpression [] translate pattern) := by
  apply ofRegex_of_parse
  rw [translate_eq_text]
  exact Regex.parse_text (by simp) _

variable {expressionOf : String → String} {pattern name : String}

theorem accepts_ofExpression_dotAll (htokens : tokens pattern.toList ≠ []) :
    (ofExpression [.dotAll] expressionOf pattern).accepts name =
      (ofWildcard pattern).accepts name := by
  rw [accepts, accepts, regex_ofWildcard_of_tokens htokens]
  rfl

/-- Without the flag a name without a newline is accepted or not as with it. -/
theorem accepts_ofExpression (htokens : tokens pattern.toList ≠ []) (hname : '\n' ∉ name.toList) :
    (ofExpression [] expressionOf pattern).accepts name = (ofWildcard pattern).accepts name := by
  have hwords := (wholeOf (tokens pattern.toList)).mem_language_congr false true hname
  rw [← @accepts_ofExpression_dotAll expressionOf _ _ htokens, Bool.eq_iff_iff, ofExpression,
    ofExpression, accepts_ofTree_iff (by simp), accepts_ofTree_iff (by simp)]
  exact hwords

theorem accepts_ofWildcard_empty (name : String) : (ofWildcard "").accepts name = false := by
  rw [accepts, regex_ofWildcard_of_no_tokens (by decide)]

end Matcher

/-- Where no name is excluded, the cause is always a miss. -/
theorem Guard.isSome_cause?_included (includes : Matcher) (name : String) :
    ((Guard.wildcard includes (.ofWildcard "")).cause? name).isSome = !includes.accepts name := by
  cases haccepts : includes.accepts name <;>
    simp [cause?, haccepts, Matcher.accepts_ofWildcard_empty]

namespace Rule

/-! ## Lists of included names -/

/-- Entries of wildcard patterns to include, with nothing to exclude. -/
def inclusions (lists : List (Axis × String)) : List (String × Pair) :=
  lists.map fun list => (list.1.name, .ofWildcards list.2 "")

variable {rule other : Rule} {lists : List (Axis × String)}

theorem exists_build_inclusions (hdistinct : (lists.map Prod.fst).Nodup) (hsome : lists ≠ [])
    (label : String) :
    ∃ rule, build (.text "wildcard") (inclusions lists) label = .ok rule ∧
      rule.guards = lists.map fun list =>
        (list.1, .wildcard (.ofWildcard list.2) (.ofWildcard "")) := by
  have hfits (pattern : String) : (Pair.ofWildcards pattern "").Fits .wildcard := ⟨rfl, "", rfl⟩
  have hguard (pattern : String) : Guard.ofPair (.ofWildcards pattern "") =
      .ok (.wildcard (.ofWildcard pattern) (.ofWildcard "")) := rfl
  exact exists_build_of_guards hdistinct hsome hfits hguard label

/-- A rule of wildcard patterns to include and one of expressions that match the same names of a set
decide alike where only names of the set are exposed. -/
theorem decide_alike_of_lists {matcherOf : String → Matcher} {names : Set String}
    {reference : Reference}
    (hguards : rule.guards = lists.map fun list =>
      (list.1, .wildcard (.ofWildcard list.2) (.ofWildcard "")))
    (hguards' : other.guards = lists.map fun list => (list.1, .regex (matcherOf list.2)))
    (hmatch : ∀ list ∈ lists, ∀ name ∈ names,
      (matcherOf list.2).accepts name = (Matcher.ofWildcard list.2).accepts name)
    (hnames : ∀ axis name, reference.Exposes axis name → name ∈ names) :
    (rule.decide reference).Alike (other.decide reference) := by
  refine decide_alike_of_guards ?_ hnames
  rw [hguards, hguards', List.forall₂_map_left_iff, List.forall₂_map_right_iff, List.forall₂_same]
  refine fun list hmem => ⟨rfl, fun name hname => ?_⟩
  rw [Guard.isSome_cause?_included, Guard.isSome_cause?_regex, hmatch list hmem name hname]

/-- The expression of a wildcard pattern with a token is a valid regular expression. Behind the flag
of the point it matches what the pattern matches, and without the flag it does so for names without
a newline. A rule that only includes names by such patterns can hence be built from the expressions:
with the flag it decides every reference alike, and without it every reference whose names have no
newline. -/
theorem displayed_expressions_decide_alike :
    (∀ pattern : String, Wildcard.tokens pattern.toList ≠ [] →
      checkPattern (Wildcard.flagged pattern) = .ok .success ∧
      (∃ matcher, Matcher.ofRegex (Wildcard.flagged pattern) = .ok matcher ∧
        ∀ name, matcher.accepts name = (Matcher.ofWildcard pattern).accepts name) ∧
      ∃ matcher, Matcher.ofRegex (Wildcard.translate pattern) = .ok matcher ∧
        ∀ name : String, '\n' ∉ name.toList →
          matcher.accepts name = (Matcher.ofWildcard pattern).accepts name) ∧
    ∀ lists : List (Axis × String), lists ≠ [] → (lists.map Prod.fst).Nodup →
      (∀ list ∈ lists, Wildcard.tokens list.2.toList ≠ []) → ∀ label : String,
      ∃ rule flagged plain : Rule,
        build (.text "wildcard") (inclusions lists) label = .ok rule ∧
        build (.text "regex") (expressions Wildcard.flagged lists) label = .ok flagged ∧
        build (.text "regex") (expressions Wildcard.translate lists) label = .ok plain ∧
        ∀ reference : Reference,
          (rule.decide reference).Alike (flagged.decide reference) ∧
          ((∀ axis name, reference.Exposes axis name → '\n' ∉ name.toList) →
            (rule.decide reference).Alike (plain.decide reference)) := by
  constructor
  · intro pattern htokens
    refine ⟨?_, ⟨_, Matcher.ofRegex_flagged pattern, fun name => ?_⟩,
      ⟨_, Matcher.ofRegex_translate pattern, fun name hname => ?_⟩⟩
    · rw [checkPattern, Matcher.ofRegex_flagged]
    · exact Matcher.accepts_ofExpression_dotAll htokens
    · exact Matcher.accepts_ofExpression htokens hname
  · intro lists hsome hdistinct htokens label
    obtain ⟨rule, hrule, hguards⟩ := exists_build_inclusions hdistinct hsome label
    obtain ⟨flagged, hflagged, hguards'⟩ :=
      exists_build_expressions hdistinct hsome Matcher.ofRegex_flagged label
    obtain ⟨plain, hplain, hguards''⟩ :=
      exists_build_expressions hdistinct hsome Matcher.ofRegex_translate label
    refine ⟨rule, flagged, plain, hrule, hflagged, hplain, fun reference => ⟨?_, fun hnames => ?_⟩⟩
    · apply decide_alike_of_lists hguards hguards'
      · intro list hmem name _
        exact Matcher.accepts_ofExpression_dotAll (htokens list hmem)
      · exact fun axis name _ => Set.mem_univ name
    · apply decide_alike_of_lists hguards hguards''
      · intro list hmem name hname
        exact Matcher.accepts_ofExpression (htokens list hmem) hname
      · exact hnames

def releaseLists : List (Axis × String) :=
  [(.branch, "main"), (.prDestination, "main rel-* a|b")]

theorem releaseLists_decide_alike :
    Wildcard.translate "main rel-* a|b" = "main|rel\\-.*|a\\|b" ∧
    checkPattern (Wildcard.flagged "main rel-* a|b") = .ok .success ∧
    ∃ rule flagged plain : Rule,
      build (.text "wildcard") (inclusions releaseLists) "" = .ok rule ∧
      build (.text "regex") (expressions Wildcard.flagged releaseLists) "" = .ok flagged ∧
      build (.text "regex") (expressions Wildcard.translate releaseLists) "" = .ok plain ∧
      (rule.decide (.changeRequest "7" "x" "a")).Alike
        (plain.decide (.changeRequest "7" "x" "a")) := by
  obtain ⟨hpatterns, hrules⟩ := displayed_expressions_decide_alike
  obtain ⟨rule, flagged, plain, hrule, hflagged, hplain, halike⟩ :=
    hrules releaseLists (by decide) (by decide) (by decide) ""
  refine ⟨by decide, (hpatterns _ (by decide)).1, rule, flagged, plain, hrule, hflagged, hplain,
    (halike _).2 ?_⟩
  intro axis name hexposes
  cases hexposes <;> decide

end Rule

end RefFilter
