import RefFilter.Proofs.Rule.OnUse

/-! # Composition of rules

A filter set excludes a reference exactly if one of its rules does. So neither the order of the
rules nor the number of times that one occurs matters to whether a reference is excluded, and a
further rule can only exclude more. The decision on an excluded reference is that of the first rule
that excludes it. There are two loops over the rules, one for the truth value and one for the
decision; on rules that were built neither fails, and they agree.
-/

namespace RefFilter

namespace Rule

def Built (rule : Rule) : Prop := ∃ policy entries name, build policy entries name = .ok rule

theorem Built.compiled {rule : Rule} (h : rule.Built) : rule.Compiled := by
  obtain ⟨policy, entries, name, hbuild⟩ := h
  exact compiled_of_build hbuild

end Rule

namespace FilterSet

/-! ## Which references are excluded -/

theorem excludes_iff {filters : FilterSet} {reference : Reference} :
    filters.excludes reference = true ↔
      ∃ rule ∈ filters.rules, rule.excludes reference = true := by
  rw [excludes, List.any_eq_true]

theorem excludes_of_subset {filters other : FilterSet} {reference : Reference}
    (hsubset : filters.rules ⊆ other.rules) (h : filters.excludes reference = true) :
    other.excludes reference = true := by
  obtain ⟨rule, hmem, hexcludes⟩ := excludes_iff.1 h
  exact excludes_iff.2 ⟨rule, hsubset hmem, hexcludes⟩

/-- Filter sets with the same rules exclude the same references, whatever the order of the rules
and however often one occurs. -/
theorem excludes_of_same_rules {filters other : FilterSet}
    (hsame : ∀ rule, rule ∈ filters.rules ↔ rule ∈ other.rules) (reference : Reference) :
    filters.excludes reference = other.excludes reference := by
  rw [Bool.eq_iff_iff]
  constructor
  · exact excludes_of_subset fun rule => (hsame rule).1
  · exact excludes_of_subset fun rule => (hsame rule).2

/-! ## Which rule decides -/

theorem decide_of_first {rules : List Rule} {reference : Reference} {place : Nat} {rule : Rule}
    (h : FirstAt (fun rule => rule.excludes reference = true) rules place rule) :
    decide ⟨rules⟩ reference = rule.decide reference := by
  induction h with
  | head hexcludes => exact decide_cons_of_excluded hexcludes _
  | tail hother _ ih => rw [decide_cons_of_admitted (Bool.eq_false_iff.2 hother), ih]

theorem decide_of_admitted {filters : FilterSet} {reference : Reference}
    (h : filters.excludes reference = false) : filters.decide reference = admission := by
  have hnone : (filters.rules.map (·.decide reference)).find? (·.excluded) = none := by
    rw [List.find?_eq_none]
    intro decision hmem
    obtain ⟨rule, hrule, rfl⟩ := List.mem_map.1 hmem
    intro hexcluded
    have hexcludes : filters.excludes reference = true :=
      excludes_iff.2 ⟨rule, hrule, hexcluded⟩
    rw [h] at hexcludes
    cases hexcludes
  rw [decide, hnone]
  rfl

/-! ## Composition -/

/-- On rules that were built, the loop for the truth value and the loop for the decision give an
answer, and the answers agree: a reference is excluded exactly if some rule excludes it. The same
rules in any order and any number exclude the same references, and so do more rules at least. An
excluded reference gets the decision of the first rule that excludes it, any other one the
admission, which names no rule, no axis and no name. -/
theorem excludes_composes {rules : List Rule} (hbuilt : ∀ rule ∈ rules, rule.Built)
    (reference : Reference) :
    let filters : FilterSet := ⟨rules⟩
    (Rule.anyAttempt reference rules = .ok (filters.excludes reference) ∧
      filters.attempt reference = .ok (filters.decide reference) ∧
      (filters.decide reference).excluded = filters.excludes reference) ∧
    (filters.excludes reference = true ↔ ∃ rule ∈ rules, rule.excludes reference = true) ∧
    (∀ other : FilterSet, (∀ rule, rule ∈ rules ↔ rule ∈ other.rules) →
      filters.excludes reference = other.excludes reference) ∧
    (∀ other : FilterSet, rules ⊆ other.rules →
      filters.excludes reference = true → other.excludes reference = true) ∧
    (filters.excludes reference = true →
      ∃ place rule, FirstAt (fun rule => rule.excludes reference = true) rules place rule ∧
        filters.decide reference = rule.decide reference) ∧
    (filters.excludes reference = false →
      filters.decide reference = ⟨false, "", "no rule excludes this reference", none, none⟩) := by
  intro filters
  have hcompiled : ∀ rule ∈ rules, rule.Compiled := fun rule hmem => (hbuilt rule hmem).compiled
  refine ⟨⟨Rule.anyAttempt_of_compiled hcompiled reference,
    attempt_of_compiled hcompiled reference, filters.excluded_decide reference⟩, excludes_iff,
    fun other hsame => excludes_of_same_rules hsame reference,
    fun other hsubset => excludes_of_subset hsubset, ?_, decide_of_admitted⟩
  intro hexcludes
  obtain ⟨rule, hmem, hrule⟩ := excludes_iff.1 hexcludes
  obtain ⟨place, first, hfirst⟩ :
      ∃ place first, FirstAt (fun rule => rule.excludes reference = true) rules place first :=
    exists_firstAt hmem hrule
  exact ⟨place, first, hfirst, decide_of_first hfirst⟩

def mainOnly : Rule :=
  ⟨.wildcard, [(.branch, .wildcard (.ofWildcard "main") (.ofWildcard ""))], "",
    by simp, by simp, by simp [Guard.policy]⟩

def noCandidates : Rule :=
  ⟨.wildcard, [(.tag, .wildcard (.ofWildcard "*") (.ofWildcard "beta-*"))], "candidates",
    by simp, by simp, by simp [Guard.policy]⟩

theorem noCandidates_composes :
    decide ⟨[mainOnly, noCandidates, noCandidates]⟩ (.tag "beta-1") =
        ⟨true, "candidates", "tag: 'beta-1' matches excluded 'beta-*'", some .tag, some "beta-1"⟩ ∧
      excludes ⟨[noCandidates, mainOnly]⟩ (.tag "beta-1") = true := by
  have hbuilt : ∀ rule ∈ [mainOnly, noCandidates, noCandidates], rule.Built := by
    have hmain : mainOnly.Built :=
      ⟨.text "wildcard", [("branch", .ofWildcards "main" "")], "", rfl⟩
    have hcandidates : noCandidates.Built :=
      ⟨.text "wildcard", [("tag", .ofWildcards "*" "beta-*")], "candidates", rfl⟩
    simp [hmain, hcandidates]
  have habstains : mainOnly.excludes (.tag "beta-1") = false := by decide +kernel
  have hdecide : noCandidates.decide (.tag "beta-1") =
      ⟨true, "candidates", "tag: 'beta-1' matches excluded 'beta-*'", some .tag, some "beta-1"⟩ := by
    decide +kernel
  have hexcludes : noCandidates.excludes (.tag "beta-1") = true := by
    rw [Rule.excludes, hdecide]
  obtain ⟨-, hsome, hsame, -, hfirst, -⟩ := excludes_composes hbuilt (.tag "beta-1")
  have hexcluded := hsome.2 ⟨noCandidates, by simp, hexcludes⟩
  constructor
  · obtain ⟨place, rule, hrule, hdecision⟩ := hfirst hexcluded
    cases hrule with
    | head h => rw [habstains] at h; cases h
    | tail _ hrest =>
        cases hrest with
        | head _ => rw [hdecision, hdecide]
        | tail hnot _ => exact absurd hexcludes hnot
  · rw [← hsame ⟨[noCandidates, mainOnly]⟩ (by simp [or_comm])]
    exact hexcluded

end FilterSet

end RefFilter
