import RefFilter.Proofs.Rule.Construction

/-! # Separation of axes

A decision on a reference sees the names that the reference exposes and, of every rule, the patterns
for their axes. Two runs that agree in these end alike, whatever the rules have for other axes and
whatever the own name of a change request; only the label of a rule without a name tells which axes
the rule governs.
-/

namespace RefFilter

/-! ## References -/

theorem Reference.nameOn?_eq_some_iff {reference : Reference} {axis : Axis} {name : String} :
    reference.nameOn? axis = some name ↔ reference.Exposes axis name := by
  have hdistinct : (reference.names.map Prod.fst).Nodup := by
    cases reference <;> simp [names]
  rw [← mem_names_iff]
  exact lookup_eq_some_iff hdistinct

/-- The axes and names that a reference exposes are all that it shows to rules. -/
theorem Reference.names_eq_of_nameOn? {reference other : Reference}
    (h : ∀ axis, reference.nameOn? axis = other.nameOn? axis) :
    reference.names = other.names := by
  have hexposes {axis : Axis} {name : String} (hname : reference.Exposes axis name) :
      other.Exposes axis name := by
    rw [← nameOn?_eq_some_iff] at hname ⊢
    rw [← h, hname]
  cases reference with
  | branch name =>
      cases hexposes (.branch name)
      rfl
  | tag name =>
      cases hexposes (.tag name)
      rfl
  | changeRequest own origin target =>
      cases hexposes (.origin own origin target)
      cases hexposes (.target own origin target)
      rfl

/-! ## Guards -/

/-- Patterns compile in one way. -/
theorem Guard.Compiled.eq_of_pair {guard other : Guard} (hguard : guard.Compiled)
    (hother : other.Compiled) (hpair : guard.pair = other.pair) : guard = other := by
  rw [Compiled, hpair, hother] at hguard
  exact (Except.ok.inj hguard).symm

/-- Two decisions are the same but for the rule that they name. -/
structure Decision.SameOutcome (decision other : Decision) : Prop where
  excluded : decision.excluded = other.excluded
  axis : decision.axis = other.axis
  name : decision.name = other.name
  reason : decision.reason = other.reason

theorem Decision.SameOutcome.eq_of_rule {decision other : Decision}
    (h : decision.SameOutcome other) (hrule : decision.rule = other.rule) : decision = other := by
  obtain ⟨excluded, rule, reason, axis, name⟩ := decision
  obtain ⟨rfl, rfl, rfl, rfl⟩ := h
  obtain rfl : rule = other.rule := hrule
  rfl

namespace Rule

variable {rule other : Rule} {reference seen : Reference}

theorem guard?_of_pair? (hrule : rule.Compiled) (hother : other.Compiled) {axis : Axis}
    (h : rule.pair? axis = other.pair? axis) : rule.guard? axis = other.guard? axis := by
  rw [pair?, pair?] at h
  cases hguard : rule.guard? axis with
  | none =>
      rw [hguard, Option.map_none, eq_comm, Option.map_eq_none_iff] at h
      exact h.symm
  | some guard =>
      rw [hguard, Option.map_some, eq_comm, Option.map_eq_some_iff] at h
      obtain ⟨same, hsame, hpair⟩ := h
      rw [hsame, (hother.guard? hsame).eq_of_pair (hrule.guard? hguard) hpair]

/-! ## One rule -/

/-- Two rules have the same patterns, or none, on every axis that a reference exposes. -/
def SamePatternsOn (reference : Reference) (rule other : Rule) : Prop :=
  ∀ axis name, reference.Exposes axis name → rule.pair? axis = other.pair? axis

theorem firstCause?_congr {names : List (Axis × String)}
    (h : ∀ entry ∈ names, rule.guard? entry.1 = other.guard? entry.1) :
    rule.firstCause? names = other.firstCause? names := by
  induction names with
  | nil => rfl
  | cons entry rest ih =>
      rw [List.forall_mem_cons] at h
      rw [firstCause?_cons, firstCause?_cons, h.1, ih h.2]

theorem governs_congr {names : List (Axis × String)}
    (h : ∀ entry ∈ names, rule.guard? entry.1 = other.guard? entry.1) :
    (names.any fun entry => (rule.guard? entry.1).isSome) =
      names.any fun entry => (other.guard? entry.1).isSome := by
  rw [Bool.eq_iff_iff, List.any_eq_true, List.any_eq_true]
  refine exists_congr fun entry => and_congr_right fun hmem => ?_
  rw [h entry hmem]

theorem category_of_names (h : reference.names = seen.names) :
    reference.category = seen.category := by
  cases reference <;> cases seen <;> first | rfl | cases h

theorem guards_of_samePatternsOn (hrule : rule.Compiled) (hother : other.Compiled)
    (hsame : SamePatternsOn reference rule other) :
    ∀ entry ∈ reference.names, rule.guard? entry.1 = other.guard? entry.1 := by
  intro entry hmem
  exact guard?_of_pair? hrule hother (hsame entry.1 entry.2 (Reference.mem_names_iff.1 hmem))

/-- Rules with the same patterns on the exposed axes decide alike, up to their labels. -/
theorem sameOutcome_decide (hrule : rule.Compiled) (hother : other.Compiled)
    (hnames : reference.names = seen.names) (hsame : SamePatternsOn reference rule other) :
    (rule.decide reference).SameOutcome (other.decide seen) := by
  have hguards := guards_of_samePatternsOn hrule hother hsame
  have hcause := firstCause?_congr hguards
  have hgoverns := governs_congr hguards
  rw [decide, decide, ← hnames, ← hcause, ← category_of_names hnames]
  cases rule.firstCause? reference.names with
  | some found => exact ⟨rfl, rfl, rfl, rfl⟩
  | none => exact ⟨rfl, rfl, rfl, by dsimp only; rw [hgoverns]⟩

theorem rule_decide (rule : Rule) (reference : Reference) :
    (rule.decide reference).rule = rule.label := by
  rw [decide]
  cases rule.firstCause? reference.names <;> rfl

theorem label_of_name (h : rule.name ≠ "") : rule.label = rule.name := by
  rw [label, if_neg]
  simpa using h

/-! ## Edited rules -/

/-- A rule is another one with other patterns for an axis. It governs the axis if the other does. -/
structure EditedOn (axis : Axis) (rule other : Rule) : Prop where
  policy : rule.policy = other.policy
  name : rule.name = other.name
  governs : (rule.pair? axis).isSome = (other.pair? axis).isSome
  elsewhere : ∀ place, place ≠ axis → rule.pair? place = other.pair? place

theorem EditedOn.label {axis : Axis} (h : EditedOn axis rule other) : rule.label = other.label := by
  have hgoverns (place : Axis) : (rule.guard? place).isSome = (other.guard? place).isSome := by
    have hpair : (rule.pair? place).isSome = (other.pair? place).isSome := by
      by_cases hplace : place = axis
      · rw [hplace, h.governs]
      · rw [h.elsewhere place hplace]
    simpa [pair?] using hpair
  have haxes : rule.axes = other.axes := by simp only [axes, hgoverns]
  rw [Rule.label, Rule.label, h.name, h.policy, haxes]

/-- An edit on an axis that a reference does not expose leaves the decision on it as it is. -/
theorem EditedOn.decide {axis : Axis} (h : EditedOn axis rule other) (hrule : rule.Compiled)
    (hother : other.Compiled) (hhidden : ∀ name, ¬ reference.Exposes axis name) :
    rule.decide reference = other.decide reference := by
  have hsame : SamePatternsOn reference rule other := by
    intro place name hexposes
    apply h.elsewhere
    rintro rfl
    exact hhidden name hexposes
  have houtcome := sameOutcome_decide hrule hother rfl hsame
  have hlabel : (rule.decide reference).rule = (other.decide reference).rule := by
    rw [rule_decide, rule_decide, h.label]
  exact houtcome.eq_of_rule hlabel

end Rule

namespace FilterSet

variable {rules others : List Rule} {reference seen : Reference}

/-! ## Filter sets -/

theorem sameOutcome_decide
    (h : List.Forall₂ (fun rule other => (rule.decide reference).SameOutcome (other.decide seen))
      rules others) :
    (decide ⟨rules⟩ reference).SameOutcome (decide ⟨others⟩ seen) := by
  unfold decide
  dsimp only
  induction h with
  | nil => exact ⟨rfl, rfl, rfl, rfl⟩
  | @cons rule other rules others hhead _ ih =>
      rw [List.map_cons, List.map_cons]
      cases hexcluded : (rule.decide reference).excluded with
      | true =>
          have hother : (other.decide seen).excluded = true := by rw [← hhead.excluded, hexcluded]
          rw [List.find?_cons_of_pos hexcluded, List.find?_cons_of_pos hother]
          exact hhead
      | false =>
          have hother : (other.decide seen).excluded = false := by rw [← hhead.excluded, hexcluded]
          rw [List.find?_cons_of_neg (by simp [hexcluded]), List.find?_cons_of_neg (by simp [hother])]
          exact ih

/-- The same rule is named if the one that decides has the name of its counterpart. -/
theorem rule_eq_of_names
    (h : List.Forall₂ (fun rule other => (rule.decide reference).SameOutcome (other.decide seen))
      rules others)
    (hnames : ∀ place rule other,
      FirstAt (fun rule => rule.excludes reference = true) rules place rule →
      others[place]? = some other → rule.name = other.name ∧ rule.name ≠ "") :
    (decide ⟨rules⟩ reference).rule = (decide ⟨others⟩ seen).rule := by
  by_cases hexcluded : ∃ rule ∈ rules, rule.excludes reference = true
  · obtain ⟨rule, hmem, hrule⟩ := hexcluded
    obtain ⟨place, first, hfirst⟩ : ∃ place first,
        FirstAt (fun rule => rule.excludes reference = true) rules place first :=
      exists_firstAt hmem hrule
    obtain ⟨other, hother, hcounterpart, -⟩ :
        ∃ other, others[place]? = some other ∧
          FirstAt (fun rule => rule.excludes seen = true) others place other ∧
          (first.decide reference).SameOutcome (other.decide seen) := by
      apply hfirst.exists_related h
      intro rule other houtcome
      rw [Rule.excludes, Rule.excludes, houtcome.excluded]
    obtain ⟨hname, hsome⟩ := hnames place first other hfirst hother
    rw [decide_of_first hfirst, decide_of_first hcounterpart, Rule.rule_decide, Rule.rule_decide,
      Rule.label_of_name hsome, Rule.label_of_name (hname ▸ hsome), hname]
  · have hadmitted : excludes ⟨rules⟩ reference = false := by
      rw [← Bool.not_eq_true, excludes_iff]
      exact hexcluded
    have hother : excludes ⟨others⟩ seen = false := by
      rw [← excluded_decide] at hadmitted ⊢
      rw [← (sameOutcome_decide h).excluded, hadmitted]
    rw [decide_of_admitted hadmitted, decide_of_admitted hother]

/-- Decisions see of a reference the names that it exposes, and of rules the patterns for the axes
of these names. If two lists of rules have the same patterns there, place by place, then they decide
alike on two references that expose the same, and name the same rule if the one that decides has the
name of its counterpart. Patterns for an axis that a reference does not expose can be edited without
a change to any decision on it, and no decision depends on the own name of a change request. -/
theorem decisions_see_exposed_axes_only
    (hrules : ∀ rule ∈ rules, rule.Built) (hothers : ∀ rule ∈ others, rule.Built)
    (hexposed : ∀ axis, reference.nameOn? axis = seen.nameOn? axis)
    (hsame : List.Forall₂ (Rule.SamePatternsOn reference) rules others) :
    (decide ⟨rules⟩ reference).SameOutcome (decide ⟨others⟩ seen) ∧
    ((∀ place rule other, FirstAt (fun rule => rule.excludes reference = true) rules place rule →
        others[place]? = some other → rule.name = other.name ∧ rule.name ≠ "") →
      (decide ⟨rules⟩ reference).rule = (decide ⟨others⟩ seen).rule) ∧
    (∀ axis edited, (∀ name, ¬ reference.Exposes axis name) → (∀ rule ∈ edited, rule.Built) →
      List.Forall₂ (Rule.EditedOn axis) rules edited →
      decide ⟨rules⟩ reference = decide ⟨edited⟩ reference) ∧
    ∀ own own' origin target,
      decide ⟨rules⟩ (.changeRequest own origin target) =
        decide ⟨rules⟩ (.changeRequest own' origin target) := by
  have hnames := Reference.names_eq_of_nameOn? hexposed
  have houtcomes : List.Forall₂
      (fun rule other => (rule.decide reference).SameOutcome (other.decide seen)) rules others := by
    apply forall₂_imp_of_mem hsame
    intro rule hrule other hother hpatterns
    exact Rule.sameOutcome_decide (hrules rule hrule).compiled (hothers other hother).compiled
      hnames hpatterns
  refine ⟨sameOutcome_decide houtcomes, rule_eq_of_names houtcomes, ?_, fun _ _ _ _ => rfl⟩
  intro axis edited hhidden hedited hedits
  have hdecisions : List.Forall₂
      (fun rule other => rule.decide reference = other.decide reference) rules edited := by
    apply forall₂_imp_of_mem hedits
    intro rule hrule other hother hedit
    exact hedit.decide (hrules rule hrule).compiled (hedited other hother).compiled hhidden
  exact decide_congr hdecisions

def intoMain : Rule :=
  ⟨.wildcard, [(.prDestination, .wildcard (.ofWildcard "main") (.ofWildcard ""))], "targets",
    by simp, by simp, by simp [Guard.policy]⟩

def intoMainOrVersion : Rule :=
  ⟨.wildcard, [(.tag, .wildcard (.ofWildcard "v*") (.ofWildcard "")),
      (.prDestination, .wildcard (.ofWildcard "main") (.ofWildcard ""))], "targets",
    by simp, by simp, by simp [Guard.policy]⟩

theorem request_into_develop_sees_targets_only :
    (decide ⟨[noCandidates, intoMainOrVersion]⟩ (.changeRequest "1" "wip" "develop")).SameOutcome
        (decide ⟨[mainOnly, intoMain]⟩ (.changeRequest "v2" "wip" "develop")) ∧
      (decide ⟨[noCandidates, intoMainOrVersion]⟩ (.changeRequest "1" "wip" "develop")).rule =
        (decide ⟨[mainOnly, intoMain]⟩ (.changeRequest "v2" "wip" "develop")).rule := by
  have hrules : ∀ rule ∈ [noCandidates, intoMainOrVersion], rule.Built := by
    have hcandidates : noCandidates.Built :=
      ⟨.text "wildcard", [("tag", .ofWildcards "*" "beta-*")], "candidates", rfl⟩
    have hversion : intoMainOrVersion.Built :=
      ⟨.text "wildcard", [("tag", .ofWildcards "v*" ""), ("pr_destination", .ofWildcards "main" "")],
        "targets", rfl⟩
    simp [hcandidates, hversion]
  have hothers : ∀ rule ∈ [mainOnly, intoMain], rule.Built := by
    have hmain : mainOnly.Built :=
      ⟨.text "wildcard", [("branch", .ofWildcards "main" "")], "", rfl⟩
    have hinto : intoMain.Built :=
      ⟨.text "wildcard", [("pr_destination", .ofWildcards "main" "")], "targets", rfl⟩
    simp [hmain, hinto]
  have hexposed (axis : Axis) : (Reference.changeRequest "1" "wip" "develop").nameOn? axis =
      (Reference.changeRequest "v2" "wip" "develop").nameOn? axis := rfl
  have hfirst : Rule.SamePatternsOn (.changeRequest "1" "wip" "develop") noCandidates mainOnly := by
    intro axis name hname
    cases hname <;> rfl
  have hsecond :
      Rule.SamePatternsOn (.changeRequest "1" "wip" "develop") intoMainOrVersion intoMain := by
    intro axis name hname
    cases hname <;> rfl
  obtain ⟨houtcome, hrule, -⟩ := decisions_see_exposed_axes_only hrules hothers hexposed
    (.cons hfirst (.cons hsecond .nil))
  refine ⟨houtcome, hrule ?_⟩
  intro place rule other hplace hother
  cases hplace with
  | head hexcludes =>
      have habstains : noCandidates.excludes (.changeRequest "1" "wip" "develop") = false := by
        decide +kernel
      rw [habstains] at hexcludes
      cases hexcludes
  | tail _ hrest =>
      cases hrest with
      | head _ =>
          obtain rfl := Option.some.inj hother
          exact ⟨rfl, by decide⟩
      | tail _ hnone => cases hnone

end FilterSet

end RefFilter
