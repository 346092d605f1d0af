import Mathlib
import RefFilter.FilterSet

/-! # Decisions of rules

A rule looks at the names that a reference exposes and excludes the reference if the guard of one
of their axes has a cause against its name. Of the guards, a decision sees no more than the one of
each axis, so rules that agree in their policy, their name and the guard of each axis decide alike.
-/

namespace RefFilter

/-- A reference has a name on an axis. The own name of a change request is on none. -/
inductive Reference.Exposes : Reference → Axis → String → Prop where
  | branch (name : String) : Exposes (.branch name) .branch name
  | tag (name : String) : Exposes (.tag name) .tag name
  | origin (name origin target : String) :
      Exposes (.changeRequest name origin target) .prOrigin origin
  | target (name origin target : String) :
      Exposes (.changeRequest name origin target) .prDestination target

theorem Reference.mem_names_iff {reference : Reference} {axis : Axis} {name : String} :
    (axis, name) ∈ reference.names ↔ reference.Exposes axis name := by
  constructor
  · intro h
    cases reference with
    | branch own =>
        obtain ⟨rfl, rfl⟩ : axis = .branch ∧ name = own := by simpa [names] using h
        exact .branch name
    | tag own =>
        obtain ⟨rfl, rfl⟩ : axis = .tag ∧ name = own := by simpa [names] using h
        exact .tag name
    | changeRequest own origin target =>
        obtain ⟨rfl, rfl⟩ | ⟨rfl, rfl⟩ :
            axis = .prOrigin ∧ name = origin ∨ axis = .prDestination ∧ name = target := by
          simpa [names] using h
        · exact .origin own name target
        · exact .target own origin name
  · intro h
    cases h <;> simp [names]

/-! ## Guards -/

/-- A guard has a cause against a name that its first matcher misses or its second one hits. -/
theorem Guard.cause?_isSome_iff (guard : Guard) (name : String) :
    (guard.cause? name).isSome = true ↔
      match guard with
      | .regex matcher => matcher.accepts name = false
      | .wildcard includes excludes =>
          includes.accepts name = false ∨ excludes.accepts name = true := by
  cases guard with
  | regex matcher => cases h : matcher.accepts name <;> simp [cause?, h]
  | wildcard includes excludes =>
      cases hincludes : includes.accepts name <;> cases hexcludes : excludes.accepts name <;>
        simp [cause?, hincludes, hexcludes]

namespace Rule

variable {rule other : Rule} {reference : Reference}

/-! ## Exclusion -/

theorem excludes_eq (rule : Rule) (reference : Reference) :
    rule.excludes reference = (rule.firstCause? reference.names).isSome := by
  rw [excludes, decide]
  cases rule.firstCause? reference.names <;> rfl

theorem firstCause?_isSome_iff {names : List (Axis × String)} :
    (rule.firstCause? names).isSome = true ↔
      ∃ axis name guard, (axis, name) ∈ names ∧ rule.guard? axis = some guard ∧
        (guard.cause? name).isSome = true := by
  rw [firstCause?, List.findSome?_isSome_iff]
  constructor
  · intro h
    rcases h with ⟨⟨axis, name⟩, hmem, h⟩
    cases hguard : rule.guard? axis with
    | none => simp [hguard] at h
    | some guard => exact ⟨axis, name, guard, hmem, hguard, by simpa [hguard] using h⟩
  · intro h
    rcases h with ⟨axis, name, guard, hmem, hguard, h⟩
    exact ⟨(axis, name), hmem, by simpa [hguard] using h⟩

/-- A rule excludes a reference exactly if the guard of some axis has a cause against the name
that the reference exposes there. -/
theorem excludes_iff :
    rule.excludes reference = true ↔
      ∃ axis name guard, reference.Exposes axis name ∧ rule.guard? axis = some guard ∧
        (guard.cause? name).isSome = true := by
  rw [excludes_eq, firstCause?_isSome_iff]
  simp only [Reference.mem_names_iff]

/-! ## What a decision depends on -/

/-- Rules show the same to every reference: they have the same policy, the same name and the same
guard on each axis. The order of their guards plays no role. -/
structure Agrees (rule other : Rule) : Prop where
  policy : rule.policy = other.policy
  name : rule.name = other.name
  guard? : ∀ axis, rule.guard? axis = other.guard? axis

theorem Agrees.label (h : rule.Agrees other) : rule.label = other.label := by
  have haxes : rule.axes = other.axes := by simp only [axes, h.guard?]
  rw [Rule.label, Rule.label, h.name, h.policy, haxes]

theorem Agrees.decide (h : rule.Agrees other) (reference : Reference) :
    rule.decide reference = other.decide reference := by
  have hcause : rule.firstCause? reference.names = other.firstCause? reference.names := by
    simp only [firstCause?, h.guard?]
  rw [Rule.decide, Rule.decide, hcause, h.label]
  simp only [exclusion, h.label, h.guard?]

end Rule

namespace FilterSet

variable {filters other : FilterSet}

/-! ## Filter sets -/

theorem decide_congr {rules others : List Rule} {reference seen : Reference}
    (h : List.Forall₂ (fun rule other => rule.decide reference = other.decide seen) rules others) :
    decide ⟨rules⟩ reference = decide ⟨others⟩ seen := by
  have hdecisions : rules.map (·.decide reference) = others.map (·.decide seen) := by
    rw [← List.forall₂_eq_eq_eq, List.forall₂_map_left_iff, List.forall₂_map_right_iff]
    exact h
  rw [decide, decide, hdecisions]

theorem decide_of_agrees (h : List.Forall₂ Rule.Agrees filters.rules other.rules) :
    filters.decide = other.decide := by
  funext reference
  exact decide_congr (h.imp fun rule other hagrees => hagrees.decide reference)

/-- Filtering looks at the rules only through their decisions. -/
theorem filterBy_of_decide {α : Type} (h : filters.decide = other.decide)
    (reference : α → Reference) : filters.filterBy reference = other.filterBy reference := by
  funext members
  have hevents : filters.eventsOf = other.eventsOf := by
    funext reference
    rw [eventsOf, eventsOf, h]
  have hsplit : filters.splitBy reference members = other.splitBy reference members := by
    rw [splitBy, splitBy, h]
  rw [filterBy, filterBy, hsplit, hevents]

end FilterSet

end RefFilter
