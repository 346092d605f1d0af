import RefFilter.Proofs.Rule.OnUse

/-! # Rules that decide alike

A decision sees of a guard only which names it has a cause against. Rules whose guards have causes
against the same names decide alike: they exclude the same references, on the same axis and for the
same name, and what they say of the others is the same. Only the wording of a cause, which quotes a
pattern, tells them apart.
-/

namespace RefFilter

/-! ## Outcomes -/

/-- Two decisions have the same outcome. They exclude the reference for the same name on the same
axis, in words that may differ, or both spare it in the same words. -/
structure Decision.Alike (decision other : Decision) : Prop where
  excluded : decision.excluded = other.excluded
  axis : decision.axis = other.axis
  name : decision.name = other.name
  reason : decision.excluded = false → decision.reason = other.reason

/-- Two guards have a cause against the same names of a set. -/
def Guard.AgreeOn (names : Set String) (guard other : Guard) : Prop :=
  ∀ name ∈ names, (guard.cause? name).isSome = (other.cause? name).isSome

theorem Guard.isSome_cause?_regex (matcher : Matcher) (name : String) :
    ((Guard.regex matcher).cause? name).isSome = !matcher.accepts name := by
  cases haccepts : matcher.accepts name <;> simp [cause?, haccepts]

namespace Rule

variable {rule other : Rule}

theorem firstCause?_rel {names : Set String}
    (hguards : ∀ axis, Option.Rel (Guard.AgreeOn names) (rule.guard? axis) (other.guard? axis))
    {exposed : List (Axis × String)} (hexposed : ∀ entry ∈ exposed, entry.2 ∈ names) :
    Option.Rel (fun found found' => found.1 = found'.1 ∧ found.2.1 = found'.2.1)
      (rule.firstCause? exposed) (other.firstCause? exposed) := by
  induction exposed with
  | nil => exact .none
  | cons head rest ih =>
      rw [List.forall_mem_cons] at hexposed
      have hrest := ih hexposed.2
      rw [firstCause?_cons, firstCause?_cons]
      have hguard := hguards head.1
      generalize rule.guard? head.1 = found, other.guard? head.1 = found' at hguard
      cases hguard with
      | none => exact hrest
      | @some guard guard' hagree =>
          have hsome := hagree head.2 hexposed.1
          rw [Option.bind_some, Option.bind_some]
          cases hcause : guard.cause? head.2 <;> cases hcause' : guard'.cause? head.2
          case none.none => exact hrest
          case some.some => exact .some ⟨rfl, rfl⟩
          all_goals simp [hcause, hcause'] at hsome

/-- Rules whose guards agree on the names that a reference exposes decide it alike. -/
theorem decide_alike {names : Set String} {reference : Reference}
    (hguards : ∀ axis, Option.Rel (Guard.AgreeOn names) (rule.guard? axis) (other.guard? axis))
    (hnames : ∀ axis name, reference.Exposes axis name → name ∈ names) :
    (rule.decide reference).Alike (other.decide reference) := by
  have hgoverned (axis : Axis) : (rule.guard? axis).isSome = (other.guard? axis).isSome := by
    have hguard := hguards axis
    generalize rule.guard? axis = found, other.guard? axis = found' at hguard
    cases hguard <;> rfl
  have hexposed : ∀ entry ∈ reference.names, entry.2 ∈ names := by
    intro entry hmem
    exact hnames entry.1 entry.2 (Reference.mem_names_iff.1 hmem)
  have hcause := firstCause?_rel hguards hexposed
  rw [decide, decide]
  generalize rule.firstCause? reference.names = found,
    other.firstCause? reference.names = found' at hcause
  cases hcause with
  | none => exact ⟨rfl, rfl, rfl, fun _ => by simp only [hgoverned]⟩
  | @some cause cause' hsame =>
      obtain ⟨axis, name, cause⟩ := cause
      obtain ⟨axis', name', cause'⟩ := cause'
      obtain ⟨rfl, rfl⟩ := hsame
      exact ⟨rfl, rfl, rfl, fun hspared => absurd hspared (by simp [exclusion])⟩

/-- The same for guards that go together axis by axis. -/
theorem decide_alike_of_guards {names : Set String} {reference : Reference}
    (hguards : List.Forall₂
      (fun entry entry' => entry.1 = entry'.1 ∧ entry.2.AgreeOn names entry'.2)
      rule.guards other.guards)
    (hnames : ∀ axis name, reference.Exposes axis name → name ∈ names) :
    (rule.decide reference).Alike (other.decide reference) :=
  decide_alike (fun axis => lookup_rel hguards axis) hnames

end Rule

end RefFilter
