import RefFilter.Proofs.Rule.Decision

/-! # Splitting a batch

A batch is split one member after the other. The members on either side stand in the order of the
batch, and the decisions go with the excluded members one for one. A filter set decides to exclude
exactly the references that it excludes.
-/

namespace RefFilter

/-! ## Decisions of filter sets -/

namespace FilterSet

section Cons

variable {rule : Rule} {reference : Reference}

theorem excludes_cons (rule : Rule) (rest : List Rule) (reference : Reference) :
    excludes ⟨rule :: rest⟩ reference =
      ((rule.decide reference).excluded || excludes ⟨rest⟩ reference) := List.any_cons

theorem decide_cons_of_excluded (h : (rule.decide reference).excluded = true) (rest : List Rule) :
    decide ⟨rule :: rest⟩ reference = rule.decide reference := by
  unfold decide
  rw [List.map_cons, List.find?_cons_of_pos h]
  rfl

theorem decide_cons_of_admitted (h : (rule.decide reference).excluded = false)
    (rest : List Rule) : decide ⟨rule :: rest⟩ reference = decide ⟨rest⟩ reference := by
  unfold decide
  rw [List.map_cons, List.find?_cons_of_neg (by simp [h])]

end Cons

theorem excluded_decide (filters : FilterSet) (reference : Reference) :
    (filters.decide reference).excluded = filters.excludes reference := by
  obtain ⟨rules⟩ := filters
  induction rules with
  | nil => rfl
  | cons rule rest ih =>
      rw [excludes_cons]
      cases hexcluded : (rule.decide reference).excluded with
      | true => rw [decide_cons_of_excluded hexcluded, hexcluded, Bool.true_or]
      | false => rw [decide_cons_of_admitted hexcluded, ih, Bool.false_or]

end FilterSet

/-! ## Reports -/

section Split

variable {α : Type} (filters : FilterSet) (reference : α → Reference)

/-- What was split before stays in front on either side. -/
private theorem foldl_add (members : List α) (report : Report α) :
    members.foldl
        (fun report member => report.add member (filters.decide (reference member))) report =
      ⟨report.admitted ++ members.filter (fun member => !filters.excludes (reference member)),
        report.excluded ++ members.filter (fun member => filters.excludes (reference member)),
        report.decisions ++
          (members.filter (fun member => filters.excludes (reference member))).map
            (fun member => filters.decide (reference member))⟩ := by
  induction members generalizing report with
  | nil => simp
  | cons member rest ih =>
      rw [List.foldl_cons, ih, Report.add, filters.excluded_decide]
      cases hexcludes : filters.excludes (reference member) with
      | true => simp [hexcludes]
      | false => simp [hexcludes]

namespace FilterSet

/-- The members on either side of a split keep their order, and each excluded one has its own
decision. -/
theorem splitBy_eq (members : List α) :
    filters.splitBy reference members =
      ⟨members.filter (fun member => !filters.excludes (reference member)),
        members.filter (fun member => filters.excludes (reference member)),
        (members.filter (fun member => filters.excludes (reference member))).map
          (fun member => filters.decide (reference member))⟩ :=
  foldl_add filters reference members .empty

theorem total_splitBy (members : List α) :
    (filters.splitBy reference members).total = members.length := by
  have hsum := List.length_eq_length_filter_add
    (l := members) (fun member => filters.excludes (reference member))
  rw [splitBy_eq, Report.total]
  dsimp only
  omega

end FilterSet

end Split

end RefFilter
