import RefFilter.Proofs.FilterSet.Composition

/-! # Partition of a batch

A batch is filtered in a loop that asks the rules about one reference after the other, puts it at
the end of its side and notes its exclusion. What holds of the report and of the events before a
reference holds after it, with the reference at the end of the part of the batch that is done. So
the two sides are the batch without the references of the other side, in its order, the decisions
and the events go with the excluded references one for one, and the counts come last.
-/

namespace RefFilter.FilterSet

/-! ## The loop -/

def splitFrom (filters : FilterSet) (report : Report Reference) :
    List Reference → Traced (Report Reference)
  | [] => return report
  | reference :: rest => do
    let decision ← filters.evaluate reference
    filters.splitFrom (report.add reference decision) rest

def filterEach (filters : FilterSet) (references : List Reference) : Traced (Report Reference) := do
  let report ← filters.splitFrom .empty references
  Traced.note (.filtered report.total report.admitted.length report.excluded.length)
  return report

/-! ## The report so far -/

variable {filters : FilterSet}

theorem eventsOf_eq (filters : FilterSet) (reference : Reference) :
    filters.eventsOf reference =
      if filters.excludes reference then
        [.excluded reference.category reference.name (filters.decide reference).reason]
      else [] := by
  rw [eventsOf, excluded_decide]

def exclusionEvent (reference : Reference) (decision : Decision) : Event :=
  .excluded reference.category reference.name decision.reason

/-- A report holds some references, each on its side and in their order, and each excluded one with
the decision on it. What was noted are the exclusions. -/
structure Splits (filters : FilterSet) (references : List Reference) (report : Report Reference)
    (events : List Event) : Prop where
  admitted : report.admitted = references.filter fun reference => !filters.excludes reference
  excluded : report.excluded = references.filter fun reference => filters.excludes reference
  decisions : report.decisions = report.excluded.map filters.decide
  events : events = (report.excluded.zip report.decisions).map fun (reference, decision) =>
    exclusionEvent reference decision

namespace Splits

variable {done : List Reference} {report : Report Reference} {events : List Event}

theorem nil (filters : FilterSet) : filters.Splits [] .empty [] := ⟨rfl, rfl, rfl, rfl⟩

/-- A step of the loop: the next reference goes to the end of its side. -/
theorem snoc (h : filters.Splits done report events) (reference : Reference) :
    filters.Splits (done ++ [reference]) (report.add reference (filters.decide reference))
      (events ++ filters.eventsOf reference) := by
  have hlength : report.excluded.length = report.decisions.length := by
    rw [h.decisions, List.length_map]
  rw [Report.add, eventsOf_eq, excluded_decide]
  cases hexcludes : filters.excludes reference with
  | true =>
      rw [if_pos rfl, if_pos rfl]
      refine ⟨?_, ?_, ?_, ?_⟩
      · simp [h.admitted, hexcludes]
      · simp [h.excluded, hexcludes]
      · simp [h.decisions]
      · dsimp only
        rw [List.zip_append hlength, List.map_append, h.events]
        rfl
  | false =>
      rw [if_neg Bool.false_ne_true, if_neg Bool.false_ne_true, List.append_nil]
      refine ⟨?_, ?_, h.decisions, h.events⟩
      · simp [h.admitted, hexcludes]
      · simp [h.excluded, hexcludes]

/-- The whole loop: it ends with a report that holds what was done before and what was to be
done. -/
theorem splitFrom (h : filters.Splits done report events)
    (hcompiled : ∀ rule ∈ filters.rules, rule.Compiled) (rest : List Reference) :
    ∃ last noted, filters.splitFrom report rest = ⟨.ok last, noted⟩ ∧
      filters.Splits (done ++ rest) last (events ++ noted) := by
  induction rest generalizing done report events with
  | nil =>
      refine ⟨report, [], rfl, ?_⟩
      rw [List.append_nil, List.append_nil]
      exact h
  | cons reference rest ih =>
      obtain ⟨last, noted, hrun, hsplits⟩ := ih (h.snoc reference)
      have hevaluate := evaluate_of_compiled hcompiled reference
      refine ⟨last, filters.eventsOf reference ++ noted, ?_, ?_⟩
      · rw [FilterSet.splitFrom, Traced.bind_of_ok (congrArg Traced.result hevaluate), hrun,
          hevaluate]
      · rw [← List.append_assoc]
        simpa using hsplits

/-- Splitting in one fold comes to the same. -/
theorem splitBy (filters : FilterSet) (references : List Reference) :
    filters.Splits references (filters.splitBy id references)
      (references.flatMap filters.eventsOf) := by
  induction references using List.reverseRecOn with
  | nil => exact nil filters
  | append_singleton done reference ih =>
      have hstep := ih.snoc reference
      rw [FilterSet.splitBy, List.foldl_append, List.flatMap_append, List.flatMap_singleton]
      exact hstep

/-- The report on some references is determined. -/
theorem unique {other : Report Reference} {noted : List Event}
    (h : filters.Splits done report events) (hother : filters.Splits done other noted) :
    report = other ∧ events = noted := by
  have hreport : report = other := by
    have hexcluded := h.excluded.trans hother.excluded.symm
    have hdecisions : report.decisions = other.decisions := by
      rw [h.decisions, hother.decisions, hexcluded]
    cases report
    cases other
    rw [Report.mk.injEq]
    exact ⟨h.admitted.trans hother.admitted.symm, hexcluded, hdecisions⟩
  refine ⟨hreport, ?_⟩
  rw [h.events, hother.events, hreport]

theorem total (h : filters.Splits done report events) : report.total = done.length := by
  rw [(h.unique (splitBy filters done)).1, total_splitBy]

theorem decisions_length (h : filters.Splits done report events) :
    report.decisions.length = report.excluded.length := by
  rw [h.decisions, List.length_map]

theorem decisions_getElem? (h : filters.Splits done report events) {place : Nat}
    {reference : Reference} (hplace : report.excluded[place]? = some reference) :
    report.decisions[place]? = some (filters.decide reference) := by
  rw [h.decisions, List.getElem?_map, hplace, Option.map_some]

theorem levels (h : filters.Splits done report events) :
    events.map Event.level = List.replicate report.excluded.length .debug := by
  have hconstant : events.map Event.level =
      (report.excluded.zip report.decisions).map fun _ => Level.debug := by
    rw [h.events, List.map_map]
    rfl
  rw [hconstant, List.map_const', List.length_zip, h.decisions_length, Nat.min_self]

end Splits

/-! ## Batches -/

/-- Filtering a batch splits it in its order and loses nothing. The references that are admitted and
those that are excluded are the batch without the others, the decision at a place is what evaluating
the excluded reference at this place gives, and the total is the number of references. One event for
each excluded reference is noted, with the reason of its decision, and then one with the counts.
Asking whether a reference is excluded notes nothing. -/
theorem filter_partitions_batch {rules : List Rule} (hbuilt : ∀ rule ∈ rules, rule.Built)
    (references : List Reference) :
    let filters : FilterSet := ⟨rules⟩
    ∃ (report : Report Reference) (events : List Event),
      filters.filter references = (report, events) ∧
      filters.filterEach references = ⟨.ok report, events⟩ ∧
      report.admitted = references.filter (fun reference => !filters.excludes reference) ∧
      report.excluded = references.filter (fun reference => filters.excludes reference) ∧
      report.decisions.length = report.excluded.length ∧
      (∀ (place : Nat) (reference : Reference), report.excluded[place]? = some reference →
        ∃ decision, report.decisions[place]? = some decision ∧
          filters.evaluate reference = ⟨.ok decision, [exclusionEvent reference decision]⟩) ∧
      report.total = references.length ∧
      events =
        (report.excluded.zip report.decisions).map
            (fun (reference, decision) => exclusionEvent reference decision) ++
          [.filtered references.length report.admitted.length report.excluded.length] ∧
      events.map Event.level = List.replicate report.excluded.length .debug ++ [.info] ∧
      ∀ reference, anyExcludes reference rules = ⟨.ok (filters.excludes reference), []⟩ := by
  intro filters
  have hcompiled : ∀ rule ∈ filters.rules, rule.Compiled :=
    fun rule hmem => (hbuilt rule hmem).compiled
  have hsplits := Splits.splitBy filters references
  obtain ⟨report, noted, hrun, hsplitFrom⟩ := (Splits.nil filters).splitFrom hcompiled references
  obtain ⟨rfl, rfl⟩ := hsplits.unique hsplitFrom
  refine ⟨_, _, rfl, ?_, hsplits.admitted, hsplits.excluded, hsplits.decisions_length, ?_,
    hsplits.total, ?_, ?_, anyExcludes_of_compiled hcompiled⟩
  · rw [filterEach, Traced.bind_of_ok (congrArg Traced.result hrun), hrun]
    rfl
  · intro place reference hplace
    have hexcludes : filters.excludes reference = true := by
      have hmem := List.mem_of_getElem? hplace
      rw [hsplits.excluded] at hmem
      exact (List.mem_filter.1 hmem).2
    refine ⟨_, hsplits.decisions_getElem? hplace, ?_⟩
    rw [evaluate_of_compiled hcompiled, eventsOf_eq, if_pos hexcludes]
    rfl
  · rw [hsplits.total]
    exact congrArg (· ++ _) hsplits.events
  · rw [List.map_append]
    exact congrArg (· ++ _) hsplits.levels

def repeatedReferences : List Reference :=
  [.branch "dev", .tag "v1", .branch "main", .branch "dev", .tag "v1",
    .changeRequest "1" "dev" "main"]

theorem repeatedReferences_partition :
    ∃ (report : Report Reference) (events : List Event),
      filter ⟨[mainOnly]⟩ repeatedReferences = (report, events) ∧
      report.admitted = [.tag "v1", .branch "main", .tag "v1", .changeRequest "1" "dev" "main"] ∧
      report.excluded = [.branch "dev", .branch "dev"] ∧
      events.map Event.level = [.debug, .debug, .info] := by
  have hbuilt : ∀ rule ∈ [mainOnly], rule.Built := by
    have hmain : mainOnly.Built :=
      ⟨.text "wildcard", [("branch", .ofWildcards "main" "")], "", rfl⟩
    simpa using hmain
  obtain ⟨report, events, hfilter, -, hadmitted, hexcluded, -, -, -, -, hlevels, -⟩ :=
    filter_partitions_batch hbuilt repeatedReferences
  have hsides : report.admitted =
        [.tag "v1", .branch "main", .tag "v1", .changeRequest "1" "dev" "main"] ∧
      report.excluded = [.branch "dev", .branch "dev"] := by
    rw [hadmitted, hexcluded]
    decide +kernel
  refine ⟨report, events, hfilter, hsides.1, hsides.2, ?_⟩
  rw [hlevels, hsides.2]
  rfl

end RefFilter.FilterSet
