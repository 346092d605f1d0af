import RefFilter.Proofs.FilterSet.Split
import RefFilter.Proofs.Service.Bodies
import RefFilter.Proofs.Service.Reinstall

/-! # Batches

A batch is split into the members that stay and those that are excluded, and the answer is put
together again from the decisions on the excluded ones. They are found by the places of their
members. Places are distinct where references need not be, so each reference is answered with the
decision on itself, however often it occurs.
-/

namespace RefFilter.Service

/-! ## Places -/

namespace Member

theorem references_ofReferences (references : List Reference) :
    (ofReferences references).map reference = references := by
  apply List.ext_getElem
  · simp [ofReferences]
  · intro i _ _
    simp [ofReferences]

theorem nodup_ofReferences (references : List Reference) :
    ((ofReferences references).map place).Nodup := by
  have hplaces : (ofReferences references).map place = List.range references.length := by
    apply List.ext_getElem
    · simp [ofReferences]
    · intro i _ _
      simp [ofReferences]
  rw [hplaces]
  exact List.nodup_range

end Member

section Table

variable (filters : FilterSet) {members : List Member}

theorem decisionsByPlace_splitBy (members : List Member) :
    decisionsByPlace (filters.splitBy Member.reference members) =
      (members.filter fun member => filters.excludes member.reference).map fun member =>
        (member.place, filters.decide member.reference) := by
  rw [decisionsByPlace, filters.splitBy_eq]
  exact List.zip_map'

/-- The table of decisions holds the decision on an excluded member under its place, and nothing
under the place of a member that stays. -/
theorem lookup_decisionsByPlace (hdistinct : (members.map Member.place).Nodup) {member : Member}
    (hmem : member ∈ members) :
    (decisionsByPlace (filters.splitBy Member.reference members)).lookup member.place =
      if filters.excludes member.reference then some (filters.decide member.reference)
      else none := by
  rw [decisionsByPlace_splitBy]
  cases hexcludes : filters.excludes member.reference with
  | true =>
      rw [if_pos rfl]
      refine lookup_of_mem ?_ ?_
      · rw [List.map_map]
        exact hdistinct.sublist (List.filter_sublist.map _)
      · exact List.mem_map.2 ⟨member, List.mem_filter.2 ⟨hmem, hexcludes⟩, rfl⟩
  | false =>
      rw [if_neg Bool.false_ne_true, List.lookup_eq_none_iff]
      intro entry hentry
      obtain ⟨other, hother, rfl⟩ := List.mem_map.1 hentry
      rw [List.mem_filter] at hother
      -- The reference of `other` may well be the same; its place is not.
      have hne : member.place ≠ other.place := by
        intro hplace
        obtain rfl := List.inj_on_of_nodup_map hdistinct hmem hother.1 hplace
        exact Bool.false_ne_true (hexcludes.symm.trans hother.2)
      simpa using hne

/-- The document of what a filter set decides on a reference. The reason and the rule are those of
an exclusion. -/
def decisionJson (reference : Reference) : Json :=
  let decision := filters.decide reference
  .object [("reference", reference.toJson), ("excluded", .bool decision.excluded),
    ("reason", .text (if decision.excluded then decision.reason else "")),
    ("rule", .text (if decision.excluded then decision.rule else ""))]

theorem outcomeJson_lookup (hdistinct : (members.map Member.place).Nodup) {member : Member}
    (hmem : member ∈ members) :
    outcomeJson member.reference
        ((decisionsByPlace (filters.splitBy Member.reference members)).lookup member.place) =
      decisionJson filters member.reference := by
  have hexcluded := filters.excluded_decide member.reference
  rw [lookup_decisionsByPlace filters hdistinct hmem, outcomeJson, decisionJson]
  cases hexcludes : filters.excludes member.reference with
  | true => simp [hexcluded, hexcludes]
  | false => simp [hexcluded, hexcludes]

/-- The answer to a batch shows the decision on each of its references at the place of the
reference, and counts. -/
theorem batchJson_ofReferences (references : List Reference) :
    batchJson (Member.ofReferences references)
        (filters.splitBy Member.reference (Member.ofReferences references)) =
      .object [
        ("decisions", .list (references.map (decisionJson filters))),
        ("total", .int references.length),
        ("admitted_count", .int (references.countP fun reference => !filters.excludes reference)),
        ("excluded_count", .int (references.countP filters.excludes))] := by
  have hreferences := Member.references_ofReferences references
  have hdecisions :
      ((Member.ofReferences references).map fun member =>
        outcomeJson member.reference ((decisionsByPlace (filters.splitBy Member.reference
          (Member.ofReferences references))).lookup member.place)) =
        references.map (decisionJson filters) := by
    rw [List.map_congr_left fun member hmem =>
      outcomeJson_lookup filters (Member.nodup_ofReferences references) hmem]
    nth_rewrite 2 [← hreferences]
    rw [List.map_map]
    rfl
  have hcount (test : Reference → Bool) :
      ((Member.ofReferences references).filter fun member => test member.reference).length =
        references.countP test := by
    nth_rewrite 2 [← hreferences]
    rw [List.countP_map, List.countP_eq_length_filter]
    rfl
  have htotal : (Member.ofReferences references).length = references.length := by
    rw [← List.length_map Member.reference, hreferences]
  rw [batchJson, hdecisions, filters.total_splitBy, htotal, filters.splitBy_eq]
  dsimp only
  rw [hcount, hcount fun reference => !filters.excludes reference]

end Table

/-! ## Answers -/

namespace State

variable {body : Option Json}

theorem evaluate_of_not_carries (h : ¬ ∃ items, Carries body items) (state : State) :
    ∃ errors, state.evaluate body = (.refusal errors, []) := by
  cases hbody : referencesBody body with
  | error errors =>
      refine ⟨errors, ?_⟩
      rw [evaluate, hbody]
  | ok described => exact absurd (carries_of_referencesBody hbody) h

theorem evaluate_of_carries {items : List Json} (h : Carries body items) (state : State) :
    state.evaluate body =
      match state.filters with
      | none => (.detail 409 "No filter set configured", [])
      | some filters =>
        match items.mapM Reference.ofJson with
        | .error failure => (.detail 400 failure.message, [])
        | .ok references =>
          let members := Member.ofReferences references
          let (report, events) := filters.filterBy Member.reference members
          (.okay (batchJson members report), events) := by
  obtain ⟨described, hdescribed, hreferences⟩ := referencesBody_of_carries h
  rw [evaluate, hdescribed]
  exact hreferences ▸ rfl

def flatRules : Json := .object [("rules", .list [flatRule])]

def flatTags : Rule :=
  ⟨.wildcard, [(.tag, .wildcard (.ofWildcard "*") (.ofWildcard "rc-*"))], "",
    by simp, by simp, by simp [Guard.policy]⟩

theorem filters_flatRules : (clean.putFilters (some flatRules)).1.filters = some ⟨[flatTags]⟩ := by
  let config : RuleConfig :=
    ⟨.wildcard, [(.tag, ⟨none, some "rc-*", none⟩)], "", some "wildcard_tag"⟩
  have hbody : rulesBody (some flatRules) = .ok [flatRule] := rfl
  have hconfig : (FilterSetConfig.readRules [flatRule]).result = .ok [config] := by cbv
  have hrule : config.build = .ok flatTags := rfl
  have hbuild : FilterSetConfig.build ⟨[config]⟩ = .ok ⟨[flatTags]⟩ := by
    rw [FilterSetConfig.build, FilterSetConfig.buildRules_eq_ok_iff.2 (.cons hrule .nil)]
    rfl
  rw [putFilters_of_build hbody hconfig hbuild]

/-- A batch that is answered with 200 has one decision for each of its references, in their order:
it shows the reference and what the filter set decides on it alone. The counts are those of these
decisions. -/
theorem batch_agrees_with_single_decisions {state : State} {filters : FilterSet} {answer : Json}
    (hfilters : state.filters = some filters)
    (hreply : (state.respond ⟨"POST", evaluatePath, body⟩).2.1 = .answer 200 answer) :
    ∃ (items : List Json) (references : List Reference) (decisions : List Json)
      (admitted excluded : Nat),
      Carries body items ∧
      List.Forall₂ (fun item reference => Reference.ofJson item = .ok reference) items references ∧
      answer = .object [("decisions", .list decisions), ("total", .int references.length),
        ("admitted_count", .int admitted), ("excluded_count", .int excluded)] ∧
      decisions.length = references.length ∧
      (∀ (place : Nat) (reference : Reference), references[place]? = some reference →
        decisions[place]? = some (decisionJson filters reference) ∧
          (filters.decide reference).excluded = filters.excludes reference) ∧
      excluded = references.countP (fun reference => (filters.decide reference).excluded) ∧
      admitted + excluded = references.length := by
  have hrespond : (state.respond ⟨"POST", evaluatePath, body⟩).2 = state.evaluate body := rfl
  rw [hrespond] at hreply
  obtain ⟨items, hitems⟩ : ∃ items, Carries body items := by
    by_contra hnot
    obtain ⟨errors, hrefused⟩ := evaluate_of_not_carries hnot state
    rw [hrefused] at hreply
    cases hreply
  rw [evaluate_of_carries hitems, hfilters] at hreply
  cases hread : items.mapM Reference.ofJson with
  | error failure =>
      rw [hread] at hreply
      cases hreply
  | ok references =>
      have hanswer : batchJson (Member.ofReferences references)
          (filters.splitBy Member.reference (Member.ofReferences references)) = answer := by
        rw [hread] at hreply
        exact (Reply.answer.inj hreply).2
      rw [batchJson_ofReferences] at hanswer
      refine ⟨items, references, references.map (decisionJson filters),
        references.countP fun reference => !filters.excludes reference,
        references.countP filters.excludes, hitems, mapM_eq_ok_iff.1 hread, hanswer.symm,
        List.length_map _, ?_, ?_, ?_⟩
      · intro place reference hreference
        rw [List.getElem?_map, hreference]
        exact ⟨rfl, filters.excluded_decide reference⟩
      · simp only [filters.excluded_decide]
      · have hsum := List.length_eq_countP_add_countP filters.excludes (l := references)
        simp only [Bool.not_eq_true, Bool.decide_eq_false] at hsum
        omega

def repeatedTag : Json :=
  let tag := Json.object [("name", .text "rc-1"), ("type", .text "tag")]
  .object [("references", .list [tag, .object [("name", .text "main")], tag])]

theorem repeatedTag_agrees :
    ∃ (state : State) (decisions : List Json),
      state = (clean.respond ⟨"PUT", filtersPath, some flatRules⟩).1 ∧
      (state.respond ⟨"POST", evaluatePath, some repeatedTag⟩).2.1 =
        .answer 200 (.object [("decisions", .list decisions), ("total", .int 3),
          ("admitted_count", .int 1), ("excluded_count", .int 2)]) ∧
      decisions[0]? = decisions[2]? ∧
      decisions[0]? = some (.object [
        ("reference", .object [("name", .text "rc-1"), ("type", .text "tag")]),
        ("excluded", .bool true), ("reason", .text "tag: 'rc-1' matches excluded 'rc-*'"),
        ("rule", .text "wildcard[tag]")]) := by
  let references : List Reference := [.tag "rc-1", .branch "main", .tag "rc-1"]
  obtain ⟨state, hstate⟩ : ∃ state, state = (clean.putFilters (some flatRules)).1 := ⟨_, rfl⟩
  have hfilters : state.filters = some ⟨[flatTags]⟩ := by
    rw [hstate, filters_flatRules]
  have hreply : (state.respond ⟨"POST", evaluatePath, some repeatedTag⟩).2.1 =
      .answer 200 (batchJson (Member.ofReferences references)
        (FilterSet.splitBy ⟨[flatTags]⟩ Member.reference (Member.ofReferences references))) := by
    have hrespond : (state.respond ⟨"POST", evaluatePath, some repeatedTag⟩).2 =
        state.evaluate (some repeatedTag) := rfl
    rw [hrespond, evaluate, hfilters]
    rfl
  obtain ⟨items, others, decisions, admitted, excluded, hitems, hothers, hanswer, -, hdecisions,
    hexcluded, htotal⟩ := batch_agrees_with_single_decisions hfilters hreply
  have hread : items.mapM Reference.ofJson = .ok references := by
    obtain ⟨fields, hfields, hlookup, -⟩ := hitems
    cases hfields
    cases hlookup
    rfl
  obtain rfl : references = others := Except.ok.inj (hread.symm.trans (mapM_eq_ok_iff.2 hothers))
  have htwo : excluded = 2 := by
    rw [hexcluded]
    decide +kernel
  obtain rfl : admitted = 1 := by
    have hthree : references.length = 3 := rfl
    omega
  have hfirst := (hdecisions 0 _ rfl).1
  have hlast := (hdecisions 2 _ rfl).1
  refine ⟨state, decisions, hstate, ?_, hfirst.trans hlast.symm, ?_⟩
  · rw [hreply, hanswer, htwo]
    rfl
  · have hdecide : FilterSet.decide ⟨[flatTags]⟩ (.tag "rc-1") = ⟨true, "wildcard[tag]",
        "tag: 'rc-1' matches excluded 'rc-*'", some .tag, some "rc-1"⟩ := by decide +kernel
    rw [hfirst, decisionJson, hdecide]
    rfl

end State

end RefFilter.Service
