import RefFilter.Proofs.Config.Failure
import RefFilter.Proofs.Service.Reinstall

/-! # Checking before installing

A check reads and builds the rules one by one and stops at the first that it cannot build; an
installation reads all of them before it builds the first. They agree on whether all is well. Where
an installation is rejected, it is for a rule that the check rejects with the same message, and the
check has reported that rule or one before it.
-/

namespace RefFilter

namespace Service

open RuleConfig

def checkPath : String := "/api/headfilter/rules/check"

/-- The rule at which an installation stops: the first that cannot be read or, if all can be read,
the first that cannot be built. -/
def StopsAt (rules : List Json) (place : Nat) (rule : Json) : Prop :=
  FirstAt (FailsOn configOf) rules place rule ∨
    (∀ other ∈ rules, ¬ FailsOn configOf other) ∧ FirstAt (FailsOn ruleOf) rules place rule

section Stop

variable {rules : List Json} {place : Nat} {rule : Json}

theorem StopsAt.fails (h : StopsAt rules place rule) : FailsOn ruleOf rule := by
  rcases h with hfirst | ⟨-, hfirst⟩
  · exact failsOn_ruleOf hfirst.holds
  · exact hfirst.holds

/-- The first rule that cannot be built is not after the one at which an installation stops. -/
theorem StopsAt.le {first : Nat} {other : Json} (h : StopsAt rules place rule)
    (hfirst : FirstAt (FailsOn ruleOf) rules first other) : first ≤ place := by
  rcases h with hread | ⟨-, hbuilt⟩
  · exact hfirst.le hread fun _ => failsOn_ruleOf
  · exact hfirst.le hbuilt fun _ => id

theorem exists_stopsAt (hmem : rule ∈ rules) (h : FailsOn ruleOf rule) :
    ∃ place rule, StopsAt rules place rule := by
  by_cases hread : ∃ other ∈ rules, FailsOn configOf other
  · obtain ⟨other, hother, hfails⟩ := hread
    obtain ⟨place, first, hfirst⟩ := exists_firstAt hother hfails
    exact ⟨place, first, Or.inl hfirst⟩
  · obtain ⟨place, first, hfirst⟩ := exists_firstAt hmem h
    refine ⟨place, first, Or.inr ⟨?_, hfirst⟩⟩
    intro other hother hfails
    exact hread ⟨other, hother, hfails⟩

end Stop

namespace State

section Lists

variable {rules : List Json} {place : Nat} {rule : Json}

/-! ## Checking a list -/

theorem checkEach_of_built (h : ∀ rule ∈ rules, ¬ FailsOn ruleOf rule) (index : Nat) :
    (checkEach index rules).result = .ok .success := by
  induction rules generalizing index with
  | nil => rfl
  | cons rule rest ih =>
      rw [List.forall_mem_cons] at h
      cases hrule : ruleOf rule with
      | error failure => exact absurd ⟨failure, hrule⟩ h.1
      | ok built =>
          have hcheck : (RuleConfig.check rule).result = .ok .success := by
            rw [result_check, hrule]
          rw [checkEach, Traced.result_bind, hcheck]
          exact ih h.2 (index + 1)

/-- The check of a list goes as that of the first rule that cannot be built, and it names the place
of the rule. -/
theorem checkEach_of_first (h : FirstAt (FailsOn ruleOf) rules place rule) (index : Nat) :
    (checkEach index rules).result =
      (RuleConfig.check rule).result.map fun verdict =>
        .failure ("rule " ++ toString (index + place) ++ ": " ++ verdict.message) := by
  induction h generalizing index with
  | @head rule rest hfails =>
      obtain ⟨failure, hfailure⟩ := hfails
      rw [checkEach, Traced.result_bind, result_check, hfailure]
      cases failure <;> rfl
  | @tail other rule rest place hother _ ih =>
      cases hrule : ruleOf other with
      | error failure => exact absurd ⟨failure, hrule⟩ hother
      | ok built =>
          have hcheck : (RuleConfig.check other).result = .ok .success := by
            rw [result_check, hrule]
          -- The place is relative to the rest of the list, the number is not.
          have hplace : index + (place + 1) = index + 1 + place := by omega
          rw [checkEach, Traced.result_bind, hcheck, hplace]
          exact ih (index + 1)

/-- The answer to a check of a list in which some rule cannot be built. -/
theorem checkRules_of_first {body : Option Json} (hbody : rulesBody body = .ok rules)
    (h : FirstAt (FailsOn ruleOf) rules place rule) :
    (checkRules body).1 = .crash ∨
      ∃ reason, Rejects rule reason ∧
        (checkRules body).1 =
          .okay (Verdict.toJson ⟨false, "rule " ++ toString place ++ ": " ++ reason⟩) := by
  obtain ⟨failure, hfailure⟩ := h.holds
  have heach := checkEach_of_first h 0
  rw [result_check, hfailure, Nat.zero_add] at heach
  cases failure with
  | configuration cause =>
      refine Or.inr ⟨cause.message, rejects_iff.2 ⟨cause, hfailure, rfl⟩, ?_⟩
      simp only [checkRules, hbody, heach]
      rfl
  | _ =>
      refine Or.inl ?_
      simp only [checkRules, hbody, heach]
      rfl

/-! ## Installing a list -/

def failureReply : Failure → Reply
  | .configuration cause => .detail 400 cause.message
  | _ => .crash

theorem putFilters_reply {body : Option Json} (hbody : rulesBody body = .ok rules)
    (state : State) :
    (state.putFilters body).2.1 =
      match rules.mapM configOf with
      | .error failure => failureReply failure
      | .ok configs =>
        match rules.mapM ruleOf with
        | .error failure => failureReply failure
        | .ok built => filtersReply ⟨configs⟩ ⟨built⟩ := by
  have hread : (FilterSetConfig.readRules rules).result = rules.mapM configOf :=
    FilterSetConfig.result_readRules rules
  simp only [putFilters, hbody, installRead, FilterSetConfig.ofJson_rules, hread]
  cases hconfigs : rules.mapM configOf with
  | error failure => cases failure <;> rfl
  | ok configs =>
      -- All rules are read, so to build what was read is to read and build each.
      have hbuild : FilterSetConfig.build ⟨configs⟩ = (rules.mapM ruleOf).map FilterSet.mk := by
        rw [FilterSetConfig.build, FilterSetConfig.buildRules_eq_mapM, mapM_bind_of_ok hconfigs]
        rfl
      simp only [Except.map, install, hbuild]
      cases rules.mapM ruleOf with
      | error failure => cases failure <;> rfl
      | ok built => rfl

theorem putFilters_of_built {body : Option Json} (hbody : rulesBody body = .ok rules)
    (h : ∀ rule ∈ rules, ¬ FailsOn ruleOf rule) (state : State) :
    (state.putFilters body).2.1.status = 200 := by
  rw [putFilters_reply hbody]
  cases hread : rules.mapM configOf with
  | error failure =>
      obtain ⟨place, rule, hfirst, -⟩ := mapM_eq_error_iff.1 hread
      exact absurd (failsOn_ruleOf hfirst.holds) (h rule hfirst.mem)
  | ok configs =>
      cases hbuild : rules.mapM ruleOf with
      | error failure =>
          obtain ⟨place, rule, hfirst, -⟩ := mapM_eq_error_iff.1 hbuild
          exact absurd hfirst.holds (h rule hfirst.mem)
      | ok built => rfl

theorem putFilters_of_stopsAt {body : Option Json} (hbody : rulesBody body = .ok rules)
    (hstops : StopsAt rules place rule) {failure : Failure} (hfailure : ruleOf rule = .error failure)
    (state : State) : (state.putFilters body).2.1 = failureReply failure := by
  rw [putFilters_reply hbody]
  rcases hstops with hfirst | ⟨hreads, hfirst⟩
  · -- Nothing is built before all is read, so rules before this one that cannot be built are silent.
    obtain ⟨cause, hcause⟩ := hfirst.holds
    obtain rfl : cause = failure := by
      rw [ruleOf, hcause] at hfailure
      exact Except.error.inj hfailure
    rw [mapM_eq_error_iff.2 ⟨place, rule, hfirst, hcause⟩]
  · cases hread : rules.mapM configOf with
    | error cause =>
        obtain ⟨place, other, hother, -⟩ := mapM_eq_error_iff.1 hread
        exact absurd hother.holds (hreads other hother.mem)
    | ok configs => rw [mapM_eq_error_iff.2 ⟨place, rule, hfirst, hfailure⟩]

end Lists

/-! ## Agreement -/

/-- Of the same rules, a check finds that all is well exactly if an installation succeeds. When an
installation is rejected, its detail is the message with which the check rejects the rule at which
the installation stops; and the check of all rules, unless it fails altogether, names the first rule
that the check rejects, which is that rule or one before it, with its message. -/
theorem check_agrees_with_put {state : State} {fields : List (String × Json)} {rules : List Json}
    (hrules : Json.lookup? fields "rules" = some (.list rules))
    (hobjects : ∀ rule ∈ rules, ∃ members, rule = .object members) :
    let checked := (state.respond ⟨"POST", checkPath, some (.object fields)⟩).2.1
    let put := (state.respond ⟨"PUT", filtersPath, some (.object fields)⟩).2.1
    ((∃ message, checked = .okay (Verdict.toJson ⟨true, message⟩)) ↔ put.status = 200) ∧
    (put.status = 400 →
      ∃ place rule message, StopsAt rules place rule ∧ Rejects rule message ∧
        put = .detail 400 message ∧
        (checked.status = 500 ∨
          ∃ first other reason, first ≤ place ∧
            FirstAt (fun rule => ∃ reason, Rejects rule reason) rules first other ∧
            Rejects other reason ∧
            checked = .okay (Verdict.toJson
              ⟨false, "rule " ++ toString first ++ ": " ++ reason⟩))) := by
  have hbody := rulesBody_of_objects hrules hobjects
  intro checked put
  have hchecked : checked = (checkRules (some (.object fields))).1 := rfl
  have hput : put = (state.putFilters (some (.object fields))).2.1 := rfl
  by_cases hbad : ∃ rule ∈ rules, FailsOn ruleOf rule
  · obtain ⟨rule, hmem, hfails⟩ := hbad
    obtain ⟨place, stop, hstops⟩ := exists_stopsAt hmem hfails
    obtain ⟨failure, hfailure⟩ := hstops.fails
    obtain ⟨first, other, hfirst⟩ := exists_firstAt hmem hfails
    have hanswer := checkRules_of_first hbody hfirst
    rw [← hchecked] at hanswer
    rw [putFilters_of_stopsAt hbody hstops hfailure] at hput
    constructor
    · refine iff_of_false ?_ ?_
      · intro hwell
        obtain ⟨message, hwell⟩ := hwell
        rcases hanswer with hcrash | ⟨reason, -, hreason⟩
        · rw [hcrash] at hwell
          cases hwell
        · rw [hreason] at hwell
          cases hwell
      · intro hsuccess
        rw [hput] at hsuccess
        cases failure <;> cases hsuccess
    · intro hrejected
      cases failure with
      | configuration cause =>
          have hmessage : Rejects stop cause.message := rejects_iff.2 ⟨cause, hfailure, rfl⟩
          refine ⟨place, stop, cause.message, hstops, hmessage, hput, ?_⟩
          rcases hanswer with hcrash | ⟨reason, hreason, hanswer⟩
          · exact Or.inl (by rw [hcrash]; rfl)
          · refine Or.inr ⟨first, other, reason, hstops.le hfirst, ?_, hreason, hanswer⟩
            refine hfirst.strengthen ?_ ⟨reason, hreason⟩
            intro value hrejects
            obtain ⟨reason, hreason⟩ := hrejects
            obtain ⟨cause, hcause, -⟩ := rejects_iff.1 hreason
            exact ⟨_, hcause⟩
      | _ =>
          rw [hput] at hrejected
          cases hrejected
  · have hbuilt : ∀ rule ∈ rules, ¬ FailsOn ruleOf rule := by
      intro rule hmem hfails
      exact hbad ⟨rule, hmem, hfails⟩
    have hstatus : put.status = 200 := by
      rw [hput, putFilters_of_built hbody hbuilt]
    have hwell : checked = .okay Verdict.success.toJson := by
      simp only [hchecked, checkRules, hbody, checkEach_of_built hbuilt 0]
    refine ⟨iff_of_true ⟨"", hwell⟩ hstatus, ?_⟩
    intro hrejected
    omega

/-- A rule that cannot be built, before one that cannot be read. -/
def faultyRules : List Json := [.object [], .object [("bogus", .null)]]

theorem faultyRules_agree :
    let body := some (Json.object [("rules", .list faultyRules)])
    let checked := (clean.respond ⟨"POST", checkPath, body⟩).2.1
    let put := (clean.respond ⟨"PUT", filtersPath, body⟩).2.1
    put = .detail 400 "Unknown rule fields: bogus" ∧
      (checked.status = 500 ∨
        checked = .okay (Verdict.toJson
          ⟨false, "rule 0: A filter rule must govern at least one axis"⟩)) := by
  intro body checked put
  have hnoAxis : ruleOf (.object []) = .error (.configuration .noAxis) := by cbv
  have hreadable : configOf (.object []) = .ok ⟨.wildcard, [], "", none⟩ := by cbv
  have hbogus : configOf (.object [("bogus", .null)]) =
      .error (.configuration (.unknownRuleFields ["bogus"])) := by cbv
  have hunbuilt : ruleOf (.object [("bogus", .null)]) =
      .error (.configuration (.unknownRuleFields ["bogus"])) := by
    rw [ruleOf, hbogus]
    rfl
  have hobjects : ∀ rule ∈ faultyRules, ∃ members, rule = .object members := by
    simp [faultyRules]
  have hnot : ¬ FailsOn configOf (.object []) := by
    intro hfails
    obtain ⟨failure, hfailure⟩ := hfails
    rw [hreadable] at hfailure
    cases hfailure
  have hstops : StopsAt faultyRules 1 (.object [("bogus", .null)]) :=
    Or.inl (.tail hnot (.head ⟨_, hbogus⟩))
  have hput : put = .detail 400 "Unknown rule fields: bogus" :=
    putFilters_of_stopsAt (rulesBody_of_objects rfl hobjects) hstops hunbuilt clean
  have hstatus : put.status = 400 := by
    rw [hput]
    rfl
  obtain ⟨-, hrejected⟩ :=
    @check_agrees_with_put clean [("rules", .list faultyRules)] _ rfl hobjects
  obtain ⟨place, stop, message, -, -, -, hanswer⟩ := hrejected hstatus
  refine ⟨hput, ?_⟩
  rcases hanswer with hcrash | ⟨first, other, reason, -, hfirst, hreason, hchecked⟩
  · exact Or.inl hcrash
  · cases hfirst with
    | head _ =>
        obtain ⟨cause, hcause, rfl⟩ := rejects_iff.1 hreason
        rw [hnoAxis] at hcause
        cases hcause
        exact Or.inr hchecked
    | tail hother _ => exact absurd ⟨_, rejects_iff.2 ⟨_, hnoAxis, rfl⟩⟩ hother

end State

end Service

end RefFilter
