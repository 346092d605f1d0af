import RefFilter.Proofs.Config.Failure
import RefFilter.Proofs.Service.DryRun

/-! # Checks at the limits of expressions

A check turns a rejection into its verdict, and passes on what is none. What is passed on comes from
one place: an expression at which reading stops at a limit. So a check fails exactly on an expression
of this kind, or on a rule whose first expression that does not compile is of this kind, and a
request for a check is answered with 500 exactly if it asks for such a one. The text of the
expression accounts for the limit.
-/

namespace RefFilter

open Regex Text

namespace RuleConfig

/-- The configuration of a document is read, and building its rule stops at a limit. -/
def HitsLimit (value : Json) : Prop :=
  ∃ config limit, configOf value = .ok config ∧ config.StopsAt limit

/-- A document that no rule is built from is rejected, or it stops at a limit and is not. -/
theorem ruleOf_failure {value : Json} {failure : Failure} (h : ruleOf value = .error failure) :
    (∃ cause, failure = .configuration cause) ∧ ¬ HitsLimit value ∨
      (∀ cause, failure ≠ .configuration cause) ∧ HitsLimit value := by
  unfold ruleOf at h
  cases hread : configOf value with
  | error other =>
      rw [hread] at h
      obtain rfl := Except.error.inj h
      refine Or.inl ⟨onlyRejects_ofJson value other hread, ?_⟩
      intro hlimit
      obtain ⟨config, limit, hconfig, -⟩ := hlimit
      rw [hread] at hconfig
      cases hconfig
  | ok config =>
      rw [hread] at h
      rcases build_failure (wellFormed_of_ofJson hread).distinct h with
        ⟨hrejected, hnone⟩ | ⟨hnot, limit, hstops⟩
      · refine Or.inl ⟨hrejected, ?_⟩
        intro hlimit
        obtain ⟨other, limit, hother, hstops⟩ := hlimit
        obtain rfl := Except.ok.inj (hread.symm.trans hother)
        exact hnone limit hstops
      · exact Or.inr ⟨hnot, config, limit, hread, hstops⟩

theorem HitsLimit.failsOn {value : Json} (h : HitsLimit value) : FailsOn ruleOf value := by
  obtain ⟨config, limit, hread, hstops⟩ := h
  obtain ⟨failure, hbuild⟩ :=
    exists_failure_of_stopsAt (wellFormed_of_ofJson hread).distinct hstops
  exact ⟨failure, by rw [ruleOf, hread]; exact hbuild⟩

/-- The check of a rule fails only at a limit, and otherwise has a verdict. -/
theorem check_fails_iff {value : Json} :
    (∃ failure, (check value).result = .error failure) ↔ HitsLimit value := by
  rw [result_check]
  constructor
  · intro h
    obtain ⟨failure, hfailure⟩ := h
    cases hrule : ruleOf value with
    | ok rule =>
        rw [hrule] at hfailure
        cases hfailure
    | error other =>
        rcases ruleOf_failure hrule with ⟨⟨cause, rfl⟩, -⟩ | ⟨-, hlimit⟩
        · rw [hrule] at hfailure
          cases hfailure
        · exact hlimit
  · intro h
    obtain ⟨failure, hrule⟩ := h.failsOn
    rcases ruleOf_failure hrule with ⟨-, hnone⟩ | ⟨hnot, -⟩
    · exact absurd h hnone
    · rw [hrule]
      cases failure with
      | configuration cause => exact absurd rfl (hnot cause)
      | _ => exact ⟨_, rfl⟩

end RuleConfig

namespace Service

open RuleConfig

def checkExpressionPath : String := "/api/headfilter/check-regex"

namespace State

theorem respond_checkExpression (state : State) (body : Option Json) :
    (state.respond ⟨"POST", checkExpressionPath, body⟩).2.1 = checkExpression body := rfl

theorem respond_checkRules (state : State) (body : Option Json) :
    (state.respond ⟨"POST", checkPath, body⟩).2.1 = (checkRules body).1 := rfl

theorem checkExpression_status {body : Option Json} :
    (checkExpression body).status = 500 ↔
      ∃ source limit, expressionBody body = .ok source ∧ StopsAtLimit source limit := by
  unfold checkExpression
  cases expressionBody body with
  | error errors => simp [Reply.status]
  | ok source =>
      dsimp only
      cases hcheck : checkPattern source with
      | ok verdict =>
          refine iff_of_false (by simp [Reply.status, Reply.okay]) ?_
          intro h
          obtain ⟨other, limit, hother, hlimit⟩ := h
          obtain rfl := Except.ok.inj hother
          rw [checkPattern_eq_error_iff.2 ⟨limit, hlimit, rfl⟩] at hcheck
          cases hcheck
      | error failure =>
          obtain ⟨limit, hlimit, -⟩ := checkPattern_eq_error_iff.1 hcheck
          exact iff_of_true rfl ⟨source, limit, rfl, hlimit⟩

theorem checkRules_status {body : Option Json} :
    (checkRules body).1.status = 500 ↔
      ∃ rules place rule, rulesBody body = .ok rules ∧
        FirstAt (FailsOn ruleOf) rules place rule ∧ HitsLimit rule := by
  cases hbody : rulesBody body with
  | error errors =>
      rw [checkRules, hbody]
      simp [Reply.status]
  | ok rules =>
      by_cases hfails : ∃ rule ∈ rules, FailsOn ruleOf rule
      · obtain ⟨rule, hmem, hrule⟩ := hfails
        obtain ⟨place, first, hfirst⟩ := exists_firstAt hmem hrule
        -- The rules before the first one that is not built have verdicts, and no rule after it is
        -- checked.
        have heach := checkEach_of_first hfirst 0
        have hlimit : (checkRules body).1.status = 500 ↔ HitsLimit first := by
          rw [← check_fails_iff]
          simp only [checkRules, hbody, heach]
          cases (RuleConfig.check first).result with
          | ok verdict => simp [Except.map, Reply.status, Reply.okay]
          | error failure => simp [Except.map, Reply.status]
        rw [hlimit]
        constructor
        · intro h
          exact ⟨rules, place, first, rfl, hfirst, h⟩
        · intro h
          obtain ⟨others, _, other, hothers, hother, h⟩ := h
          obtain rfl := Except.ok.inj hothers
          obtain ⟨-, rfl⟩ := hfirst.unique hother
          exact h
      · have hbuilt : ∀ rule ∈ rules, ¬ FailsOn ruleOf rule := fun rule hmem hrule =>
          hfails ⟨rule, hmem, hrule⟩
        refine iff_of_false ?_ ?_
        · simp [checkRules, hbody, checkEach_of_built hbuilt 0, Reply.status, Reply.okay]
        · intro h
          obtain ⟨others, _, other, hothers, hother, -⟩ := h
          obtain rfl := Except.ok.inj hothers
          exact hbuilt other hother.mem hother.holds

/-- Checks fail only at limits of expressions: the check of an expression exactly if reading it stops
at one, that of a rule exactly if it is read and the first of its expressions that does not compile
stops at one. Requests for checks are answered with 500 exactly if the expression, or the first rule
that is not built, is of this kind. Every limit is accounted for: by a count in the text that is too
large or has too many digits, or by the letters of both alphabets. -/
theorem checks_fail_only_at_limits (state : State) (source : String) (value : Json)
    (body : Option Json) :
    (∀ failure, checkPattern source = .error failure ↔
      ∃ limit, StopsAtLimit source limit ∧ failure = .ofPattern source limit) ∧
    ((∃ failure, (RuleConfig.check value).result = .error failure) ↔ HitsLimit value) ∧
    ((state.respond ⟨"POST", checkExpressionPath, body⟩).2.1.status = 500 ↔
      ∃ asked limit, expressionBody body = .ok asked ∧ StopsAtLimit asked limit) ∧
    ((state.respond ⟨"POST", checkPath, body⟩).2.1.status = 500 ↔
      ∃ rules place rule, rulesBody body = .ok rules ∧
        FirstAt (FailsOn ruleOf) rules place rule ∧ HitsLimit rule) ∧
    ∀ limit, StopsAtLimit source limit → limit.Explained [] source.toList := by
  refine ⟨fun _ => checkPattern_eq_error_iff, check_fails_iff, ?_, ?_, ?_⟩
  · rw [respond_checkExpression, checkExpression_status]
  · rw [respond_checkRules, checkRules_status]
  · intro limit hlimit
    exact explained_of_parse hlimit.1

def bothAlphabets : String := "(?a)(?u)"

theorem checking_bothAlphabets_fails :
    StopsAtLimit bothAlphabets .alphabetConflict ∧
    checkPattern bothAlphabets = .error .alphabetConflict ∧
    Asked [] bothAlphabets.toList .ascii ∧ Asked [] bothAlphabets.toList .unicode := by
  have hstops : StopsAtLimit bothAlphabets .alphabetConflict := ⟨by cbv, trivial⟩
  obtain ⟨hcheck, -, -, -, hexplained⟩ := checks_fail_only_at_limits clean bothAlphabets .null none
  exact ⟨hstops, (hcheck _).2 ⟨_, hstops, rfl⟩, hexplained _ hstops⟩

def largeCount : String := "a\x7b4294967295\x7d"

def largeCountRule : Json :=
  .object [("policy", .text "regex"), ("tag", .object [("regex", .text largeCount)])]

/-- The checks of the expression and of the rule fail, and so do requests for them, although their
bodies have the shape of their kinds. -/
theorem checking_largeCount_fails :
    checkPattern largeCount = .error .repeatTooLarge ∧
    (RuleConfig.check largeCountRule).result = .error .repeatTooLarge ∧
    (clean.respond ⟨"POST", checkExpressionPath,
      some (.object [("value", .text largeCount)])⟩).2.1.status = 500 ∧
    (clean.respond ⟨"POST", checkPath,
      some (.object [("rules", .list [largeCountRule])])⟩).2.1.status = 500 := by
  have hparse : Regex.parse [] largeCount = .error .repeatTooLarge := by cbv
  have hcheck : checkPattern largeCount = .error .repeatTooLarge :=
    checkPattern_eq_error_iff.2 ⟨_, ⟨hparse, trivial⟩, rfl⟩
  let entry : Axis × Section := (.tag, ⟨none, none, some largeCount⟩)
  have hread : configOf largeCountRule = .ok ⟨.regex, [entry], "", none⟩ := by cbv
  have hexpression : expression entry.2 = largeCount := by
    have hgiven : isBlankText largeCount = false := by cbv
    simp only [expression, entry, orIfBlank, hgiven]
    rfl
  have hsection : Regex.parse [] (expression entry.2) = .error .repeatTooLarge := by
    rw [hexpression]
    exact hparse
  have hfirst : FirstAt Faulty [entry] 0 entry := .head ⟨_, hsection⟩
  have hcompile : Rule.compileEntries (RuleConfig.pairs ⟨.regex, [entry], "", none⟩) =
      .error .repeatTooLarge :=
    compileEntries_pairs_eq_error_iff.2 ⟨rfl, 0, entry, .repeatTooLarge, hfirst, hsection, rfl⟩
  have hbuild : RuleConfig.build ⟨.regex, [entry], "", none⟩ = .error .repeatTooLarge :=
    (build_eq_error_iff (by simp)).2 (Or.inr ⟨rfl, hcompile⟩)
  have hrule : ruleOf largeCountRule = .error .repeatTooLarge := by
    rw [ruleOf, hread]
    exact hbuild
  have hresult : (RuleConfig.check largeCountRule).result = .error .repeatTooLarge := by
    rw [result_check, hrule]
  refine ⟨hcheck, hresult, ?_, ?_⟩
  · rw [respond_checkExpression, checkExpression_status]
    exact ⟨largeCount, .repeatTooLarge, rfl, hparse, trivial⟩
  · rw [respond_checkRules, checkRules_status]
    exact ⟨[largeCountRule], 0, largeCountRule, rfl, .head ⟨_, hrule⟩,
      check_fails_iff.1 ⟨_, hresult⟩⟩

end State

end Service

end RefFilter
