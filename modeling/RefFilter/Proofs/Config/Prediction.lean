import RefFilter.Proofs.Config.Readers
import RefFilter.Proofs.Regex.Literal

/-! # What the check of an expression predicts

An expression can be checked by itself before it is put into a rule. In the rule a blank one is
replaced, but a blank text and what replaces it can both be read; any other expression is compiled
as it stands, and what stops it stops the rule. So the check of the expression tells in advance what
the check of the rule will say, in whichever form the rule is written.
-/

namespace RefFilter

open Regex Text

def Accepted (result : Except Failure Verdict) : Prop :=
  ∃ verdict, result = .ok verdict ∧ verdict.ok = true

/-- The check of an expression tells the result of a check: both accept, or both reject, the second
with the expression quoted before the message of the first, or both fail alike. -/
structure Predicts (source : String) (result : Except Failure Verdict) : Prop where
  accepts : Accepted (checkPattern source) ↔ Accepted result
  rejects : ∀ verdict, checkPattern source = .ok verdict → verdict.ok = false →
    result = .ok (.failure
      ("Invalid regular expression " ++ quote source ++ ": " ++ verdict.message))
  fails : ∀ failure, checkPattern source = .error failure ↔ result = .error failure

/-! ## The check of an expression -/

theorem checkPattern_of_parse_ok {source : String} {regex : Regex}
    (h : Regex.parse [] source = .ok regex) : checkPattern source = .ok .success := by
  rw [checkPattern, Matcher.ofRegex, h]

theorem checkPattern_of_fault {source : String} {fault : Fault}
    (h : Regex.parse [] source = .error (.fault fault)) :
    checkPattern source = .ok (.failure (fault.report source)) := by
  rw [checkPattern, Matcher.ofRegex, h]
  rfl

section Predicts

variable {source : String}

theorem predicts_success (h : checkPattern source = .ok .success) :
    Predicts source (.ok .success) where
  accepts := by rw [h]
  rejects := by
    intro verdict hverdict hrejected
    rw [h] at hverdict
    obtain rfl := Except.ok.inj hverdict
    cases hrejected
  fails := by simp [h]

theorem predicts_rejection {message : String} (h : checkPattern source = .ok (.failure message)) :
    Predicts source
      (.ok (.failure ("Invalid regular expression " ++ quote source ++ ": " ++ message))) where
  accepts := by simp [h, Accepted, Verdict.failure]
  rejects := by
    intro verdict hverdict _
    rw [h] at hverdict
    obtain rfl := Except.ok.inj hverdict
    rfl
  fails := by simp [h]

theorem predicts_failure {failure : Failure} (h : checkPattern source = .error failure) :
    Predicts source (.error failure) where
  accepts := by simp [h, Accepted]
  rejects := by simp [h]
  fails := by simp [h]

end Predicts

namespace RuleConfig

/-! ## Rules of one expression -/

/-- The configuration of a rule that has nothing but an expression for one axis. -/
def single (axis : Axis) (source name : String) (profile : Option String) : RuleConfig :=
  ⟨.regex, [(axis, .ofRegex (some source))], name, profile⟩

section Single

variable {axis : Axis} {source name : String} {profile : Option String}

theorem distinct_single : ((single axis source name profile).sections.map Prod.fst).Nodup :=
  List.nodup_singleton axis

theorem exists_build_single {regex : Regex} (h : Regex.parse [] source = .ok regex) :
    ∃ rule, (single axis source name profile).build = .ok rule := by
  apply (exists_build_iff distinct_single).2
  refine ⟨rfl, fun _ entry hmem other hother _ => ?_⟩
  obtain rfl := List.mem_singleton.1 hmem
  obtain rfl : source = other := Option.some.inj hother
  exact ⟨regex, h⟩

/-- What cannot be read is not blank, so it is compiled as it stands. -/
theorem expression_of_unreadable {error : ReadError} (h : Regex.parse [] source = .error error) :
    expression (.ofRegex (some source)) = source := by
  have hfilled : isBlankText source ≠ true := by
    intro hblank
    obtain ⟨regex, hregex⟩ := exists_parse_of_blank hblank
    rw [hregex] at h
    cases h
  show (if isBlankText source = true then Section.matchAll else source) = source
  rw [if_neg hfilled]

theorem build_single_of_unreadable {error : ReadError}
    (h : Regex.parse [] source = .error error) :
    (single axis source name profile).build = .error (.ofPattern source error) := by
  have hexpression := expression_of_unreadable h
  have hparse : Regex.parse [] (expression (.ofRegex (some source))) = .error error := by
    rw [hexpression, h]
  have hfirst : FirstAt Faulty [(axis, .ofRegex (some source))] 0 (axis, .ofRegex (some source)) :=
    .head ⟨error, hparse⟩
  apply (build_eq_error_iff distinct_single).2
  right
  refine ⟨rfl, compileEntries_pairs_eq_error_iff.2 ⟨rfl, 0, _, error, hfirst, hparse, ?_⟩⟩
  rw [hexpression]

/-- A document that is read as such a configuration has the check that its expression predicts. -/
theorem predicts_of_single {value : Json}
    (hread : configOf value = .ok (single axis source name profile)) :
    Predicts source (check value).result := by
  have hrule : ruleOf value = (single axis source name profile).build := by
    rw [ruleOf, hread]
    rfl
  have hcheck := result_check value
  rw [hrule] at hcheck
  cases hparse : Regex.parse [] source with
  | ok regex =>
      obtain ⟨rule, hbuild⟩ := exists_build_single hparse
      rw [hbuild] at hcheck
      rw [hcheck]
      exact predicts_success (checkPattern_of_parse_ok hparse)
  | error error =>
      rw [build_single_of_unreadable hparse] at hcheck
      rw [hcheck]
      have hlimit (h : error.IsLimit) :=
        checkPattern_eq_error_iff.2 ⟨error, ⟨hparse, h⟩, rfl⟩
      cases error with
      | fault fault => exact predicts_rejection (checkPattern_of_fault hparse)
      | repeatTooLarge => exact predicts_failure (hlimit trivial)
      | tooManyDigits digits => exact predicts_failure (hlimit trivial)
      | alphabetConflict => exact predicts_failure (hlimit trivial)

end Single

/-! ## Documents of one expression -/

def branchSection (source : String) : Json :=
  .object [("policy", .text "regex"), ("branch", .object [("regex", .text source)])]

def branchField (source : String) : Json :=
  .object [("profile", .text "regex_branch"), ("branchRegex", .text source)]

theorem configOf_branchSection (source : String) :
    configOf (branchSection source) = .ok (single .branch source "" none) := by
  cbv

theorem configOf_branchField (source : String) :
    configOf (branchField source) = .ok (single .branch source "" (some "regex_branch")) := by
  let fields : List (String × Json) :=
    [("profile", .text "regex_branch"), ("branchRegex", .text source)]
  have hform : ofJson (branchField source) = ofFlatFields fields := rfl
  have hfind : Profile.find? "regex_branch" = some Profile.builtin[8] :=
    Profile.find?_of_label (List.getElem_mem _) List.mem_cons_self
  have hfields : ∀ field ∈ fields, field.1 ∉ metaFields →
      field.1 ∈ Profile.builtin[8].fieldNames ∧ field.2.IsTextOrNull := by
    simp only [fields, List.forall_mem_cons]
    refine ⟨fun hmeta => absurd (by decide) hmeta, fun _ => ⟨by decide, Or.inr ⟨source, rfl⟩⟩, ?_⟩
    simp
  rw [configOf, hform]
  apply ofFlatFields_eq_ok_iff.2
  exact ⟨Profile.builtin[8], "regex_branch", false, rfl, hfind, (fun _ h => nomatch h), rfl,
    (fun h => nomatch h), hfields, rfl⟩

/-- The check of an expression predicts the checks of both documents that put it into a rule on
branches: they accept exactly if it does, reject with its message where it rejects, and fail exactly
if it fails. A blank expression, which the rules replace, makes no difference. -/
theorem check_of_expression_predicts (source : String) :
    Predicts source (check (branchSection source)).result ∧
      Predicts source (check (branchField source)).result :=
  ⟨predicts_of_single (configOf_branchSection source),
    predicts_of_single (configOf_branchField source)⟩

end RuleConfig

end RefFilter
