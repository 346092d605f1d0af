import RefFilter.Proofs.Config.Document
import RefFilter.Proofs.Regex.Limits

/-! # Why a configuration is not built

Reading a configuration fails in one way only: the configuration is rejected. Building it can also
stop at a limit of an expression, and then it stops at the first of its expressions that does not
compile.
-/

namespace RefFilter

open Regex Text

/-! ## Rejections -/

/-- The operation fails only by rejecting a configuration. -/
def OnlyRejects {α : Type} (result : Except Failure α) : Prop :=
  ∀ failure, result = .error failure → ∃ cause, failure = .configuration cause

section OnlyRejects

variable {α β : Type} {first : Except Failure α} {next : α → Except Failure β}

theorem onlyRejects_ok (value : α) : OnlyRejects (.ok value : Except Failure α) :=
  fun _ h => nomatch h

theorem onlyRejects_rejection (cause : ConfigFailure) :
    OnlyRejects (.error (.configuration cause) : Except Failure α) :=
  fun _ h => ⟨cause, (Except.error.inj h).symm⟩

theorem OnlyRejects.bind (hfirst : OnlyRejects first) (hnext : ∀ value, OnlyRejects (next value)) :
    OnlyRejects (first >>= next) := by
  cases first with
  | error cause =>
      intro failure h
      obtain rfl := Except.error.inj h
      exact hfirst cause rfl
  | ok value => exact hnext value

theorem OnlyRejects.forM {items : List α} {check : α → Except Failure Unit}
    (h : ∀ item, OnlyRejects (check item)) : OnlyRejects (items.forM check) := by
  induction items with
  | nil => exact onlyRejects_ok ()
  | cons item rest ih => exact (h item).bind fun _ => ih

theorem OnlyRejects.result_bind {first : Traced α} {next : α → Traced β}
    (hfirst : OnlyRejects first.result) (hnext : ∀ value, OnlyRejects (next value).result) :
    OnlyRejects (first >>= next).result := by
  rw [Traced.result_bind]
  exact hfirst.bind hnext

theorem OnlyRejects.lift_bind {first : Except Failure α} {next : α → Traced β}
    (hfirst : OnlyRejects first) (hnext : ∀ value, OnlyRejects (next value).result) :
    OnlyRejects ((liftM first : Traced α) >>= next).result :=
  OnlyRejects.result_bind hfirst hnext

end OnlyRejects

theorem Policy.onlyRejects_ofJson (value : Json) : OnlyRejects (ofJson value) := by
  unfold ofJson
  split
  · split
    · exact onlyRejects_ok _
    · exact onlyRejects_rejection _
  · exact onlyRejects_rejection _

theorem Profile.onlyRejects_find (name : String) : OnlyRejects (find name) := by
  unfold find
  split
  · exact onlyRejects_ok _
  · exact onlyRejects_rejection _

theorem Section.onlyRejects_checkTexts (fields : List (String × Json)) :
    OnlyRejects (checkTexts fields) := by
  unfold checkTexts
  split
  · exact onlyRejects_ok _
  · exact onlyRejects_rejection _

theorem Section.onlyRejects_ofJson (value : Json) : OnlyRejects (ofJson value) := by
  unfold ofJson
  split
  · exact onlyRejects_ok _
  · split
    · unfold ofFields
      split
      · exact (onlyRejects_checkTexts _).bind fun _ => onlyRejects_ok _
      · exact onlyRejects_rejection _
    · exact onlyRejects_rejection _

namespace RuleConfig

theorem onlyRejects_textField (fields : List (String × Json)) (name : String) :
    OnlyRejects (textField fields name) := by
  unfold textField
  split
  · exact onlyRejects_ok _
  · exact onlyRejects_ok _
  · exact onlyRejects_ok _
  · exact onlyRejects_rejection _

theorem onlyRejects_legacyField (fields : List (String × Json)) :
    OnlyRejects (legacyField fields) := by
  unfold legacyField
  split
  · exact onlyRejects_ok _
  · exact onlyRejects_ok _
  · exact onlyRejects_rejection _

theorem onlyRejects_ofProfile (profile : Profile) (values : Values) (name : String)
    (legacy : Bool) : OnlyRejects (ofProfile profile values name legacy).result := by
  unfold ofProfile
  split
  · split
    · split
      · exact onlyRejects_rejection _
      · exact OnlyRejects.result_bind (onlyRejects_ok ()) fun _ => onlyRejects_ok _
    · exact onlyRejects_ok _
  · exact onlyRejects_rejection _

theorem onlyRejects_ofFlatFields (fields : List (String × Json)) :
    OnlyRejects (ofFlatFields fields).result := by
  refine OnlyRejects.lift_bind (Section.onlyRejects_checkTexts _) fun _ => ?_
  refine OnlyRejects.lift_bind (onlyRejects_legacyField _) fun legacy => ?_
  refine OnlyRejects.lift_bind (onlyRejects_textField _ _) fun profileName => ?_
  refine OnlyRejects.lift_bind (onlyRejects_textField _ _) fun name => ?_
  refine OnlyRejects.lift_bind (Profile.onlyRejects_find _) fun profile => ?_
  exact onlyRejects_ofProfile _ _ _ _

theorem onlyRejects_readSections (fields : List (String × Json)) (axes : List Axis) :
    OnlyRejects (readSections fields axes) := by
  induction axes with
  | nil => exact onlyRejects_ok _
  | cons axis rest ih =>
      unfold readSections
      split
      · exact ih
      · exact (Section.onlyRejects_ofJson _).bind fun _ => ih.bind fun _ => onlyRejects_ok _

theorem onlyRejects_ofSectionFields (fields : List (String × Json)) :
    OnlyRejects (ofSectionFields fields) := by
  unfold ofSectionFields
  split
  · refine (Policy.onlyRejects_ofJson _).bind fun policy => ?_
    refine (onlyRejects_readSections _ _).bind fun sections => ?_
    refine (onlyRejects_textField _ _).bind fun name => ?_
    exact (onlyRejects_textField _ _).bind fun profile => onlyRejects_ok _
  · exact onlyRejects_rejection _

/-- A document that is not read as the configuration of a rule is rejected. -/
theorem onlyRejects_ofJson (value : Json) : OnlyRejects (ofJson value).result := by
  unfold ofJson
  split
  · split
    · exact onlyRejects_ofFlatFields _
    · exact onlyRejects_ofSectionFields _
  · exact onlyRejects_rejection _

theorem onlyRejects_validate (config : RuleConfig) : OnlyRejects config.validate := by
  unfold validate
  split
  · exact onlyRejects_rejection _
  · refine OnlyRejects.forM fun entry => ?_
    dsimp only [checkSection]
    cases config.policy with
    | regex =>
        dsimp only
        split
        · exact onlyRejects_rejection _
        · exact onlyRejects_ok _
    | wildcard =>
        dsimp only
        split
        · exact onlyRejects_rejection _
        · exact onlyRejects_ok _

end RuleConfig

theorem FilterSetConfig.onlyRejects_ofJson (value : Json) : OnlyRejects (ofJson value).result := by
  have hrules (rules : List Json) : OnlyRejects (readRules rules).result := by
    induction rules with
    | nil => exact onlyRejects_ok _
    | cons rule rest ih =>
        refine OnlyRejects.result_bind (RuleConfig.onlyRejects_ofJson rule) fun _ => ?_
        exact OnlyRejects.result_bind ih fun _ => onlyRejects_ok _
  unfold ofJson
  split
  · split
    · exact onlyRejects_ok _
    · exact OnlyRejects.result_bind (hrules _) fun _ => onlyRejects_ok _
    · exact onlyRejects_rejection _
  · exact onlyRejects_rejection _

/-! ## Limits -/

/-- Reading stops at a limit, which is no fault of the expression. -/
def Regex.ReadError.IsLimit : ReadError → Prop
  | .fault _ => False
  | _ => True

/-- The failure of a text is a rejection exactly if reading it stops at no limit. -/
theorem Failure.ofPattern_cases (pattern : String) (error : ReadError) :
    (∃ cause, ofPattern pattern error = .configuration cause ∧ ¬ error.IsLimit) ∨
      (∀ cause, ofPattern pattern error ≠ .configuration cause) ∧ error.IsLimit := by
  cases error with
  | fault fault => exact Or.inl ⟨_, rfl, id⟩
  | repeatTooLarge => exact Or.inr ⟨(fun _ h => nomatch h), trivial⟩
  | tooManyDigits count => exact Or.inr ⟨(fun _ h => nomatch h), trivial⟩
  | alphabetConflict => exact Or.inr ⟨(fun _ h => nomatch h), trivial⟩

def StopsAtLimit (source : String) (limit : ReadError) : Prop :=
  Regex.parse [] source = .error limit ∧ limit.IsLimit

/-- The check of an expression fails only at a limit, and otherwise has a verdict. -/
theorem checkPattern_eq_error_iff {source : String} {failure : Failure} :
    checkPattern source = .error failure ↔
      ∃ limit, StopsAtLimit source limit ∧ failure = .ofPattern source limit := by
  unfold checkPattern Matcher.ofRegex StopsAtLimit
  cases hparse : Regex.parse [] source with
  | ok regex => simp
  | error error => cases error <;> simp [Failure.ofPattern, ReadError.IsLimit, eq_comm]

theorem Matcher.ofRegex_eq_error_iff {source : String} {failure : Failure} :
    ofRegex source = .error failure ↔
      ∃ error, Regex.parse [] source = .error error ∧ failure = .ofPattern source error := by
  unfold ofRegex
  cases Regex.parse [] source with
  | error error => simp [eq_comm]
  | ok regex => simp

theorem Guard.ofPair_eq_error_iff {pair : Pair} {failure : Failure} :
    ofPair pair = .error failure ↔
      pair.excludes = none ∧ Matcher.ofRegex pair.includes.source = .error failure := by
  unfold ofPair
  cases pair.excludes with
  | some pattern => simp
  | none => cases Matcher.ofRegex pair.includes.source <;> simp [Except.map]

namespace Rule

theorem compileEntries_eq_mapM (pairs : List (Axis × Pair)) :
    compileEntries pairs = pairs.mapM fun entry => (Guard.ofPair entry.2).map (entry.1, ·) := by
  induction pairs with
  | nil => rfl
  | cons head rest ih =>
      obtain ⟨axis, pair⟩ := head
      rw [compileEntries, List.mapM_cons, ← ih]
      cases Guard.ofPair pair with
      | error failure => rfl
      | ok guard => cases compileEntries rest <;> rfl

theorem build_eq_error_iff {policy : Policy} {entries : List (String × Pair)} {name : String}
    {pairs : List (Axis × Pair)} (hsome : entries ≠ []) (hread : readEntries policy entries = .ok pairs)
    {failure : Failure} :
    build (.text policy.name) entries name = .error failure ↔
      compileEntries (merge pairs) = .error failure := by
  unfold build
  rw [dif_pos hsome, Policy.ofJson_name]
  dsimp only
  split
  · rename_i other hother
    rw [hread] at hother
    cases hother
  · rename_i others hothers
    obtain rfl := Except.ok.inj (hread.symm.trans hothers)
    unfold ofPairs
    split
    · rename_i other hother
      rw [hother]
      simp
    · rename_i guards hguards
      simp [hguards]

end Rule

namespace RuleConfig

variable {config : RuleConfig}

def expression (texts : Section) : String := orIfBlank texts.regex Section.matchAll

/-- A section does not compile. -/
def Faulty (entry : Axis × Section) : Prop :=
  ∃ error, Regex.parse [] (expression entry.2) = .error error

/-- Building the rule of a configuration stops at a limit: the configuration is valid, and the first
of its expressions that does not compile stops there. -/
def StopsAt (config : RuleConfig) (limit : ReadError) : Prop :=
  config.validate = .ok () ∧ config.policy = .regex ∧ limit.IsLimit ∧
    ∃ place entry, FirstAt Faulty config.sections place entry ∧
      Regex.parse [] (expression entry.2) = .error limit

theorem build_eq_error_iff (hdistinct : (config.sections.map Prod.fst).Nodup) {failure : Failure} :
    config.build = .error failure ↔
      config.validate = .error failure ∨
        config.validate = .ok () ∧ Rule.compileEntries config.pairs = .error failure := by
  unfold build
  cases hvalid : config.validate with
  | error other => simp [bind, Except.bind]
  | ok done =>
      have hsome : config.entries ≠ [] := by
        simpa [entries] using (validate_eq_ok_iff.1 hvalid).1
      have hbuild := @Rule.build_eq_error_iff _ _ config.name _ hsome
        (readEntries_entries config) failure
      rw [merge_pairs hdistinct] at hbuild
      simpa [bind, Except.bind] using hbuild

def guardOf (policy : Policy) (entry : Axis × Section) : Except Failure (Axis × Guard) :=
  (Guard.ofPair (entry.2.pair policy)).map (entry.1, ·)

theorem guardOf_eq_error_iff {policy : Policy} {entry : Axis × Section} {failure : Failure} :
    guardOf policy entry = .error failure ↔
      policy = .regex ∧ ∃ error, Regex.parse [] (expression entry.2) = .error error ∧
        failure = .ofPattern (expression entry.2) error := by
  rw [guardOf, map_eq_error_iff, Guard.ofPair_eq_error_iff, ← Matcher.ofRegex_eq_error_iff]
  cases policy <;> simp [Section.pair, Pair.ofRegex, Pair.ofWildcards, expression]

theorem failsOn_guardOf {policy : Policy} (entry : Axis × Section) :
    FailsOn (guardOf policy) entry ↔ policy = .regex ∧ Faulty entry := by
  constructor
  · intro h
    obtain ⟨failure, hfailure⟩ := h
    obtain ⟨hpolicy, error, herror, -⟩ := guardOf_eq_error_iff.1 hfailure
    exact ⟨hpolicy, error, herror⟩
  · intro h
    obtain ⟨hpolicy, error, herror⟩ := h
    exact ⟨_, guardOf_eq_error_iff.2 ⟨hpolicy, error, herror, rfl⟩⟩

/-- The sections fail to compile as the first of them does that is faulty. -/
theorem compileEntries_pairs_eq_error_iff {failure : Failure} :
    Rule.compileEntries config.pairs = .error failure ↔
      config.policy = .regex ∧ ∃ place entry error, FirstAt Faulty config.sections place entry ∧
        Regex.parse [] (expression entry.2) = .error error ∧
        failure = .ofPattern (expression entry.2) error := by
  have hmapM : Rule.compileEntries config.pairs =
      config.sections.mapM (guardOf config.policy) := by
    rw [Rule.compileEntries_eq_mapM, pairs, List.mapM_map]
    rfl
  rw [hmapM, mapM_eq_error_iff]
  constructor
  · intro h
    obtain ⟨place, entry, hfirst, hfailure⟩ := h
    obtain ⟨hpolicy, error, herror, rfl⟩ := guardOf_eq_error_iff.1 hfailure
    refine ⟨hpolicy, place, entry, error, hfirst.congr ?_, herror, rfl⟩
    intro other _
    rw [failsOn_guardOf, and_iff_right hpolicy]
  · intro h
    obtain ⟨hpolicy, place, entry, error, hfirst, herror, rfl⟩ := h
    refine ⟨place, entry, hfirst.congr ?_, guardOf_eq_error_iff.2 ⟨hpolicy, error, herror, rfl⟩⟩
    intro other _
    rw [failsOn_guardOf, and_iff_right hpolicy]

/-- A configuration whose rule is not built is rejected, or it stops at a limit and is not. -/
theorem build_failure (hdistinct : (config.sections.map Prod.fst).Nodup) {failure : Failure}
    (h : config.build = .error failure) :
    (∃ cause, failure = .configuration cause) ∧ (∀ limit, ¬ config.StopsAt limit) ∨
      (∀ cause, failure ≠ .configuration cause) ∧ ∃ limit, config.StopsAt limit := by
  rcases (build_eq_error_iff hdistinct).1 h with hinvalid | ⟨hvalid, hcompile⟩
  · refine Or.inl ⟨onlyRejects_validate config failure hinvalid, ?_⟩
    intro limit hlimit
    rw [hlimit.1] at hinvalid
    cases hinvalid
  · obtain ⟨hpolicy, place, entry, error, hfirst, herror, rfl⟩ :=
      compileEntries_pairs_eq_error_iff.1 hcompile
    rcases Failure.ofPattern_cases (expression entry.2) error with
      ⟨cause, hcause, hfault⟩ | ⟨hnot, hlimit⟩
    · refine Or.inl ⟨⟨cause, hcause⟩, ?_⟩
      intro limit hstops
      obtain ⟨-, -, hlimit, _, _, hother, hparse⟩ := hstops
      obtain ⟨-, rfl⟩ := hother.unique hfirst
      obtain rfl := Except.error.inj (hparse.symm.trans herror)
      exact hfault hlimit
    · exact Or.inr ⟨hnot, error, hvalid, hpolicy, hlimit, place, entry, hfirst, herror⟩

theorem exists_failure_of_stopsAt (hdistinct : (config.sections.map Prod.fst).Nodup)
    {limit : ReadError} (h : config.StopsAt limit) : ∃ failure, config.build = .error failure := by
  obtain ⟨hvalid, hpolicy, -, place, entry, hfirst, hparse⟩ := h
  exact ⟨_, (build_eq_error_iff hdistinct).2 (Or.inr ⟨hvalid,
    compileEntries_pairs_eq_error_iff.2 ⟨hpolicy, place, entry, limit, hfirst, hparse, rfl⟩⟩)⟩

end RuleConfig

namespace RuleConfig

/-! ## Documents -/

def configOf (value : Json) : Except Failure RuleConfig := (ofJson value).result

def ruleOf (value : Json) : Except Failure Rule := configOf value >>= build

def Rejects (value : Json) (message : String) : Prop :=
  (check value).result = .ok (.failure message)

theorem failsOn_ruleOf {value : Json} (h : FailsOn configOf value) : FailsOn ruleOf value := by
  obtain ⟨failure, hfailure⟩ := h
  refine ⟨failure, ?_⟩
  rw [ruleOf, hfailure]
  rfl

theorem result_check (value : Json) :
    (check value).result =
      match ruleOf value with
      | .ok _ => .ok .success
      | .error (.configuration cause) => .ok (.failure cause.message)
      | .error failure => .error failure := by
  have hbuilt : ((do
      let config ← ofJson value
      config.build : Traced Rule)).result = ruleOf value := Traced.result_bind _ _
  unfold check
  dsimp only
  rw [hbuilt]
  cases ruleOf value with
  | ok rule => rfl
  | error failure => cases failure <;> rfl

theorem rejects_iff {value : Json} {message : String} :
    Rejects value message ↔
      ∃ cause, ruleOf value = .error (.configuration cause) ∧ cause.message = message := by
  rw [Rejects, result_check]
  cases ruleOf value with
  | ok rule => simp [Verdict.success, Verdict.failure]
  | error failure => cases failure <;> simp [Verdict.failure]

end RuleConfig

namespace FilterSetConfig

variable {config : FilterSetConfig}

/-- Building a filter set stops at a limit: the first rule that is not built stops there. -/
def StopsAt (config : FilterSetConfig) (limit : ReadError) : Prop :=
  ∃ place rule, FirstAt (FailsOn RuleConfig.build) config.rules place rule ∧ rule.StopsAt limit

theorem build_eq_error_iff {failure : Failure} :
    config.build = .error failure ↔
      ∃ place rule, FirstAt (FailsOn RuleConfig.build) config.rules place rule ∧
        rule.build = .error failure := by
  rw [← mapM_eq_error_iff, ← buildRules_eq_mapM, build, map_eq_error_iff]

/-- A configuration whose filter set is not built is rejected, or it stops at a limit and is not. -/
theorem build_failure (hwell : ∀ rule ∈ config.rules, rule.WellFormed) {failure : Failure}
    (h : config.build = .error failure) :
    (∃ cause, failure = .configuration cause) ∧ (∀ limit, ¬ config.StopsAt limit) ∨
      (∀ cause, failure ≠ .configuration cause) ∧ ∃ limit, config.StopsAt limit := by
  obtain ⟨place, rule, hfirst, hrule⟩ := build_eq_error_iff.1 h
  rcases RuleConfig.build_failure (hwell rule hfirst.mem).distinct hrule with
    ⟨hrejected, hnone⟩ | ⟨hnot, limit, hstops⟩
  · refine Or.inl ⟨hrejected, ?_⟩
    intro limit hstops
    obtain ⟨_, other, hother, hlimit⟩ := hstops
    obtain ⟨-, rfl⟩ := hfirst.unique hother
    exact hnone limit hlimit
  · exact Or.inr ⟨hnot, limit, place, rule, hfirst, hstops⟩

theorem exists_failure_of_stopsAt {limit : ReadError} (h : config.StopsAt limit) :
    ∃ failure, config.build = .error failure := by
  obtain ⟨place, rule, hfirst, -⟩ := h
  obtain ⟨failure, hfailure⟩ := hfirst.holds
  exact ⟨failure, build_eq_error_iff.2 ⟨place, rule, hfirst, hfailure⟩⟩

end FilterSetConfig

end RefFilter
