import RefFilter.Proofs.Rule.Compilation
import RefFilter.Proofs.FilterSet.Split
import RefFilter.Proofs.Wildcard.Glob

/-! # Decisions that compile patterns on use

A decision can be taken from the patterns of a rule, each compiled where a name is first compared
with it, and from the names of a reference, each asked of it in turn. Every one of these steps can
fail. On a rule that was built none does, and the decision is the one that the guards of the rule
give: a regular expression has compiled when the rule was built, a wildcard pattern always compiles,
and a reference is asked only for names that it has. Two loops ask the rules of a set in order, one
for the decision, which notes an exclusion, and one for the truth value alone.
-/

namespace RefFilter

/-! ## Attempts -/

/-- Compile a pattern. The expression of a wildcard pattern is read like any other, so a fault in
it would be a failure. -/
def Pattern.attempt (pattern : Pattern) : Except Failure Matcher :=
  match pattern.dialect with
  | .regex => Matcher.ofRegex pattern.source
  | .wildcard =>
    let expression := Wildcard.translate pattern.source
    if expression.isEmpty then .ok ⟨pattern.source, .wildcard, expression, none⟩
    else
      match Regex.parse [.dotAll] expression with
      | .ok regex => .ok ⟨pattern.source, .wildcard, expression, some regex⟩
      | .error error => .error (.ofPattern expression error)

/-- Why a name is excluded, if it is. -/
def Pair.attempt (pair : Pair) (name : String) : Except Failure (Option Cause) :=
  pair.causeBy Pattern.attempt name

namespace Rule

def attemptCause (rule : Rule) :
    List (Axis × String) → Except Failure (Option (Axis × String × Cause))
  | [] => return none
  | (axis, name) :: rest =>
    match rule.guard? axis with
    | none => rule.attemptCause rest
    | some guard => do
      match ← guard.pair.attempt name with
      | some cause => return some (axis, name, cause)
      | none => rule.attemptCause rest

def attempt (rule : Rule) (reference : Reference) : Except Failure Decision := do
  let (category, names) ← reference.classify
  match ← rule.attemptCause names with
  | some (axis, name, cause) => return rule.exclusion axis name cause
  | none =>
    let reason :=
      if names.any fun (axis, _) => (rule.guard? axis).isSome then "admitted"
      else "abstains on " ++ category.name
    return ⟨false, rule.label, reason, none, none⟩

end Rule

namespace FilterSet

/-- The decision of the first of some rules that excludes a reference, which is noted, or its
admission. -/
def evaluateRules (reference : Reference) : List Rule → Traced Decision
  | [] => return admission
  | rule :: rest => do
    let decision ← rule.attempt reference
    if decision.excluded then
      Traced.note (.excluded reference.category reference.name decision.reason)
      return decision
    else evaluateRules reference rest

def evaluate (filters : FilterSet) (reference : Reference) : Traced Decision :=
  evaluateRules reference filters.rules

def attempt (filters : FilterSet) (reference : Reference) : Except Failure Decision :=
  (filters.evaluate reference).result

/-- Whether one of some rules excludes a reference. They are asked in order, up to the first that
does. -/
def anyExcludes (reference : Reference) : List Rule → Traced Bool
  | [] => return false
  | rule :: rest => do
    let decision ← rule.attempt reference
    if decision.excluded then return true else anyExcludes reference rest

end FilterSet

def Rule.anyAttempt (reference : Reference) (rules : List Rule) : Except Failure Bool :=
  (FilterSet.anyExcludes reference rules).result

/-! ## Compiled guards -/

/-- A guard is what its patterns compile to. -/
def Guard.Compiled (guard : Guard) : Prop := Guard.ofPair guard.pair = .ok guard

def Rule.Compiled (rule : Rule) : Prop := ∀ entry ∈ rule.guards, entry.2.Compiled

theorem Guard.pair_of_ofPair {policy : Policy} {pair : Pair} {guard : Guard}
    (hfits : pair.Fits policy) (hcompile : Guard.ofPair pair = .ok guard) : guard.pair = pair := by
  obtain ⟨⟨source, dialect⟩, excludes⟩ := pair
  cases policy with
  | regex =>
      obtain ⟨rfl, rfl⟩ : dialect = .regex ∧ excludes = none := hfits
      obtain ⟨matcher, hmatcher, rfl⟩ := map_eq_ok_iff.1 hcompile
      have hsource : matcher.source = source := by
        unfold Matcher.ofRegex at hmatcher
        split at hmatcher
        · obtain rfl := Except.ok.inj hmatcher
          rfl
        · cases hmatcher
      rw [Guard.pair, hsource, Pair.ofRegex]
  | wildcard =>
      obtain ⟨rfl, other, rfl⟩ : dialect = .wildcard ∧
          ∃ other, excludes = some ⟨other, .wildcard⟩ := hfits
      obtain rfl := Except.ok.inj hcompile
      rfl

namespace Rule

theorem compiled_of_forall₂ {policy : Policy} {pairs : List (Axis × Pair)}
    {guards : List (Axis × Guard)} (hfits : ∀ entry ∈ pairs, entry.2.Fits policy)
    (h : List.Forall₂ (fun pair guard => pair.1 = guard.1 ∧ Guard.ofPair pair.2 = .ok guard.2)
      pairs guards) : ∀ entry ∈ guards, entry.2.Compiled := by
  induction h with
  | nil => simp
  | @cons pair guard pairs guards hhead _ ih =>
      rw [List.forall_mem_cons] at hfits
      have hpair := Guard.pair_of_ofPair hfits.1 hhead.2
      have hcompiled : guard.2.Compiled := by
        rw [Guard.Compiled, hpair]
        exact hhead.2
      exact List.forall_mem_cons.2 ⟨hcompiled, ih hfits.2⟩

theorem compiled_of_build {policy : Json} {entries : List (String × Pair)} {name : String}
    {rule : Rule} (h : build policy entries name = .ok rule) : rule.Compiled := by
  obtain ⟨-, -, -, pairs, hpairs, hguards⟩ := build_eq_ok_iff.1 h
  have hfits := fits_of_readEntries hpairs
  exact compiled_of_forall₂ (fun entry hmem => hfits entry (mem_merge hmem))
    (compileEntries_eq_ok_iff.1 hguards)

end Rule

theorem RuleConfig.compiled_of_build {config : RuleConfig} {rule : Rule}
    (h : config.build = .ok rule) : rule.Compiled := by
  obtain ⟨-, -, hrule⟩ := bind_eq_ok_iff.1 h
  exact Rule.compiled_of_build hrule

/-! ## Attempts on compiled guards -/

theorem Pattern.attempt_wildcard (source : String) :
    attempt ⟨source, .wildcard⟩ = .ok (.ofWildcard source) := by
  have hparse := Matcher.parse_translate source
  by_cases hempty : (Wildcard.translate source).isEmpty = true
  · simp [attempt, Matcher.ofWildcard, Matcher.wildcardRegex?, hempty]
  · simp [attempt, Matcher.ofWildcard, Matcher.wildcardRegex?, hempty, hparse, Except.toOption]

theorem Guard.Compiled.attempt {guard : Guard} (h : guard.Compiled) (name : String) :
    guard.pair.attempt name = .ok (guard.cause? name) := by
  cases guard with
  | regex matcher =>
      obtain ⟨compiled, hcompiled, hguard⟩ := map_eq_ok_iff.1 h
      obtain rfl := Guard.regex.inj hguard
      -- Reading the expression again gives what was compiled when the rule was built.
      have hattempt : Pattern.attempt ⟨compiled.source, .regex⟩ = .ok compiled := hcompiled
      unfold Pair.attempt Pair.causeBy
      simp only [Guard.pair, Pair.ofRegex, hattempt, Guard.cause?]
      cases haccepts : compiled.accepts name <;> simp [bind, Except.bind, pure, Except.pure, haccepts]
  | wildcard includes excludes =>
      obtain ⟨hincludes, hexcludes⟩ := Guard.wildcard.inj (Except.ok.inj h)
      have hfirst := Pattern.attempt_wildcard includes.source
      have hsecond := Pattern.attempt_wildcard excludes.source
      dsimp only [Guard.pair, Pair.ofWildcards] at hincludes hexcludes
      rw [hincludes] at hfirst
      rw [hexcludes] at hsecond
      unfold Pair.attempt Pair.causeBy
      simp only [Guard.pair, Pair.ofWildcards, hfirst, hsecond, Guard.cause?]
      cases hin : includes.accepts name <;> cases hex : excludes.accepts name <;>
        simp [bind, Except.bind, pure, Except.pure, hin, hex]

namespace Rule

variable {rule : Rule}

theorem Compiled.guard? (h : rule.Compiled) {axis : Axis} {guard : Guard}
    (hguard : rule.guard? axis = some guard) : guard.Compiled :=
  h (axis, guard) (mem_of_lookup hguard)

theorem firstCause?_cons (rule : Rule) (axis : Axis) (name : String) (rest : List (Axis × String)) :
    rule.firstCause? ((axis, name) :: rest) =
      match (rule.guard? axis).bind (·.cause? name) with
      | some cause => some (axis, name, cause)
      | none => rule.firstCause? rest := by
  unfold firstCause?
  rw [List.findSome?_cons]
  dsimp only
  cases hguard : rule.guard? axis with
  | none => rfl
  | some guard =>
      rw [Option.bind_some, Option.bind_some]
      cases guard.cause? name <;> rfl

theorem Compiled.attemptCause (h : rule.Compiled) (names : List (Axis × String)) :
    rule.attemptCause names = .ok (rule.firstCause? names) := by
  induction names with
  | nil => rfl
  | cons entry rest ih =>
      obtain ⟨axis, name⟩ := entry
      rw [Rule.attemptCause, firstCause?_cons]
      cases hguard : rule.guard? axis with
      | none => exact ih
      | some guard =>
          have hcause := (h.guard? hguard).attempt name
          simp only [hcause, bind, Except.bind, Option.bind_some]
          cases guard.cause? name with
          | none => exact ih
          | some cause => rfl

theorem Compiled.attempt (h : rule.Compiled) (reference : Reference) :
    rule.attempt reference = .ok (rule.decide reference) := by
  rw [Rule.attempt, reference.classify_eq, decide]
  simp only [bind, Except.bind, h.attemptCause]
  cases rule.firstCause? reference.names <;> rfl

end Rule

namespace FilterSet

/-! ## Loops over compiled rules -/

/-- A decision of a compiled rule does not fail and notes nothing. -/
theorem bind_attempt {α : Type} {rule : Rule} (h : rule.Compiled) (reference : Reference)
    (next : Decision → Traced α) :
    (liftM (rule.attempt reference) : Traced Decision) >>= next = next (rule.decide reference) := by
  rw [h.attempt]
  exact Traced.bind_of_ok rfl

theorem evaluateRules_of_compiled {rules : List Rule} (h : ∀ rule ∈ rules, rule.Compiled)
    (reference : Reference) :
    evaluateRules reference rules =
      ⟨.ok (decide ⟨rules⟩ reference), eventsOf ⟨rules⟩ reference⟩ := by
  induction rules with
  | nil => rfl
  | cons rule rest ih =>
      rw [List.forall_mem_cons] at h
      rw [evaluateRules, bind_attempt h.1, eventsOf]
      cases hexcluded : (rule.decide reference).excluded with
      | true =>
          rw [decide_cons_of_excluded hexcluded, if_pos rfl, if_pos hexcluded]
          rfl
      | false =>
          rw [decide_cons_of_admitted hexcluded, if_neg Bool.false_ne_true, ih h.2]
          rfl

theorem evaluate_of_compiled {filters : FilterSet} (h : ∀ rule ∈ filters.rules, rule.Compiled)
    (reference : Reference) :
    filters.evaluate reference = ⟨.ok (filters.decide reference), filters.eventsOf reference⟩ :=
  evaluateRules_of_compiled h reference

/-- A decision from the patterns of compiled rules does not fail, and it is the decision of the
rules. -/
theorem attempt_of_compiled {filters : FilterSet} (h : ∀ rule ∈ filters.rules, rule.Compiled)
    (reference : Reference) : filters.attempt reference = .ok (filters.decide reference) :=
  congrArg Traced.result (evaluate_of_compiled h reference)

theorem anyExcludes_of_compiled {rules : List Rule} (h : ∀ rule ∈ rules, rule.Compiled)
    (reference : Reference) :
    anyExcludes reference rules = ⟨.ok (excludes ⟨rules⟩ reference), []⟩ := by
  induction rules with
  | nil => rfl
  | cons rule rest ih =>
      rw [List.forall_mem_cons] at h
      rw [anyExcludes, bind_attempt h.1, excludes_cons]
      cases hexcluded : (rule.decide reference).excluded with
      | true => rfl
      | false => exact ih h.2

end FilterSet

theorem Rule.anyAttempt_of_compiled {rules : List Rule} (h : ∀ rule ∈ rules, rule.Compiled)
    (reference : Reference) :
    anyAttempt reference rules = .ok (FilterSet.excludes ⟨rules⟩ reference) :=
  congrArg Traced.result (FilterSet.anyExcludes_of_compiled h reference)

end RefFilter
