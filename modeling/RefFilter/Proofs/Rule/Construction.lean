import RefFilter.Proofs.Config.Failure
import RefFilter.Proofs.FilterSet.Composition

/-! # Building rules from patterns

The patterns for an axis are admissible under a policy if they have the dialects of the policy and
if they compile. Of entries for distinct axes a rule is built exactly if there are any, the policy
and the axes are known, and all patterns are admissible. The rule then has the patterns of the
entries, and a decision taken from them never fails: what could fail has failed when the rule was
built.
-/

namespace RefFilter

theorem Axis.ofName?_eq_some_iff {text : String} {axis : Axis} :
    ofName? text = some axis ↔ text = axis.name := by
  constructor
  · intro h
    unfold ofName? at h
    split at h <;> cases h <;> rfl
  · rintro rfl
    exact ofName?_name axis

theorem Policy.ofJson_eq_ok_iff {value : Json} {policy : Policy} :
    ofJson value = .ok policy ↔ value = .text policy.name := by
  constructor
  · intro h
    unfold ofJson at h
    split at h
    · rename_i text
      cases hname : ofName? text with
      | none => simp [hname] at h
      | some known =>
          obtain rfl : known = policy := by simpa [hname] using h
          unfold ofName? at hname
          split at hname <;> cases hname <;> rfl
    · cases h
  · rintro rfl
    exact ofJson_name policy

/-! ## Admissible patterns -/

/-- The patterns for an axis have the dialects of a policy, and they compile: under the regex policy
there is one regular expression, which is read without a fault, and under the wildcard policy there
are two wildcard patterns. -/
def Pair.Admissible (policy : Policy) (pair : Pair) : Prop :=
  match policy with
  | .regex =>
      pair.includes.dialect = .regex ∧ pair.excludes = none ∧
        ∃ regex, Regex.parse [] pair.includes.source = .ok regex
  | .wildcard =>
      pair.includes.dialect = .wildcard ∧
        ∃ pattern, pair.excludes = some pattern ∧ pattern.dialect = .wildcard

theorem Matcher.exists_ofRegex_iff {source : String} :
    (∃ matcher, ofRegex source = .ok matcher) ↔ ∃ regex, Regex.parse [] source = .ok regex := by
  unfold ofRegex
  cases Regex.parse [] source <;> simp

theorem Pair.admissible_iff {policy : Policy} {pair : Pair} :
    pair.Admissible policy ↔ pair.Fits policy ∧ ∃ guard, Guard.ofPair pair = .ok guard := by
  obtain ⟨⟨source, dialect⟩, excludes⟩ := pair
  cases policy with
  | regex =>
      cases excludes with
      | none =>
          simp [Admissible, Fits, Policy.dialect, Guard.ofPair, map_eq_ok_iff,
            ← Matcher.exists_ofRegex_iff]
      | some pattern => simp [Admissible, Fits]
  | wildcard =>
      obtain _ | ⟨other, dialect'⟩ := excludes
      · simp [Admissible, Fits]
      · simp [Admissible, Fits, Policy.dialect, Guard.ofPair]

namespace Rule

def pair? (rule : Rule) (axis : Axis) : Option Pair := (rule.guard? axis).map Guard.pair

/-! ## Entries -/

def named (entry : Axis × Pair) : String × Pair := (entry.1.name, entry.2)

theorem readEntries_iff_named {policy : Policy} {entries : List (String × Pair)}
    {pairs : List (Axis × Pair)} :
    readEntries policy entries = .ok pairs ↔
      entries = pairs.map named ∧ ∀ entry ∈ pairs, entry.2.Fits policy := by
  rw [readEntries_eq_ok_iff]
  constructor
  · intro h
    induction h with
    | nil => simp
    | @cons entry pair entries pairs hhead _ ih =>
        obtain ⟨haxis, hpair, hfits⟩ := hhead
        have hname : entry = named pair := Prod.ext (Axis.ofName?_eq_some_iff.1 haxis) hpair
        rw [List.map_cons, hname, ih.1, List.forall_mem_cons]
        exact ⟨rfl, hfits, ih.2⟩
  · intro h
    rw [h.1, List.forall₂_map_left_iff, List.forall₂_same]
    intro entry hmem
    exact ⟨entry.1.ofName?_name, rfl, h.2 entry hmem⟩

section Distinct

variable {policy : Json} {entries : List (String × Pair)} {name : String} {rule : Rule}

theorem distinct_of_named {pairs : List (Axis × Pair)}
    (hdistinct : ((pairs.map named).map Prod.fst).Nodup) : (pairs.map Prod.fst).Nodup := by
  apply List.Nodup.of_map Axis.name
  rw [List.map_map] at hdistinct ⊢
  exact hdistinct

/-- A rule of entries for distinct axes has their patterns, compiled one for one. -/
theorem build_eq_ok_iff_named (hdistinct : (entries.map Prod.fst).Nodup) :
    build policy entries name = .ok rule ↔
      entries ≠ [] ∧ policy = .text rule.policy.name ∧ rule.name = name ∧
        ∃ pairs, entries = pairs.map named ∧ (∀ entry ∈ pairs, entry.2.Fits rule.policy) ∧
          compileEntries pairs = .ok rule.guards := by
  rw [build_eq_ok_iff, Policy.ofJson_eq_ok_iff]
  refine and_congr_right fun _ => and_congr_right fun _ => and_congr_right fun _ => ?_
  refine exists_congr fun pairs => ?_
  rw [readEntries_iff_named, and_assoc]
  refine and_congr_right fun hnamed => and_congr_right fun _ => ?_
  rw [merge_of_distinct (distinct_of_named (hnamed ▸ hdistinct))]

theorem exists_compileEntries_iff {pairs : List (Axis × Pair)} :
    (∃ guards, compileEntries pairs = .ok guards) ↔
      ∀ entry ∈ pairs, ∃ guard, Guard.ofPair entry.2 = .ok guard := by
  constructor
  · intro h entry hmem
    obtain ⟨guards, hguards⟩ := h
    obtain ⟨guard, -, -, hguard⟩ := exists_of_forall₂ (compileEntries_eq_ok_iff.1 hguards) hmem
    exact ⟨guard.2, hguard⟩
  · exact RuleConfig.exists_compileEntries

/-- A rule has, for the axis of every entry, the patterns of the entry. -/
theorem pair?_of_compileEntries {pairs : List (Axis × Pair)}
    (hdistinct : (pairs.map Prod.fst).Nodup)
    (hfits : ∀ entry ∈ pairs, entry.2.Fits rule.policy)
    (hcompile : compileEntries pairs = .ok rule.guards) :
    ∀ entry ∈ pairs, rule.pair? entry.1 = some entry.2 := by
  intro entry hmem
  have hlookup : pairs.lookup entry.1 = some entry.2 := lookup_of_mem hdistinct hmem
  have hrel : Option.Rel (fun pair guard => Guard.ofPair pair = .ok guard)
      (pairs.lookup entry.1) (rule.guards.lookup entry.1) :=
    lookup_rel (compileEntries_eq_ok_iff.1 hcompile) entry.1
  rw [hlookup] at hrel
  rw [pair?, guard?]
  generalize rule.guards.lookup entry.1 = found at hrel
  cases hrel with
  | @some _ guard hguard =>
      have hpair := Guard.pair_of_ofPair (hfits entry hmem) hguard
      rw [Option.map_some, hpair]

/-- Entries that name distinct axes and fit a policy make a rule of what they compile to. -/
theorem exists_build_of_compileEntries {known : Policy} {pairs : List (Axis × Pair)}
    {guards : List (Axis × Guard)} (hdistinct : (pairs.map Prod.fst).Nodup) (hsome : pairs ≠ [])
    (hfits : ∀ entry ∈ pairs, entry.2.Fits known) (hguards : compileEntries pairs = .ok guards) :
    ∃ rule, build (.text known.name) (pairs.map named) name = .ok rule ∧ rule.guards = guards := by
  have hread : readEntries known (pairs.map named) = .ok pairs :=
    readEntries_iff_named.2 ⟨rfl, hfits⟩
  have hmerge : merge pairs = pairs := merge_of_distinct hdistinct
  have hsome' : pairs.map named ≠ [] := by simpa using hsome
  cases hbuild : build (.text known.name) (pairs.map named) name with
  | ok rule =>
      obtain ⟨-, hpolicy, -, pairs', hread', hcompile⟩ := build_eq_ok_iff.1 hbuild
      rw [Policy.ofJson_name, Except.ok.injEq] at hpolicy
      rw [← hpolicy, hread, Except.ok.injEq] at hread'
      rw [← hread', hmerge, hguards, Except.ok.injEq] at hcompile
      exact ⟨rule, rfl, hcompile.symm⟩
  | error failure =>
      -- Only the compilation could have failed.
      have hfailure := (build_eq_error_iff hsome' hread).1 hbuild
      rw [hmerge, hguards] at hfailure
      cases hfailure

/-- The same for patterns and guards that are made from the values of axes. -/
theorem exists_build_of_guards {α : Type} {known : Policy} {values : List (Axis × α)}
    {pairOf : α → Pair} {guardOf : α → Guard} (hdistinct : (values.map Prod.fst).Nodup)
    (hsome : values ≠ []) (hfits : ∀ value, (pairOf value).Fits known)
    (hguards : ∀ value, Guard.ofPair (pairOf value) = .ok (guardOf value)) (label : String) :
    ∃ rule, build (.text known.name)
        (values.map fun value => (value.1.name, pairOf value.2)) label = .ok rule ∧
      rule.guards = values.map fun value => (value.1, guardOf value.2) := by
  let pairs := values.map fun value => (value.1, pairOf value.2)
  have hnamed : pairs.map named = values.map fun value => (value.1.name, pairOf value.2) := by
    simp [pairs, named, Function.comp_def]
  have hcompile :
      compileEntries pairs = .ok (values.map fun value => (value.1, guardOf value.2)) := by
    rw [compileEntries_eq_ok_iff, List.forall₂_map_left_iff, List.forall₂_map_right_iff,
      List.forall₂_same]
    intro value _
    exact ⟨rfl, hguards value.2⟩
  have hkeys : (pairs.map Prod.fst).Nodup := by
    simpa [pairs, Function.comp_def] using hdistinct
  have hfitting : ∀ entry ∈ pairs, entry.2.Fits known := by
    rw [List.forall_mem_map]
    intro value _
    exact hfits value.2
  rw [← hnamed]
  exact exists_build_of_compileEntries hkeys (by simpa [pairs] using hsome) hfitting hcompile

def expressions {α : Type} (expressionOf : α → String) (values : List (Axis × α)) :
    List (String × Pair) :=
  values.map fun value => (value.1.name, .ofRegex (expressionOf value.2))

theorem exists_build_expressions {α : Type} {values : List (Axis × α)} {expressionOf : α → String}
    {matcherOf : α → Matcher} (hdistinct : (values.map Prod.fst).Nodup) (hsome : values ≠ [])
    (hmatcher : ∀ value, Matcher.ofRegex (expressionOf value) = .ok (matcherOf value))
    (label : String) :
    ∃ rule, build (.text "regex") (expressions expressionOf values) label = .ok rule ∧
      rule.guards = values.map fun value => (value.1, .regex (matcherOf value.2)) := by
  have hfits (value : α) : (Pair.ofRegex (expressionOf value)).Fits .regex := ⟨rfl, rfl⟩
  have hguard (value : α) : Guard.ofPair (.ofRegex (expressionOf value)) =
      .ok (.regex (matcherOf value)) := by
    show (Matcher.ofRegex (expressionOf value)).map Guard.regex = _
    rw [hmatcher]
    rfl
  exact exists_build_of_guards hdistinct hsome hfits hguard label

/-- Entries that name their axes and whose patterns are admissible make a rule. -/
theorem exists_build_of_admissible {known : Policy} (hdistinct : (entries.map Prod.fst).Nodup)
    (hsome : entries ≠ [])
    (h : ∀ entry ∈ entries, (∃ axis : Axis, entry.1 = axis.name) ∧ entry.2.Admissible known) :
    ∃ rule, build (.text known.name) entries name = .ok rule := by
  obtain ⟨pairs, rfl⟩ : ∃ pairs : List (Axis × Pair), pairs.map named = entries := by
    have hrange : entries ∈ Set.range (List.map named) := by
      rw [Set.range_list_map]
      intro entry hmem
      obtain ⟨axis, haxis⟩ := (h entry hmem).1
      exact ⟨(axis, entry.2), Prod.ext haxis.symm rfl⟩
    exact hrange
  have hadmissible : ∀ entry ∈ pairs,
      entry.2.Fits known ∧ ∃ guard, Guard.ofPair entry.2 = .ok guard := by
    intro entry hmem
    exact Pair.admissible_iff.1 (h (named entry) (List.mem_map_of_mem hmem)).2
  obtain ⟨guards, hguards⟩ : ∃ guards, compileEntries pairs = .ok guards :=
    exists_compileEntries_iff.2 fun entry hmem => (hadmissible entry hmem).2
  obtain ⟨rule, hrule, -⟩ := exists_build_of_compileEntries (distinct_of_named hdistinct)
    (by simpa using hsome) (fun entry hmem => (hadmissible entry hmem).1) hguards
  exact ⟨rule, hrule⟩

/-! ## Where a rule can fail -/

/-- Of entries for distinct axes a rule is built exactly if there are any, the policy is one of the
two, every axis is one of the four, and the patterns of every entry are admissible under the policy.
A rule that is built has the patterns of the entries, and a decision that compiles them on use never
fails, whatever the reference: it is the decision of the rule. -/
theorem build_alone_can_fail (hdistinct : (entries.map Prod.fst).Nodup) :
    ((∃ rule, build policy entries name = .ok rule) ↔
      entries ≠ [] ∧ ∃ known : Policy, policy = .text known.name ∧
        ∀ entry ∈ entries, (∃ axis : Axis, entry.1 = axis.name) ∧ entry.2.Admissible known) ∧
    ∀ rule, build policy entries name = .ok rule →
      (∀ entry ∈ entries, ∀ axis : Axis, entry.1 = axis.name → rule.pair? axis = some entry.2) ∧
      ∀ reference, rule.attempt reference = .ok (rule.decide reference) ∧
        (rule.attempt reference).map (·.excluded) = .ok (rule.excludes reference) := by
  constructor
  · constructor
    · intro h
      obtain ⟨rule, hrule⟩ := h
      obtain ⟨hsome, hpolicy, -, pairs, rfl, hfits, hcompile⟩ :=
        (build_eq_ok_iff_named hdistinct).1 hrule
      refine ⟨hsome, rule.policy, hpolicy, ?_⟩
      intro entry hmem
      obtain ⟨pair, hpair, rfl⟩ := List.mem_map.1 hmem
      have hguard := exists_compileEntries_iff.1 ⟨_, hcompile⟩ pair hpair
      exact ⟨⟨pair.1, rfl⟩, Pair.admissible_iff.2 ⟨hfits pair hpair, hguard⟩⟩
    · intro h
      obtain ⟨hsome, known, rfl, hentries⟩ := h
      exact exists_build_of_admissible hdistinct hsome hentries
  · intro rule hrule
    obtain ⟨-, -, -, pairs, rfl, hfits, hcompile⟩ := (build_eq_ok_iff_named hdistinct).1 hrule
    constructor
    · intro entry hmem axis haxis
      obtain ⟨pair, hpair, rfl⟩ := List.mem_map.1 hmem
      obtain rfl : pair.1 = axis := Axis.name_injective haxis
      exact pair?_of_compileEntries (distinct_of_named hdistinct) hfits hcompile pair hpair
    · intro reference
      have hattempt := (compiled_of_build hrule).attempt reference
      exact ⟨hattempt, by rw [hattempt]; rfl⟩

def requestEntries : List (String × Pair) :=
  [("pr_destination", .ofRegex "main|rel(ease)?/\\d+"), ("pr_origin", .ofRegex "(?!wip).*")]

theorem requestEntries_make_a_rule :
    ∃ rule, build (.text "regex") requestEntries "requests" = .ok rule ∧
      rule.pair? .prOrigin = some (.ofRegex "(?!wip).*") ∧
      rule.attempt (.changeRequest "1" "wip" "main") =
        .ok (rule.decide (.changeRequest "1" "wip" "main")) := by
  have hdistinct : (requestEntries.map Prod.fst).Nodup := by decide
  obtain ⟨hbuilt, hrules⟩ := @build_alone_can_fail (.text "regex") _ "requests" hdistinct
  have hfirst : (Pair.ofRegex "main|rel(ease)?/\\d+").Admissible .regex := ⟨rfl, rfl, _, by cbv⟩
  have hsecond : (Pair.ofRegex "(?!wip).*").Admissible .regex := ⟨rfl, rfl, _, by cbv⟩
  have hentries : ∀ entry ∈ requestEntries,
      (∃ axis : Axis, entry.1 = axis.name) ∧ entry.2.Admissible .regex := by
    simp only [requestEntries, List.forall_mem_cons]
    exact ⟨⟨⟨.prDestination, rfl⟩, hfirst⟩, ⟨⟨.prOrigin, rfl⟩, hsecond⟩, by simp⟩
  obtain ⟨rule, hrule⟩ := hbuilt.2 ⟨by simp [requestEntries], .regex, rfl, hentries⟩
  obtain ⟨hpairs, hdecisions⟩ := hrules rule hrule
  have horigin := hpairs ("pr_origin", .ofRegex "(?!wip).*") (by simp [requestEntries]) .prOrigin rfl
  exact ⟨rule, hrule, horigin, (hdecisions _).1⟩

end Distinct

end Rule

end RefFilter
