import RefFilter.Proofs.FilterSet.Separation

/-! # What a decision reports

The patterns for an axis reject a name that the first of them misses or the second one hits, and the
miss comes before the hit. A decision reports the first axis whose patterns reject the name that the
reference exposes there, where the origin of a change request comes before its target. If there is
no such axis, it tells whether the rule governs any name of the reference at all. The order in which
the axes of a rule were supplied leaves no trace in its label or in its decisions.
-/

namespace RefFilter

/-! ## Patterns -/

/-- The pattern compiles, and it matches the name or not. -/
def Pattern.Tells (pattern : Pattern) (name : String) (matched : Bool) : Prop :=
  ∃ matcher, pattern.compile = .ok matcher ∧ matcher.accepts name = matched

namespace Pair

variable {pair : Pair} {name : String}

/-- A name misses the first pattern or hits the second one. -/
def Rejects (pair : Pair) (name : String) : Prop :=
  pair.includes.Tells name false ∨
    ∃ pattern, pair.excludes = some pattern ∧ pattern.Tells name true

/-- What a rejected name is blamed for. It is blamed for a hit only if it is no miss. -/
inductive Blames (pair : Pair) (name : String) : Cause → Prop where
  | misses (hincludes : pair.includes.Tells name false) :
      Blames pair name (.misses name pair.includes.source)
  | hits {pattern : Pattern} (hincludes : pair.includes.Tells name true)
      (hexcludes : pair.excludes = some pattern) (hpattern : pattern.Tells name true) :
      Blames pair name (.hits name pattern.source)

theorem cause?_eq_ok_iff {cause : Cause} :
    pair.cause? name = .ok (some cause) ↔ pair.Blames name cause := by
  constructor
  · intro h
    obtain ⟨includes, hincludes, h⟩ := bind_eq_ok_iff.1 h
    cases haccepts : includes.accepts name with
    | false =>
        obtain rfl : Cause.misses name pair.includes.source = cause := by
          simpa [haccepts, pure, Except.pure] using h
        exact .misses ⟨includes, hincludes, haccepts⟩
    | true =>
        cases hpattern : pair.excludes with
        | none => simp [haccepts, hpattern, pure, Except.pure] at h
        | some pattern =>
            simp only [haccepts, hpattern, Bool.not_true, Bool.false_eq_true, if_false] at h
            obtain ⟨excludes, hexcludes, h⟩ := bind_eq_ok_iff.1 h
            cases hhits : excludes.accepts name with
            | false => simp [hhits, pure, Except.pure] at h
            | true =>
                obtain rfl : Cause.hits name pattern.source = cause := by
                  simpa [hhits, pure, Except.pure] using h
                exact .hits ⟨includes, hincludes, haccepts⟩ hpattern ⟨excludes, hexcludes, hhits⟩
  · intro h
    cases h with
    | misses hincludes =>
        obtain ⟨includes, hcompile, haccepts⟩ := hincludes
        simp [cause?, causeBy, hcompile, haccepts, bind, Except.bind, pure, Except.pure]
    | hits hincludes hpattern hhits =>
        obtain ⟨includes, hcompile, haccepts⟩ := hincludes
        obtain ⟨excludes, hcompile', haccepts'⟩ := hhits
        simp [cause?, causeBy, hcompile, haccepts, hpattern, hcompile', haccepts', bind,
          Except.bind, pure, Except.pure]

/-- Patterns that compile where they are needed blame a name exactly if they reject it. -/
theorem exists_blames_iff {found : Option Cause} (h : pair.cause? name = .ok found) :
    (∃ cause, pair.Blames name cause) ↔ pair.Rejects name := by
  constructor
  · intro hblames
    obtain ⟨cause, hcause⟩ := hblames
    cases hcause with
    | misses hincludes => exact Or.inl hincludes
    | hits _ hpattern hhits => exact Or.inr ⟨_, hpattern, hhits⟩
  · intro hrejects
    rcases hrejects with hmisses | ⟨pattern, hpattern, hhits⟩
    · exact ⟨_, .misses hmisses⟩
    · obtain ⟨includes, hincludes, -⟩ := bind_eq_ok_iff.1 h
      cases haccepts : includes.accepts name with
      | false => exact ⟨_, .misses ⟨includes, hincludes, haccepts⟩⟩
      | true => exact ⟨_, .hits ⟨includes, hincludes, haccepts⟩ hpattern hhits⟩

end Pair

theorem Pattern.attempt_eq_compile (pattern : Pattern) : pattern.attempt = pattern.compile := by
  obtain ⟨source, dialect⟩ := pattern
  cases dialect with
  | wildcard => exact attempt_wildcard source
  | regex => rfl

/-- The cause that a compiled guard has against a name is the one that its patterns have. -/
theorem Guard.Compiled.cause?_pair {guard : Guard} (h : guard.Compiled) (name : String) :
    guard.pair.cause? name = .ok (guard.cause? name) := by
  rw [← h.attempt name, Pair.cause?, Pair.attempt, funext Pattern.attempt_eq_compile]

/-! ## Axes -/

/-- A change request exposes its origin before its target, and no other reference exposes two
names. -/
theorem Reference.pairwise_names (reference : Reference) :
    reference.names.Pairwise fun entry later =>
      entry.1 = .prOrigin ∧ later.1 = .prDestination := by
  cases reference <;> simp [names]

namespace Rule

variable {rule other : Rule} {reference : Reference}

/-- The patterns of a rule for an axis reject the name that a reference exposes there. -/
def RejectsOn (rule : Rule) (reference : Reference) (axis : Axis) : Prop :=
  ∃ name pair, reference.Exposes axis name ∧ rule.pair? axis = some pair ∧ pair.Rejects name

/-- It is the first axis on which a rule rejects the name that a reference exposes there. -/
def RejectsFirstOn (rule : Rule) (reference : Reference) (axis : Axis) : Prop :=
  rule.RejectsOn reference axis ∧
    ∀ other, rule.RejectsOn reference other →
      other = axis ∨ axis = .prOrigin ∧ other = .prDestination

theorem Compiled.bind_cause?_eq_some_iff (h : rule.Compiled) {axis : Axis} {name : String}
    {cause : Cause} :
    (rule.guard? axis).bind (·.cause? name) = some cause ↔
      ∃ pair, rule.pair? axis = some pair ∧ pair.Blames name cause := by
  cases hguard : rule.guard? axis with
  | none => simp [pair?, hguard]
  | some guard =>
      have hcause := (h.guard? hguard).cause?_pair name
      simp [pair?, hguard, ← Pair.cause?_eq_ok_iff, hcause]

theorem Compiled.exists_blames_iff (h : rule.Compiled) {axis : Axis} {name : String} :
    (∃ cause pair, rule.pair? axis = some pair ∧ pair.Blames name cause) ↔
      ∃ pair, rule.pair? axis = some pair ∧ pair.Rejects name := by
  rw [exists_comm]
  refine exists_congr fun pair => ?_
  rw [exists_and_left]
  refine and_congr_right fun hpair => ?_
  obtain ⟨guard, hguard, rfl⟩ := Option.map_eq_some_iff.1 hpair
  exact Pair.exists_blames_iff ((h.guard? hguard).cause?_pair name)

/-- What is found first among names is a blame on an axis of them, and every other name that is
rejected comes later. -/
theorem Compiled.of_firstCause? (h : rule.Compiled) {names : List (Axis × String)}
    (hordered : names.Pairwise fun entry later =>
      entry.1 = .prOrigin ∧ later.1 = .prDestination)
    {axis : Axis} {name : String} {cause : Cause}
    (hfirst : rule.firstCause? names = some (axis, name, cause)) :
    (axis, name) ∈ names ∧ (∃ pair, rule.pair? axis = some pair ∧ pair.Blames name cause) ∧
      ∀ entry ∈ names, (∃ pair, rule.pair? entry.1 = some pair ∧ pair.Rejects entry.2) →
        entry.1 = axis ∨ axis = .prOrigin ∧ entry.1 = .prDestination := by
  induction names with
  | nil => cases hfirst
  | cons head rest ih =>
      rw [List.pairwise_cons] at hordered
      rw [firstCause?_cons] at hfirst
      cases hhead : (rule.guard? head.1).bind (·.cause? head.2) with
      | some blame =>
          rw [hhead] at hfirst
          obtain ⟨rfl, rfl, rfl⟩ : head.1 = axis ∧ head.2 = name ∧ blame = cause := by
            simpa using hfirst
          refine ⟨List.mem_cons_self, h.bind_cause?_eq_some_iff.1 hhead, ?_⟩
          intro entry hmem _
          rcases List.mem_cons.1 hmem with rfl | hrest
          · exact Or.inl rfl
          · exact Or.inr (hordered.1 entry hrest)
      | none =>
          rw [hhead] at hfirst
          obtain ⟨hmem, hblames, hlater⟩ := ih hordered.2 hfirst
          refine ⟨List.mem_cons_of_mem _ hmem, hblames, ?_⟩
          intro entry hentry hrejects
          rcases List.mem_cons.1 hentry with rfl | hrest
          · obtain ⟨blame, hblame⟩ := h.exists_blames_iff.2 hrejects
            rw [h.bind_cause?_eq_some_iff.2 hblame] at hhead
            cases hhead
          · exact hlater entry hrest hrejects

/-! ## Reports -/

/-- A decision tells what a rule does with a reference. -/
structure Reports (rule : Rule) (reference : Reference) (decision : Decision) : Prop where
  labelled : decision.rule = rule.label
  excluded_iff : decision.excluded = true ↔ ∃ axis, rule.RejectsOn reference axis
  excluded : decision.excluded = true →
    ∃ axis name pair cause, rule.RejectsFirstOn reference axis ∧ reference.Exposes axis name ∧
      rule.pair? axis = some pair ∧ pair.Blames name cause ∧
      decision.axis = some axis ∧ decision.name = some name ∧
      decision.reason = axis.name ++ ": " ++ cause.message
  spared : decision.excluded = false → decision.axis = none ∧ decision.name = none
  abstains_iff : decision.excluded = false →
    (decision.reason = "abstains on " ++ reference.category.name ↔
      ∀ axis name, reference.Exposes axis name → rule.pair? axis = none)
  admitted_iff : decision.excluded = false →
    (decision.reason = "admitted" ↔
      ∃ axis name pair, reference.Exposes axis name ∧ rule.pair? axis = some pair)

theorem Compiled.excludes_iff_rejectsOn (h : rule.Compiled) :
    rule.excludes reference = true ↔ ∃ axis, rule.RejectsOn reference axis := by
  rw [excludes_iff]
  refine exists_congr fun axis => exists_congr fun name => ?_
  constructor
  · intro hcause
    obtain ⟨guard, hexposes, hguard, hcause⟩ := hcause
    obtain ⟨cause, hcause⟩ := Option.isSome_iff_exists.1 hcause
    have hblames := h.bind_cause?_eq_some_iff.1 (by rw [hguard, Option.bind_some, hcause])
    obtain ⟨pair, hpair, hrejects⟩ := h.exists_blames_iff.1 ⟨cause, hblames⟩
    exact ⟨pair, hexposes, hpair, hrejects⟩
  · intro hrejects
    obtain ⟨pair, hexposes, hpair, hrejects⟩ := hrejects
    obtain ⟨cause, hblames⟩ := h.exists_blames_iff.2 ⟨pair, hpair, hrejects⟩
    obtain ⟨guard, hguard, hcause⟩ := Option.bind_eq_some_iff.1 (h.bind_cause?_eq_some_iff.2 hblames)
    exact ⟨guard, hexposes, hguard, Option.isSome_iff_exists.2 ⟨cause, hcause⟩⟩

/-- A rule governs a name of a reference exactly if it has patterns for an axis that is exposed. -/
theorem governs_iff :
    (reference.names.any fun entry => (rule.guard? entry.1).isSome) = true ↔
      ∃ axis name pair, reference.Exposes axis name ∧ rule.pair? axis = some pair := by
  rw [List.any_eq_true]
  constructor
  · intro h
    obtain ⟨⟨axis, name⟩, hmem, hguard⟩ := h
    obtain ⟨guard, hguard⟩ := Option.isSome_iff_exists.1 hguard
    exact ⟨axis, name, guard.pair, Reference.mem_names_iff.1 hmem, by rw [pair?, hguard]; rfl⟩
  · intro h
    obtain ⟨axis, name, pair, hexposes, hpair⟩ := h
    obtain ⟨guard, hguard, -⟩ := Option.map_eq_some_iff.1 hpair
    exact ⟨(axis, name), Reference.mem_names_iff.2 hexposes, by rw [hguard]; rfl⟩

theorem abstention_ne_admitted (category : Category) :
    "abstains on " ++ category.name ≠ "admitted" := by
  cases category <;> decide

/-- The decision of a compiled rule reports what the rule does. -/
theorem Compiled.reports (h : rule.Compiled) (reference : Reference) :
    rule.Reports reference (rule.decide reference) := by
  have hexcluded : (rule.decide reference).excluded = true ↔
      ∃ axis, rule.RejectsOn reference axis := h.excludes_iff_rejectsOn
  cases hfirst : rule.firstCause? reference.names with
  | some found =>
      obtain ⟨axis, name, cause⟩ := found
      have hdecide : rule.decide reference = rule.exclusion axis name cause := by
        rw [decide, hfirst]
      obtain ⟨hmem, ⟨pair, hpair, hblames⟩, hlater⟩ :=
        h.of_firstCause? reference.pairwise_names hfirst
      have hexposes := Reference.mem_names_iff.1 hmem
      have hrejects : pair.Rejects name := by
        obtain ⟨guard, hguard, rfl⟩ := Option.map_eq_some_iff.1 hpair
        exact (Pair.exists_blames_iff ((h.guard? hguard).cause?_pair name)).1 ⟨cause, hblames⟩
      have hfirstOn : rule.RejectsFirstOn reference axis := by
        refine ⟨⟨name, pair, hexposes, hpair, hrejects⟩, ?_⟩
        intro other hother
        obtain ⟨name', pair', hexposes', hpair', hrejects'⟩ := hother
        exact hlater (other, name') (Reference.mem_names_iff.2 hexposes') ⟨pair', hpair', hrejects'⟩
      rw [hdecide] at hexcluded ⊢
      exact {
        labelled := rfl
        excluded_iff := hexcluded
        excluded := fun _ =>
          ⟨axis, name, pair, cause, hfirstOn, hexposes, hpair, hblames, rfl, rfl, rfl⟩
        spared := fun hspared => absurd hspared.symm Bool.false_ne_true
        abstains_iff := fun hspared => absurd hspared.symm Bool.false_ne_true
        admitted_iff := fun hspared => absurd hspared.symm Bool.false_ne_true }
  | none =>
      have hungoverned : (¬ ∃ axis name pair, reference.Exposes axis name ∧
          rule.pair? axis = some pair) ↔
            ∀ axis name, reference.Exposes axis name → rule.pair? axis = none := by
        simp only [not_exists, not_and, Option.eq_none_iff_forall_ne_some, ne_eq]
        exact forall₂_congr fun _ _ => forall_comm
      rw [decide, hfirst] at hexcluded ⊢
      cases hgoverns : reference.names.any fun entry => (rule.guard? entry.1).isSome with
      | true =>
          have hgoverned := governs_iff.1 hgoverns
          exact {
            labelled := rfl
            excluded_iff := hexcluded
            excluded := fun hexcluded => absurd hexcluded Bool.false_ne_true
            spared := fun _ => ⟨rfl, rfl⟩
            abstains_iff := fun _ =>
              iff_of_false (abstention_ne_admitted _).symm fun hnone => hungoverned.2 hnone hgoverned
            admitted_iff := fun _ => iff_of_true rfl hgoverned }
      | false =>
          have hnone : ¬ ∃ axis name pair, reference.Exposes axis name ∧
              rule.pair? axis = some pair := by
            rw [← governs_iff, hgoverns]
            exact Bool.false_ne_true
          exact {
            labelled := rfl
            excluded_iff := hexcluded
            excluded := fun hexcluded => absurd hexcluded Bool.false_ne_true
            spared := fun _ => ⟨rfl, rfl⟩
            abstains_iff := fun _ => iff_of_true rfl (hungoverned.1 hnone)
            admitted_iff := fun _ => iff_of_false (abstention_ne_admitted _) hnone }

/-! ## The order of axes -/

/-- Compiled rules with the same policy, name and patterns agree. -/
theorem Compiled.agrees (h : rule.Compiled) (hother : other.Compiled)
    (hpolicy : rule.policy = other.policy) (hname : rule.name = other.name)
    (hpairs : ∀ axis, rule.pair? axis = other.pair? axis) : rule.Agrees other :=
  ⟨hpolicy, hname, fun axis => guard?_of_pair? h hother (hpairs axis)⟩

section Entries

variable {policy : Json} {entries others : List (String × Pair)} {name : String}

/-- The patterns of a rule are those of the entries that it was built from. -/
theorem pair?_eq_some_iff_of_build (hdistinct : (entries.map Prod.fst).Nodup)
    (hbuild : build policy entries name = .ok rule) {axis : Axis} {pair : Pair} :
    rule.pair? axis = some pair ↔ (axis.name, pair) ∈ entries := by
  obtain ⟨-, -, -, pairs, rfl, hfits, hcompile⟩ := (build_eq_ok_iff_named hdistinct).1 hbuild
  have hpairs := pair?_of_compileEntries (distinct_of_named hdistinct) hfits hcompile
  constructor
  · intro h
    obtain ⟨guard, hguard, -⟩ := Option.map_eq_some_iff.1 h
    have hkey : axis ∈ rule.guards.map Prod.fst :=
      List.mem_map.2 ⟨_, mem_of_lookup hguard, rfl⟩
    rw [keys_compileEntries hcompile] at hkey
    obtain ⟨entry, hmem, rfl⟩ := List.mem_map.1 hkey
    obtain rfl : entry.2 = pair := Option.some.inj ((hpairs entry hmem).symm.trans h)
    exact List.mem_map.2 ⟨entry, hmem, rfl⟩
  · intro h
    obtain ⟨entry, hmem, hnamed⟩ := List.mem_map.1 h
    obtain ⟨hname, rfl⟩ := Prod.mk.inj hnamed
    obtain rfl : entry.1 = axis := Axis.name_injective hname
    exact hpairs entry hmem

theorem admissible_of_build (hdistinct : (entries.map Prod.fst).Nodup)
    (hbuild : build policy entries name = .ok rule) :
    ∀ entry ∈ entries, (∃ axis : Axis, entry.1 = axis.name) ∧ entry.2.Admissible rule.policy := by
  obtain ⟨-, -, -, pairs, rfl, hfits, hcompile⟩ := (build_eq_ok_iff_named hdistinct).1 hbuild
  have hguards := exists_compileEntries_iff.1 ⟨_, hcompile⟩
  rw [List.forall_mem_map]
  intro pair hmem
  exact ⟨⟨pair.1, rfl⟩, Pair.admissible_iff.2 ⟨hfits pair hmem, hguards pair hmem⟩⟩

/-- Entries in another order make a rule that agrees. -/
theorem exists_build_of_perm (hdistinct : (entries.map Prod.fst).Nodup)
    (hbuild : build policy entries name = .ok rule) (hperm : others.Perm entries) :
    ∃ other, build policy others name = .ok other ∧ other.Agrees rule := by
  have hdistinct' : (others.map Prod.fst).Nodup := (hperm.map Prod.fst).nodup_iff.2 hdistinct
  obtain ⟨hsome, hpolicy, hname, -⟩ := (build_eq_ok_iff_named hdistinct).1 hbuild
  have hsome' : others ≠ [] := fun hnil => hsome (hnil ▸ hperm).nil_eq.symm
  obtain ⟨other, hother⟩ : ∃ other, build (.text rule.policy.name) others name = .ok other :=
    exists_build_of_admissible hdistinct' hsome' fun entry hmem =>
      admissible_of_build hdistinct hbuild entry (hperm.subset hmem)
  rw [← hpolicy] at hother
  obtain ⟨-, hpolicy', hname', -⟩ := (build_eq_ok_iff_named hdistinct').1 hother
  have hsame : Policy.ofJson policy = .ok other.policy := Policy.ofJson_eq_ok_iff.2 hpolicy'
  rw [hpolicy, Policy.ofJson_name, Except.ok.injEq] at hsame
  refine ⟨other, hother, (compiled_of_build hother).agrees (compiled_of_build hbuild) hsame.symm
    (hname'.trans hname.symm) ?_⟩
  intro axis
  ext pair
  rw [pair?_eq_some_iff_of_build hdistinct' hother, pair?_eq_some_iff_of_build hdistinct hbuild,
    hperm.mem_iff]

/-- A rule that is built has the patterns of its entries, and its decision on a reference, which
never fails, reports the first axis on which the patterns reject the exposed name, or that there is
none. Rules of the same policy, name and patterns have the same label and decide alike; so do the
rules of the same entries in another order, which can be built as well. -/
theorem decision_reports_first_failure (hdistinct : (entries.map Prod.fst).Nodup)
    (hbuild : build policy entries name = .ok rule) :
    (∀ axis pair, rule.pair? axis = some pair ↔ (axis.name, pair) ∈ entries) ∧
    (∀ reference, rule.attempt reference = .ok (rule.decide reference) ∧
      rule.Reports reference (rule.decide reference)) ∧
    (∀ other : Rule, other.Built → other.policy = rule.policy → other.name = rule.name →
      (∀ axis, other.pair? axis = rule.pair? axis) →
      other.label = rule.label ∧ ∀ reference, other.decide reference = rule.decide reference) ∧
    ∀ others, others.Perm entries → ∃ other, build policy others name = .ok other ∧
      other.label = rule.label ∧ ∀ reference, other.decide reference = rule.decide reference := by
  have hcompiled := compiled_of_build hbuild
  refine ⟨fun axis pair => pair?_eq_some_iff_of_build hdistinct hbuild,
    fun reference => ⟨hcompiled.attempt reference, hcompiled.reports reference⟩, ?_, ?_⟩
  · intro other hother hpolicy hname hpairs
    have hagrees := hother.compiled.agrees hcompiled hpolicy hname hpairs
    exact ⟨hagrees.label, hagrees.decide⟩
  · intro others hperm
    obtain ⟨other, hother, hagrees⟩ := exists_build_of_perm hdistinct hbuild hperm
    exact ⟨other, hother, hagrees.label, hagrees.decide⟩

def requestLists : List (String × Pair) :=
  [("pr_destination", .ofWildcards "main" ""), ("pr_origin", .ofWildcards "*" "wip/*")]

theorem requestLists_blame_origin :
    ∃ rule other, build (.text "wildcard") requestLists "" = .ok rule ∧
      build (.text "wildcard") requestLists.reverse "" = .ok other ∧
      rule.Reports (.changeRequest "7" "wip/x" "develop")
        ⟨true, "wildcard[pr_origin,pr_destination]", "pr_origin: 'wip/x' matches excluded 'wip/*'",
          some .prOrigin, some "wip/x"⟩ ∧
      other.decide (.changeRequest "7" "wip/x" "develop") =
        rule.decide (.changeRequest "7" "wip/x" "develop") := by
  let rule : Rule :=
    ⟨.wildcard, [(.prDestination, .wildcard (.ofWildcard "main") (.ofWildcard "")),
      (.prOrigin, .wildcard (.ofWildcard "*") (.ofWildcard "wip/*"))], "",
      by simp, by simp, by simp [Guard.policy]⟩
  have hbuild : build (.text "wildcard") requestLists "" = .ok rule := rfl
  have hdecide : rule.decide (.changeRequest "7" "wip/x" "develop") =
      ⟨true, "wildcard[pr_origin,pr_destination]", "pr_origin: 'wip/x' matches excluded 'wip/*'",
        some .prOrigin, some "wip/x"⟩ := by
    decide +kernel
  obtain ⟨-, hreports, -, hothers⟩ := decision_reports_first_failure (by decide) hbuild
  obtain ⟨other, hother, -, hsame⟩ := hothers _ (List.reverse_perm requestLists)
  exact ⟨rule, other, hbuild, hother, hdecide ▸ (hreports _).2, hsame _⟩

end Entries

end Rule

end RefFilter
