import RefFilter.Config.RuleConfig
import RefFilter.Proofs.Basic

/-! # Building rules from configurations

A rule has a guard on exactly the axes of its entries, compiled from their pairs. Of a
configuration that has one section for each axis, the rule is built exactly if there is a section,
every section fits the policy, and the pair of every section compiles; the guard of an axis is then
the compiled pair of its section.
-/

namespace RefFilter

theorem Axis.mem_all (axis : Axis) : axis ∈ Axis.all := by
  cases axis <;> decide

@[simp] theorem Axis.ofName?_name (axis : Axis) : Axis.ofName? axis.name = some axis := by
  cases axis <;> rfl

theorem Axis.name_injective : Function.Injective Axis.name := by
  intro axis other h
  simpa using congrArg Axis.ofName? h

@[simp] theorem Policy.ofJson_name (policy : Policy) :
    Policy.ofJson (.text policy.name) = .ok policy := by
  cases policy <;> rfl

namespace Rule

/-! ## Entries -/

theorem place_of_new {α : Type} {entries : List (Axis × α)} {axis : Axis} (value : α)
    (hnew : axis ∉ entries.map Prod.fst) :
    place entries axis value = entries ++ [(axis, value)] := by
  induction entries with
  | nil => rfl
  | cons head rest ih =>
      rw [List.map_cons, List.mem_cons, not_or] at hnew
      rw [place, if_neg (Ne.symm hnew.1), ih hnew.2, List.cons_append]

private theorem fold_of_distinct {α : Type} (entries done : List (Axis × α))
    (hdistinct : ((done ++ entries).map Prod.fst).Nodup) :
    entries.foldl (fun done entry => place done entry.1 entry.2) done = done ++ entries := by
  induction entries generalizing done with
  | nil => exact (List.append_nil done).symm
  | cons head rest ih =>
      have hnew : head.1 ∉ done.map Prod.fst := by
        rw [List.map_append, List.map_cons, List.nodup_append] at hdistinct
        exact fun hmem => hdistinct.2.2 _ hmem _ List.mem_cons_self rfl
      rw [List.foldl_cons, place_of_new _ hnew, ih _ (by simpa using hdistinct)]
      simp

/-- Entries of distinct axes stay as they are. -/
theorem merge_of_distinct {α : Type} {entries : List (Axis × α)}
    (hdistinct : (entries.map Prod.fst).Nodup) : merge entries = entries :=
  fold_of_distinct entries [] hdistinct

theorem readEntries_eq_ok_iff {policy : Policy} {entries : List (String × Pair)}
    {pairs : List (Axis × Pair)} :
    readEntries policy entries = .ok pairs ↔
      List.Forall₂ (fun entry pair => Axis.ofName? entry.1 = some pair.1 ∧ entry.2 = pair.2 ∧
        pair.2.Fits policy) entries pairs := by
  induction entries generalizing pairs with
  | nil => simp [readEntries, eq_comm]
  | cons head rest ih =>
      obtain ⟨name, pair⟩ := head
      rw [readEntries, List.forall₂_cons_left_iff]
      cases haxis : Axis.ofName? name with
      | none => simp
      | some axis =>
          dsimp only
          cases hcheck : pair.check policy axis with
          | error failure =>
              have hfits : ¬ pair.Fits policy := by
                rw [← @Pair.check_eq_ok_iff policy axis pair, hcheck]
                simp
              refine iff_of_false (by simp) ?_
              intro h
              rcases h with ⟨⟨_, _⟩, _, ⟨-, rfl, h⟩, -⟩
              exact hfits h
          | ok done =>
              have hfits : pair.Fits policy := Pair.check_eq_ok_iff.1 hcheck
              simp only [map_eq_ok_iff, ih]
              constructor
              · intro h
                rcases h with ⟨others, hothers, rfl⟩
                exact ⟨(axis, pair), others, ⟨rfl, rfl, hfits⟩, hothers, rfl⟩
              · intro h
                rcases h with ⟨⟨other, _⟩, others, ⟨h, rfl, -⟩, hothers, rfl⟩
                obtain rfl : axis = other := Option.some.inj h
                exact ⟨others, hothers, rfl⟩

theorem compileEntries_eq_ok_iff {pairs : List (Axis × Pair)} {guards : List (Axis × Guard)} :
    compileEntries pairs = .ok guards ↔
      List.Forall₂ (fun pair guard => pair.1 = guard.1 ∧ Guard.ofPair pair.2 = .ok guard.2)
        pairs guards := by
  induction pairs generalizing guards with
  | nil => simp [compileEntries, eq_comm]
  | cons head rest ih =>
      obtain ⟨axis, pair⟩ := head
      rw [compileEntries, List.forall₂_cons_left_iff]
      cases hguard : Guard.ofPair pair with
      | error failure => simp
      | ok guard =>
          simp only [map_eq_ok_iff, ih]
          constructor
          · intro h
            rcases h with ⟨others, hothers, rfl⟩
            exact ⟨(axis, guard), others, ⟨rfl, rfl⟩, hothers, rfl⟩
          · intro h
            rcases h with ⟨⟨_, _⟩, others, ⟨rfl, h⟩, hothers, rfl⟩
            obtain rfl := Except.ok.inj h
            exact ⟨others, hothers, rfl⟩

/-! ## Rules -/

theorem ofPairs_eq_ok_iff {policy : Policy} {pairs : List (Axis × Pair)} {name : String}
    {hsome : pairs ≠ []} {hfits : ∀ entry ∈ pairs, entry.2.Fits policy} {rule : Rule} :
    ofPairs policy pairs name hsome hfits = .ok rule ↔
      rule.policy = policy ∧ rule.name = name ∧
        compileEntries (merge pairs) = .ok rule.guards := by
  unfold ofPairs
  split
  · rename_i failure hfailure
    refine iff_of_false (by simp) ?_
    intro h
    rcases h with ⟨-, -, h⟩
    rw [hfailure] at h
    cases h
  · rename_i guards hguards
    constructor
    · intro h
      obtain rfl := Except.ok.inj h
      exact ⟨rfl, rfl, hguards⟩
    · intro h
      rcases h with ⟨rfl, rfl, h⟩
      obtain rfl := Except.ok.inj (hguards.symm.trans h)
      rfl

/-- A rule is built from entries if there are any, the policy is known, the entries fit it, and the
pairs that are left for each axis compile. -/
theorem build_eq_ok_iff {policy : Json} {entries : List (String × Pair)} {name : String}
    {rule : Rule} :
    build policy entries name = .ok rule ↔
      entries ≠ [] ∧ Policy.ofJson policy = .ok rule.policy ∧ rule.name = name ∧
        ∃ pairs, readEntries rule.policy entries = .ok pairs ∧
          compileEntries (merge pairs) = .ok rule.guards := by
  unfold build
  split
  · rename_i hsome
    cases hpolicy : Policy.ofJson policy with
    | error failure => simp
    | ok known =>
        dsimp only
        split
        · rename_i failure hfailure
          refine iff_of_false (by simp) ?_
          intro h
          rcases h with ⟨-, h, -, pairs, hpairs, -⟩
          rw [← Except.ok.inj h, hfailure] at hpairs
          cases hpairs
        · rename_i pairs hpairs
          rw [ofPairs_eq_ok_iff]
          constructor
          · intro h
            rcases h with ⟨rfl, rfl, hguards⟩
            exact ⟨hsome, rfl, rfl, pairs, hpairs, hguards⟩
          · intro h
            rcases h with ⟨-, h, rfl, others, hothers, hguards⟩
            obtain rfl := Except.ok.inj h
            rw [hpairs, Except.ok.injEq] at hothers
            exact ⟨rfl, rfl, hothers ▸ hguards⟩
  · rename_i hnone
    simp [hnone]

end Rule

namespace RuleConfig

variable {config : RuleConfig}

/-! ## Configurations -/

theorem fits_pair (policy : Policy) (texts : Section) : (texts.pair policy).Fits policy := by
  cases policy with
  | regex => exact ⟨rfl, rfl⟩
  | wildcard => exact ⟨rfl, _, rfl⟩

def pairs (config : RuleConfig) : List (Axis × Pair) :=
  config.sections.map fun entry => (entry.1, entry.2.pair config.policy)

theorem readEntries_entries (config : RuleConfig) :
    Rule.readEntries config.policy config.entries = .ok config.pairs := by
  rw [Rule.readEntries_eq_ok_iff, entries, pairs, List.forall₂_map_left_iff,
    List.forall₂_map_right_iff, List.forall₂_same]
  rintro ⟨axis, texts⟩ -
  exact ⟨axis.ofName?_name, rfl, fits_pair _ _⟩

theorem merge_pairs (hdistinct : (config.sections.map Prod.fst).Nodup) :
    Rule.merge config.pairs = config.pairs := by
  refine Rule.merge_of_distinct ?_
  rwa [pairs, List.map_map]

theorem compileEntries_pairs_iff {guards : List (Axis × Guard)} :
    Rule.compileEntries config.pairs = .ok guards ↔
      List.Forall₂ (fun entry guard => entry.1 = guard.1 ∧
        Guard.ofPair (entry.2.pair config.policy) = .ok guard.2) config.sections guards := by
  rw [Rule.compileEntries_eq_ok_iff, pairs, List.forall₂_map_left_iff]

theorem validate_eq_ok_iff :
    config.validate = .ok () ↔ config.sections ≠ [] ∧
      ∀ entry ∈ config.sections, checkSection config.policy entry.1 entry.2 = .ok () := by
  unfold validate
  by_cases hnil : config.sections = []
  · simp [hnil]
  · rw [if_neg (by simpa using hnil), forM_eq_ok_iff]
    simp [hnil]

/-- A rule of a configuration has its policy and its name, and for its guards the compiled pairs of
the sections, one for one. -/
theorem build_eq_ok_iff (hdistinct : (config.sections.map Prod.fst).Nodup) {rule : Rule} :
    config.build = .ok rule ↔
      config.validate = .ok () ∧ rule.policy = config.policy ∧ rule.name = config.name ∧
        Rule.compileEntries config.pairs = .ok rule.guards := by
  unfold build
  rw [bind_eq_ok_iff]
  constructor
  · intro h
    rcases h with ⟨⟨⟩, hvalid, h⟩
    obtain ⟨-, hpolicy, hname, pairs, hpairs, hguards⟩ := Rule.build_eq_ok_iff.1 h
    rw [Policy.ofJson_name, Except.ok.injEq] at hpolicy
    rw [← hpolicy, readEntries_entries, Except.ok.injEq] at hpairs
    rw [← hpairs, merge_pairs hdistinct] at hguards
    exact ⟨hvalid, hpolicy.symm, hname, hguards⟩
  · intro h
    rcases h with ⟨hvalid, hpolicy, hname, hguards⟩
    refine ⟨(), hvalid, Rule.build_eq_ok_iff.2 ⟨?_, ?_, hname, config.pairs, ?_, ?_⟩⟩
    · simpa [entries] using (validate_eq_ok_iff.1 hvalid).1
    · rw [Policy.ofJson_name, hpolicy]
    · exact hpolicy ▸ readEntries_entries config
    · rwa [merge_pairs hdistinct]

theorem guard?_of_build (hdistinct : (config.sections.map Prod.fst).Nodup) {rule : Rule}
    (hbuild : config.build = .ok rule) (axis : Axis) :
    Option.Rel (fun texts guard => Guard.ofPair (texts.pair config.policy) = .ok guard)
      (config.section? axis) (rule.guard? axis) := by
  obtain ⟨-, -, -, hguards⟩ := (build_eq_ok_iff hdistinct).1 hbuild
  exact lookup_rel (compileEntries_pairs_iff.1 hguards) axis

/-- The guard of an axis is the compiled pair of its section. -/
theorem guard?_eq_some_iff (hdistinct : (config.sections.map Prod.fst).Nodup) {rule : Rule}
    (hbuild : config.build = .ok rule) {axis : Axis} {guard : Guard} :
    rule.guard? axis = some guard ↔
      ∃ texts, config.section? axis = some texts ∧
        Guard.ofPair (texts.pair config.policy) = .ok guard := by
  have hrel := guard?_of_build hdistinct hbuild axis
  generalize config.section? axis = section?, rule.guard? axis = guard? at hrel ⊢
  cases hrel with
  | none => simp
  | @some texts compiled hcompile => simp [hcompile]

/-- Every section of a configuration that a rule was built from has compiled. -/
theorem exists_guard (hdistinct : (config.sections.map Prod.fst).Nodup) {rule : Rule}
    (hbuild : config.build = .ok rule) {axis : Axis} {texts : Section}
    (hsection : config.section? axis = some texts) :
    ∃ guard, Guard.ofPair (texts.pair config.policy) = .ok guard := by
  have hrel := guard?_of_build hdistinct hbuild axis
  rw [hsection] at hrel
  generalize rule.guard? axis = guard? at hrel
  cases hrel with
  | @some _ guard hcompile => exact ⟨guard, hcompile⟩

theorem exists_compileEntries {pairs : List (Axis × Pair)}
    (h : ∀ entry ∈ pairs, ∃ guard, Guard.ofPair entry.2 = .ok guard) :
    ∃ guards, Rule.compileEntries pairs = .ok guards := by
  induction pairs with
  | nil => exact ⟨[], rfl⟩
  | cons head rest ih =>
      obtain ⟨guard, hguard⟩ := h head List.mem_cons_self
      obtain ⟨guards, hguards⟩ := ih fun entry hmem => h entry (List.mem_cons_of_mem _ hmem)
      exact ⟨(head.1, guard) :: guards, by rw [Rule.compileEntries, hguard, hguards]; rfl⟩

/-- Checked sections that compile make a rule. -/
theorem exists_build (hdistinct : (config.sections.map Prod.fst).Nodup)
    (hvalid : config.validate = .ok ())
    (hcompile : ∀ entry ∈ config.sections,
      ∃ guard, Guard.ofPair (entry.2.pair config.policy) = .ok guard) :
    ∃ rule, config.build = .ok rule := by
  obtain ⟨guards, hguards⟩ : ∃ guards, Rule.compileEntries config.pairs = .ok guards := by
    refine exists_compileEntries fun pair hmem => ?_
    obtain ⟨entry, hentry, rfl⟩ := List.mem_map.1 hmem
    exact hcompile entry hentry
  have hkeys : guards.map Prod.fst = config.sections.map Prod.fst := by
    rw [Rule.keys_compileEntries hguards, pairs, List.map_map]
    rfl
  have hfits : ∀ entry ∈ config.pairs, entry.2.Fits config.policy := by
    intro pair hmem
    obtain ⟨entry, -, rfl⟩ := List.mem_map.1 hmem
    exact fits_pair _ _
  have hnonempty : guards ≠ [] := by
    rintro rfl
    exact (validate_eq_ok_iff.1 hvalid).1 (List.map_eq_nil_iff.1 hkeys.symm)
  -- The rule is put together here, as building it carries the proofs of its fields along.
  let rule : Rule := {
    policy := config.policy
    guards := guards
    name := config.name
    nonempty := hnonempty
    distinct := hkeys ▸ hdistinct
    uniform := Rule.uniform_of_compileEntries hguards hfits }
  exact ⟨rule, (build_eq_ok_iff hdistinct).2 ⟨hvalid, rfl, rfl, hguards⟩⟩

end RuleConfig

end RefFilter
