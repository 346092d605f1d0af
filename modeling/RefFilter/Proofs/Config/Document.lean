import RefFilter.Config.FilterSetConfig
import RefFilter.Proofs.Config.Reading
import RefFilter.Proofs.Rule.Decision

/-! # Reading back the document of a configuration

The document of a configuration has a section for each axis and says the profile, if there is one.
It is read in the form with sections, whatever the form the configuration was read from, and what
is read has the same policy, name, profile and sections; only the order of the sections is that of
reading. Configurations that are the same in this sense have the same document and build rules that
agree.
-/

namespace RefFilter

/-! ## Sections -/

theorem Section.lookup_textField (name other : String) (text : Option String) :
    Json.lookup? (textField name text) other = if other = name then text.map .text else none := by
  rw [Json.lookup?]
  cases text with
  | none => simp [textField]
  | some text =>
      by_cases hname : other = name
      · simp [textField, hname]
      · simp [textField, List.lookup_cons, beq_false_of_ne hname, hname]

/-- A section is read back from its document, one without texts too. -/
theorem Section.ofJson_toJson (texts : Section) : Section.ofJson texts.toJson = .ok texts := by
  rcases texts with ⟨_ | includes, _ | excludes, _ | regex⟩ <;> cbv

namespace RuleConfig

variable {config other : RuleConfig}

/-! ## Reading back -/

def documentFields (config : RuleConfig) : List (String × Json) :=
  ("name", .text config.name) :: ("policy", .text config.policy.name) ::
    (Section.textField "profile" config.profile ++
      config.ordered.sections.map fun entry => (entry.1.name, entry.2.toJson))

theorem toJson_eq (config : RuleConfig) : config.toJson = .object config.documentFields := rfl

theorem section?_ordered (config : RuleConfig) (axis : Axis) :
    config.ordered.section? axis = config.section? axis := by
  have hlookup := lookup_filterMap config.section? Axis.all axis
  rwa [if_pos axis.mem_all] at hlookup

theorem lookup_sectionFields (config : RuleConfig) (axis : Axis) :
    (config.ordered.sections.map fun entry => (entry.1.name, entry.2.toJson)).lookup axis.name =
      (config.section? axis).map Section.toJson := by
  rw [lookup_map Axis.name_injective, ← section?_ordered]
  rfl

theorem lookup_profile (config : RuleConfig) :
    Json.lookup? config.documentFields "profile" = config.profile.map .text := by
  have hsections :
      (config.ordered.sections.map fun entry => (entry.1.name, entry.2.toJson)).lookup "profile" =
        none := by
    rw [List.lookup_eq_none_iff]
    intro field hfield
    obtain ⟨⟨axis, texts⟩, -, rfl⟩ := List.mem_map.1 hfield
    cases axis <;> rfl
  have hskip : Json.lookup? config.documentFields "profile" =
      (Section.textField "profile" config.profile ++
        config.ordered.sections.map fun entry => (entry.1.name, entry.2.toJson)).lookup "profile" :=
    rfl
  rw [hskip, List.lookup_append, hsections, Option.or_none]
  exact (Section.lookup_textField _ _ _).trans (if_pos rfl)

theorem lookup_axis (config : RuleConfig) (axis : Axis) :
    Json.lookup? config.documentFields axis.name = (config.section? axis).map Section.toJson := by
  have hskip : Json.lookup? config.documentFields axis.name =
      (Section.textField "profile" config.profile ++
        config.ordered.sections.map fun entry => (entry.1.name, entry.2.toJson)).lookup
          axis.name := by
    cases axis <;> rfl
  have hprofile : (Section.textField "profile" config.profile).lookup axis.name = none := by
    refine (Section.lookup_textField _ _ _).trans (if_neg ?_)
    cases axis <;> decide
  rw [hskip, List.lookup_append, hprofile, Option.none_or]
  exact lookup_sectionFields config axis

theorem unknownNames_documentFields (config : RuleConfig) :
    Section.unknownNames (plainFields ++ Axis.all.map Axis.name)
      (config.documentFields.map (·.1)) = [] := by
  rw [Section.unknownNames_eq_nil_iff]
  intro name hname
  obtain ⟨field, hfield, rfl⟩ := List.mem_map.1 hname
  simp only [documentFields, List.mem_cons, List.mem_append, List.mem_map] at hfield
  obtain rfl | rfl | hprofile | ⟨entry, -, rfl⟩ := hfield
  · exact List.mem_append_left _ (by simp [plainFields])
  · exact List.mem_append_left _ (by simp [plainFields])
  · cases hvalue : config.profile with
    | none => simp [hvalue, Section.textField] at hprofile
    | some profile =>
        obtain rfl : field = ("profile", .text profile) := by
          simpa [hvalue, Section.textField] using hprofile
        simp [plainFields]
  · exact List.mem_append_right _ (List.mem_map_of_mem entry.1.mem_all)

theorem readSections_of_lookup {fields : List (String × Json)} {section? : Axis → Option Section}
    (hlookup : ∀ axis, Json.lookup? fields axis.name = (section? axis).map Section.toJson)
    (axes : List Axis) :
    readSections fields axes =
      .ok (axes.filterMap fun axis => (section? axis).map (axis, ·)) := by
  have hread (texts : Section) := Section.ofJson_eq_ok_iff.1 texts.ofJson_toJson
  have hsections (axis : Axis) :
      (Json.lookup? fields axis.name).map Section.ofValue = section? axis := by
    rw [hlookup, Option.map_map]
    exact (Option.map_congr fun texts _ => (hread texts).2.symm).trans Option.map_id'
  refine readSections_eq_ok_iff.2 ⟨?_, ?_⟩
  · intro axis _ value hvalue
    rw [hlookup] at hvalue
    obtain ⟨texts, -, rfl⟩ := Option.map_eq_some_iff.1 hvalue
    exact (hread texts).1
  · simp only [sectionsOf, hsections]

/-- The configuration with its sections in the order of reading. -/
def reread (config : RuleConfig) : RuleConfig :=
  { config with
    sections := readingOrder.filterMap fun axis => (config.section? axis).map (axis, ·) }

theorem section?_of_sections_ne_nil (h : config.sections ≠ []) :
    ∃ axis, (config.section? axis).isSome = true := by
  obtain ⟨⟨axis, texts⟩, hmem⟩ := List.exists_mem_of_ne_nil _ h
  exact ⟨axis, List.lookup_isSome_iff.2 ⟨(axis, texts), hmem, by simp⟩⟩

/-- What is read from the document of a configuration is the configuration itself, up to the order
of its sections, and nothing is noted. -/
theorem ofJson_toJson (h : config.WellFormed) :
    ofJson config.toJson = .ofResult (.ok config.reread) := by
  -- A configuration that names a profile has a section, so its document has one too.
  have hform : ((Json.lookup? config.documentFields "profile").isSome &&
      !hasSection config.documentFields) = false := by
    cases hprofile : config.profile with
    | none => simp [lookup_profile, hprofile]
    | some profile =>
        obtain ⟨axis, haxis⟩ := section?_of_sections_ne_nil (h.labelled (by simp [hprofile]))
        have hhas : hasSection config.documentFields = true :=
          List.any_eq_true.2 ⟨axis, axis.mem_all, by simpa [lookup_axis] using haxis⟩
        simp [hhas]
  have hread : ofSectionFields config.documentFields = .ok config.reread := by
    refine ofSectionFields_eq_ok_iff.2 ⟨unknownNames_documentFields config, ?_, ?_, ?_, ?_⟩
    · exact Policy.ofJson_name config.policy
    · exact readSections_of_lookup (lookup_axis config) readingOrder
    · exact ⟨some config.name, rfl, rfl⟩
    · have hprofile : config.reread.profile = config.profile := rfl
      rw [textField, lookup_profile, hprofile]
      cases config.profile <;> rfl
  rw [toJson_eq, ofJson, hform, hread]
  rfl

/-! ## Configurations that are the same -/

/-- The configurations have the same policy, name and profile, and the same section on each axis. -/
structure SameAs (config other : RuleConfig) : Prop where
  policy : config.policy = other.policy
  name : config.name = other.name
  profile : config.profile = other.profile
  sections : ∀ axis, config.section? axis = other.section? axis

theorem SameAs.symm (h : config.SameAs other) : other.SameAs config :=
  ⟨h.policy.symm, h.name.symm, h.profile.symm, fun axis => (h.sections axis).symm⟩

theorem reread_sameAs (config : RuleConfig) : config.reread.SameAs config := by
  refine ⟨rfl, rfl, rfl, ?_⟩
  intro axis
  have hlookup := lookup_filterMap config.section? readingOrder axis
  rwa [if_pos (mem_readingOrder axis)] at hlookup

theorem wellFormed_reread (h : config.WellFormed) : config.reread.WellFormed :=
  wellFormed_of_ofJson (congrArg Traced.result (ofJson_toJson h))

theorem SameAs.toJson (h : config.SameAs other) : config.toJson = other.toJson := by
  simp only [RuleConfig.toJson, ordered, h.policy, h.name, h.profile, h.sections]

/-- A configuration is valid if the section of some axis is there and all of them fit the policy. -/
theorem validate_of_section? (hdistinct : (config.sections.map Prod.fst).Nodup) {axis : Axis}
    (hsome : (config.section? axis).isSome = true)
    (hfits : ∀ axis texts, config.section? axis = some texts →
      checkSection config.policy axis texts = .ok ()) :
    config.validate = .ok () := by
  apply validate_eq_ok_iff.2
  constructor
  · obtain ⟨texts, htexts⟩ := Option.isSome_iff_exists.1 hsome
    exact List.ne_nil_of_mem (mem_of_lookup htexts)
  · intro entry hmem
    exact hfits entry.1 entry.2 (lookup_of_mem hdistinct hmem)

theorem SameAs.validate (h : config.SameAs other) (hother : other.WellFormed)
    (hvalid : config.validate = .ok ()) :
    other.validate = .ok () := by
  obtain ⟨hsome, hchecks⟩ := validate_eq_ok_iff.1 hvalid
  obtain ⟨axis, haxis⟩ := section?_of_sections_ne_nil hsome
  rw [h.sections] at haxis
  apply validate_of_section? hother.distinct haxis
  intro axis texts htexts
  rw [← h.policy]
  exact hchecks (axis, texts) (mem_of_lookup ((h.sections axis).trans htexts))

/-- Configurations have the same policy, the same name and the same patterns for each axis. -/
structure SamePatterns (config other : RuleConfig) : Prop where
  policy : config.policy = other.policy
  name : config.name = other.name
  pairs : ∀ axis, (config.section? axis).map (Section.pair config.policy) =
    (other.section? axis).map (Section.pair other.policy)

theorem SamePatterns.symm (h : config.SamePatterns other) : other.SamePatterns config :=
  ⟨h.policy.symm, h.name.symm, fun axis => (h.pairs axis).symm⟩

theorem SameAs.samePatterns (h : config.SameAs other) : config.SamePatterns other := by
  refine ⟨h.policy, h.name, ?_⟩
  intro axis
  rw [h.sections, h.policy]

theorem SamePatterns.exists_guard_iff (h : config.SamePatterns other) (axis : Axis) (guard : Guard) :
    (∃ texts, config.section? axis = some texts ∧
        Guard.ofPair (texts.pair config.policy) = .ok guard) ↔
      ∃ texts, other.section? axis = some texts ∧
        Guard.ofPair (texts.pair other.policy) = .ok guard := by
  have hpairs := h.pairs axis
  generalize config.section? axis = section?, other.section? axis = other? at hpairs ⊢
  cases section? with
  | none =>
      obtain rfl := Option.map_eq_none_iff.1 hpairs.symm
      simp
  | some texts =>
      obtain ⟨texts', rfl, htexts⟩ := Option.map_eq_some_iff.1 hpairs.symm
      simp [htexts]

/-- The rules of configurations of the same patterns have the same guards. -/
theorem SamePatterns.build (h : config.SamePatterns other)
    (hconfig : (config.sections.map Prod.fst).Nodup) (hother : (other.sections.map Prod.fst).Nodup)
    (hvalid : other.validate = .ok ()) {rule : Rule} (hbuild : config.build = .ok rule) :
    ∃ same, other.build = .ok same ∧ rule.Agrees same := by
  obtain ⟨-, hpolicy, hname, -⟩ := (build_eq_ok_iff hconfig).1 hbuild
  obtain ⟨same, hsame⟩ : ∃ same, other.build = .ok same := by
    refine exists_build hother hvalid ?_
    intro entry hmem
    have hsection : other.section? entry.1 = some entry.2 := lookup_of_mem hother hmem
    have hpair := h.pairs entry.1
    rw [hsection] at hpair
    obtain ⟨texts, htexts, hsame⟩ := Option.map_eq_some_iff.1 hpair
    rw [← hsame]
    exact exists_guard hconfig hbuild htexts
  obtain ⟨-, hpolicy', hname', -⟩ := (build_eq_ok_iff hother).1 hsame
  refine ⟨same, hsame, ?_, ?_, ?_⟩
  · rw [hpolicy, hpolicy', h.policy]
  · rw [hname, hname', h.name]
  · intro axis
    ext guard
    rw [guard?_eq_some_iff hconfig hbuild, guard?_eq_some_iff hother hsame, h.exists_guard_iff]

theorem SameAs.build (h : config.SameAs other) (hconfig : config.WellFormed)
    (hother : other.WellFormed) {rule : Rule} (hbuild : config.build = .ok rule) :
    ∃ same, other.build = .ok same ∧ rule.Agrees same := by
  have hvalid := ((build_eq_ok_iff hconfig.distinct).1 hbuild).1
  exact h.samePatterns.build hconfig.distinct hother.distinct (h.validate hother hvalid) hbuild

end RuleConfig

namespace FilterSetConfig

/-! ## Lists of rules -/

theorem ofJson_rules (rules : List Json) :
    ofJson (.object [("rules", .list rules)]) =
      ⟨(readRules rules).result.map FilterSetConfig.mk, (readRules rules).events⟩ := by
  have hofJson : ofJson (.object [("rules", .list rules)]) =
      readRules rules >>= fun rules => pure ⟨rules⟩ := rfl
  rw [hofJson]
  cases hread : (readRules rules).result with
  | error failure => exact Traced.bind_of_error hread
  | ok configs => exact (Traced.bind_of_ok hread).trans (by simp; rfl)

theorem wellFormed_of_readRules {values : List Json} {rules : List RuleConfig}
    (h : (readRules values).result = .ok rules) : ∀ rule ∈ rules, rule.WellFormed := by
  induction values generalizing rules with
  | nil =>
      obtain rfl := Except.ok.inj h
      simp
  | cons value rest ih =>
      simp only [readRules, Traced.result_bind_eq_ok_iff] at h
      obtain ⟨rule, hrule, others, hothers, h⟩ := h
      obtain rfl := Except.ok.inj h
      intro config hmem
      rcases List.mem_cons.1 hmem with rfl | hmem
      · exact RuleConfig.wellFormed_of_ofJson hrule
      · exact ih hothers config hmem

theorem result_readRules (values : List Json) :
    (readRules values).result = values.mapM fun value => (RuleConfig.ofJson value).result := by
  induction values with
  | nil => rfl
  | cons value rest ih =>
      rw [readRules, List.mapM_cons, ← ih]
      simp only [Traced.result_bind]
      rfl

theorem readRules_documents {rules : List RuleConfig} (h : ∀ rule ∈ rules, rule.WellFormed) :
    readRules (rules.map RuleConfig.toJson) = .ofResult (.ok (rules.map RuleConfig.reread)) := by
  induction rules with
  | nil => rfl
  | cons rule rest ih =>
      rw [List.forall_mem_cons] at h
      rw [List.map_cons, readRules, RuleConfig.ofJson_toJson h.1, ih h.2]
      rfl

theorem buildRules_eq_mapM (configs : List RuleConfig) :
    buildRules configs = configs.mapM RuleConfig.build := by
  induction configs with
  | nil => rfl
  | cons config rest ih => rw [buildRules, List.mapM_cons, ih]

theorem buildRules_eq_ok_iff {configs : List RuleConfig} {rules : List Rule} :
    buildRules configs = .ok rules ↔
      List.Forall₂ (fun config rule => config.build = .ok rule) configs rules := by
  rw [buildRules_eq_mapM, mapM_eq_ok_iff]

theorem buildRules_reread {configs : List RuleConfig} (h : ∀ config ∈ configs, config.WellFormed)
    {rules : List Rule} (hbuild : buildRules configs = .ok rules) :
    ∃ same, buildRules (configs.map RuleConfig.reread) = .ok same ∧
      List.Forall₂ Rule.Agrees rules same := by
  rw [buildRules_eq_ok_iff] at hbuild
  induction hbuild with
  | nil => exact ⟨[], rfl, .nil⟩
  | @cons config rule configs rules hrule _ ih =>
      rw [List.forall_mem_cons] at h
      obtain ⟨others, hothers, hagrees⟩ := ih h.2
      obtain ⟨same, hsame, hrule⟩ := (RuleConfig.reread_sameAs config).symm.build h.1
        (RuleConfig.wellFormed_reread h.1) hrule
      refine ⟨same :: others, ?_, .cons hrule hagrees⟩
      rw [buildRules_eq_ok_iff] at hothers ⊢
      exact .cons hsame hothers

theorem toJson_reread (configs : List RuleConfig) :
    toJson ⟨configs.map RuleConfig.reread⟩ = toJson ⟨configs⟩ := by
  have hsame (config : RuleConfig) : config.reread.toJson = config.toJson :=
    (RuleConfig.reread_sameAs config).toJson
  simp [toJson, hsame]

end FilterSetConfig

end RefFilter
