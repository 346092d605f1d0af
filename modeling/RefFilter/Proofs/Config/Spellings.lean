import RefFilter.Proofs.Config.Readers

/-! # Spellings of a configuration

Texts for the fields of a profile can be written in three ways: as flat fields, as a section for
each axis, and as the arguments of a short form. Each of them gives a configuration that follows the
profile, with one section for each of its axes and the patterns that the texts give for it. So the
order of fields and of sections, fields that are shared between axes, and texts that are null play
no role in the rule that is built.
-/

namespace RefFilter

/-! ## Builds -/

/-- Two builds come out alike: both fail, or both give rules that agree and decide alike. -/
inductive BuildsAlike : Except Failure Rule → Except Failure Rule → Prop where
  | failures (failure other : Failure) : BuildsAlike (.error failure) (.error other)
  | rules {rule other : Rule} (agree : rule.Agrees other)
      (decide : ∀ reference, rule.decide reference = other.decide reference) :
      BuildsAlike (.ok rule) (.ok other)

namespace RuleConfig

variable {config other : RuleConfig} {profile : Profile}

theorem SamePatterns.buildsAlike (h : config.SamePatterns other)
    (hconfig : (config.sections.map Prod.fst).Nodup) (hother : (other.sections.map Prod.fst).Nodup)
    (hvalid : config.validate = .ok ()) (hvalid' : other.validate = .ok ()) :
    BuildsAlike config.build other.build := by
  cases hbuild : config.build with
  | ok rule =>
      obtain ⟨same, hsame, hagrees⟩ := h.build hconfig hother hvalid' hbuild
      rw [hsame]
      exact .rules hagrees hagrees.decide
  | error failure =>
      cases hbuild' : other.build with
      | ok rule =>
          obtain ⟨same, hsame, -⟩ := h.symm.build hother hconfig hvalid hbuild'
          rw [hbuild] at hsame
          cases hsame
      | error failure' => exact .failures failure failure'

/-! ## Configurations along a profile -/

/-- A configuration has the sections that the fields of the axes of a profile give, and they fit the
policy of the profile. -/
structure Follows (config : RuleConfig) (profile : Profile) (toSection : AxisFields → Section) :
    Prop where
  policy : config.policy = profile.policy
  distinct : (config.sections.map Prod.fst).Nodup
  sections : ∀ axis, config.section? axis = (profile.axes.lookup axis).map toSection
  fits : ∀ axis fields, checkSection profile.policy axis (toSection fields) = .ok ()

theorem Follows.validate {toSection : AxisFields → Section}
    (h : config.Follows profile toSection) (haxes : profile.axes ≠ []) :
    config.validate = .ok () := by
  obtain ⟨⟨axis, fields⟩, rest, hhead⟩ := List.exists_cons_of_ne_nil haxes
  have hsome : (config.section? axis).isSome = true := by
    rw [h.sections, hhead, List.lookup_cons_self]
    rfl
  apply validate_of_section? h.distinct hsome
  intro axis texts htexts
  rw [h.sections] at htexts
  obtain ⟨fields, -, rfl⟩ := Option.map_eq_some_iff.1 htexts
  rw [h.policy]
  exact h.fits axis fields

/-- Configurations that follow one profile are built alike, if they make the same patterns of its
fields. -/
theorem Follows.buildsAlike {toSection toOther : AxisFields → Section}
    (h : config.Follows profile toSection) (h' : other.Follows profile toOther)
    (haxes : profile.axes ≠ []) (hname : config.name = other.name)
    (hpairs : ∀ fields,
      (toSection fields).pair profile.policy = (toOther fields).pair profile.policy) :
    BuildsAlike config.build other.build := by
  have hsame : config.SamePatterns other := by
    refine ⟨h.policy.trans h'.policy.symm, hname, ?_⟩
    intro axis
    rw [h.sections, h'.sections, Option.map_map, Option.map_map, h.policy, h'.policy]
    exact Option.map_congr fun fields _ => hpairs fields
  exact hsame.buildsAlike h.distinct h'.distinct (h.validate haxes) (h'.validate haxes)

/-! ## The section of an axis -/

/-- The document of the section of an axis, with the names that the policy uses. -/
def sectionValue (policy : Policy) (texts : String → Option String) (fields : AxisFields) : Json :=
  match policy with
  | .regex => .object [("regex", .ofText? (texts fields.includes))]
  | .wildcard =>
    .object (("includes", .ofText? (texts fields.includes)) ::
      fields.excludes.toList.map fun field => ("excludes", .ofText? (texts field)))

@[simp] theorem textOf?_ofText? (text : Option String) : Section.textOf? (.ofText? text) = text := by
  cases text <;> rfl

theorem isTextOrNull_ofText? (text : Option String) : (Json.ofText? text).IsTextOrNull := by
  cases text with
  | none => exact Or.inl rfl
  | some text => exact Or.inr ⟨text, rfl⟩

theorem describes_sectionValue (policy : Policy) (texts : String → Option String)
    (fields : AxisFields) : Section.Describes (sectionValue policy texts fields) := by
  right
  cases policy with
  | regex =>
      refine ⟨_, rfl, ?_⟩
      rw [List.forall_mem_singleton]
      exact ⟨by simp [Section.fieldNames], isTextOrNull_ofText? _⟩
  | wildcard =>
      refine ⟨_, rfl, ?_⟩
      rw [List.forall_mem_cons, List.forall_mem_map]
      constructor
      · exact ⟨by simp [Section.fieldNames], isTextOrNull_ofText? _⟩
      · intro field _
        exact ⟨by simp [Section.fieldNames], isTextOrNull_ofText? _⟩

theorem ofValue_sectionValue (policy : Policy) (texts : String → Option String)
    (fields : AxisFields) :
    Section.ofValue (sectionValue policy texts fields) = textsSection policy texts fields := by
  obtain ⟨includes, excludes⟩ := fields
  cases policy with
  | regex =>
      simp [Section.ofValue, Section.textIn, Section.textAt, Json.lookup?, sectionValue, textsSection,
        Section.ofRegex, List.lookup]
  | wildcard =>
      cases excludes <;>
        simp [Section.ofValue, Section.textIn, Section.textAt, Json.lookup?, sectionValue,
          textsSection, Section.ofWildcards, List.lookup]

/-! ## The flat form -/

/-- What a profile makes of values follows it. -/
theorem follows_expand (hprofile : profile ∈ Profile.builtin) {values : Values}
    {texts : String → Option String}
    (htexts : ∀ field ∈ profile.fieldNames, valueOf values field = texts field) (name : String) :
    (expand profile values name).Follows profile (textsSection profile.policy texts) := by
  refine ⟨rfl, (wellFormed_expand hprofile values name).distinct, ?_,
    checkSection_textsSection profile.policy texts⟩
  intro axis
  have hsection : (expand profile values name).section? axis =
      (profile.axes.lookup axis).map (profileSection profile.policy values) :=
    lookup_map Function.injective_id _ _ _
  rw [hsection]
  apply Option.map_congr
  intro fields hfields
  have hentry := mem_of_lookup (Option.mem_def.1 hfields)
  have hnames (field : String) (hfield : field ∈ fields.names) :
      valueOf values field = texts field :=
    htexts field ((Profile.fields_of_builtin hprofile).2 _ hentry field hfield)
  rw [profileSection_eq, textsSection_congr hnames]

def flatFields (label name : String) (profile : Profile) (texts : String → Option String) :
    List (String × Json) :=
  ("profile", .text label) :: ("name", .text name) ::
    profile.fieldNames.map fun field => (field, .ofText? (texts field))

section FlatFields

variable {label name : String} {texts : String → Option String} {flat : List (String × Json)}

theorem flatKeys_of_builtin (hprofile : profile ∈ Profile.builtin) :
    ("profile" :: "name" :: profile.fieldNames).Nodup ∧
      "legacy" ∉ "profile" :: "name" :: profile.fieldNames ∧
        ∀ axis ∈ Axis.all, axis.name ∉ "profile" :: "name" :: profile.fieldNames := by
  revert profile
  decide +kernel

theorem of_mem_flatFields {field : String × Json}
    (hmem : field ∈ flatFields label name profile texts) (hmeta : field.1 ∉ metaFields) :
    field.1 ∈ profile.fieldNames ∧ field.2.IsTextOrNull := by
  rcases List.mem_cons.1 hmem with rfl | hmem
  · exact absurd (by simp [metaFields]) hmeta
  · rcases List.mem_cons.1 hmem with rfl | hmem
    · exact absurd (by simp [metaFields]) hmeta
    · obtain ⟨key, hkey, rfl⟩ := List.mem_map.1 hmem
      exact ⟨hkey, isTextOrNull_ofText? _⟩

theorem keys_flatFields (label name : String) (profile : Profile)
    (texts : String → Option String) :
    (flatFields label name profile texts).map Prod.fst =
      "profile" :: "name" :: profile.fieldNames := by
  simp [flatFields, Function.comp_def]

theorem nodup_keys_flatFields (hprofile : profile ∈ Profile.builtin) :
    ((flatFields label name profile texts).map Prod.fst).Nodup := by
  rw [keys_flatFields]
  exact (flatKeys_of_builtin hprofile).1

theorem lookup_flat (hprofile : profile ∈ Profile.builtin)
    (hflat : flat.Perm (flatFields label name profile texts)) {key : String} {value : Json}
    (hmem : (key, value) ∈ flatFields label name profile texts) :
    Json.lookup? flat key = some value :=
  lookup_of_mem_of_perm hflat (nodup_keys_flatFields hprofile) hmem

theorem lookup_flat_eq_none (hflat : flat.Perm (flatFields label name profile texts)) {key : String}
    (hkey : key ∉ "profile" :: "name" :: profile.fieldNames) : Json.lookup? flat key = none := by
  rw [← keys_flatFields label name profile texts] at hkey
  exact lookup_eq_none_of_perm hflat hkey

theorem valueOf_flat (hprofile : profile ∈ Profile.builtin)
    (hflat : flat.Perm (flatFields label name profile texts)) {field : String}
    (hfield : field ∈ profile.fieldNames) : valueOf (flatValues flat) field = texts field := by
  have hmem : (field, Json.ofText? (texts field)) ∈ flatFields label name profile texts :=
    List.mem_cons_of_mem _ (List.mem_cons_of_mem _ (List.mem_map.2 ⟨field, hfield, rfl⟩))
  rw [valueOf_flatValues ((Profile.fields_of_builtin hprofile).1 field hfield), Section.textAt,
    lookup_flat hprofile hflat hmem, Option.bind_some, textOf?_ofText?]

theorem ofFlatFields_flat (hfind : Profile.find? label = some profile)
    (hflat : flat.Perm (flatFields label name profile texts)) :
    (ofFlatFields flat).result = .ok (expand profile (flatValues flat) name) := by
  have hprofile : profile ∈ Profile.builtin := List.mem_of_find?_eq_some hfind
  have hlabel : Json.lookup? flat "profile" = some (.text label) :=
    lookup_flat hprofile hflat List.mem_cons_self
  have hname : Json.lookup? flat "name" = some (.text name) :=
    lookup_flat hprofile hflat (List.mem_cons_of_mem _ List.mem_cons_self)
  have hlegacy : legacyField flat = .ok false :=
    legacyField_eq_ok_iff.2
      (Or.inl ⟨lookup_flat_eq_none hflat (flatKeys_of_builtin hprofile).2.1, rfl⟩)
  apply ofFlatFields_eq_ok_iff.2
  refine ⟨profile, label, false, hlabel, hfind, ?_, hlegacy, (fun h => nomatch h), ?_, ?_⟩
  · intro value hvalue
    obtain rfl := Option.some.inj (hname.symm.trans hvalue)
    exact Or.inr ⟨name, rfl⟩
  · intro field hmem
    exact of_mem_flatFields (hflat.subset hmem)
  · rw [Section.textAt_eq_some_iff.2 hname]
    rfl

/-- The flat fields of a profile are read, and what is read follows the profile. -/
theorem ofJson_flat (hfind : Profile.find? label = some profile)
    (hflat : flat.Perm (flatFields label name profile texts)) :
    ∃ config, (ofJson (.object flat)).result = .ok config ∧ config.name = name ∧
      config.profile = some profile.name ∧
        config.Follows profile (textsSection profile.policy texts) := by
  have hprofile : profile ∈ Profile.builtin := List.mem_of_find?_eq_some hfind
  have hform : ofJson (.object flat) = ofFlatFields flat := by
    have hlabel : Json.lookup? flat "profile" = some (.text label) :=
      lookup_flat hprofile hflat List.mem_cons_self
    have hnone : hasSection flat = false := by
      rw [hasSection, List.any_eq_false]
      intro axis haxis
      rw [lookup_flat_eq_none hflat ((flatKeys_of_builtin hprofile).2.2 axis haxis)]
      simp
    simp [ofJson, hlabel, hnone]
  refine ⟨expand profile (flatValues flat) name, ?_, rfl, rfl, ?_⟩
  · rw [hform]
    exact ofFlatFields_flat hfind hflat
  · exact follows_expand hprofile (fun field => valueOf_flat hprofile hflat) name

end FlatFields

/-! ## The form with sections -/

/-- The fields of the form with sections, with a section for each axis of a profile. -/
def sectionFields (name : String) (profile : Profile) (texts : String → Option String) :
    List (String × Json) :=
  ("policy", .text profile.policy.name) :: ("name", .text name) ::
    profile.axes.map fun entry => (entry.1.name, sectionValue profile.policy texts entry.2)

section SectionFields

variable {name : String} {texts : String → Option String} {fields : List (String × Json)}

theorem sectionKeys_of_builtin (hprofile : profile ∈ Profile.builtin) :
    ("policy" :: "name" :: profile.axes.map fun entry => entry.1.name).Nodup ∧
      "profile" ∉ "policy" :: "name" :: profile.axes.map fun entry => entry.1.name := by
  revert profile
  decide +kernel

theorem of_mem_sectionFields {field : String × Json}
    (hmem : field ∈ sectionFields name profile texts) :
    field.1 ∈ ["name", "policy", "profile"] ∨ ∃ axis : Axis, field.1 = axis.name := by
  rcases List.mem_cons.1 hmem with rfl | hmem
  · exact Or.inl (by simp)
  · rcases List.mem_cons.1 hmem with rfl | hmem
    · exact Or.inl (by simp)
    · obtain ⟨entry, -, rfl⟩ := List.mem_map.1 hmem
      exact Or.inr ⟨entry.1, rfl⟩

theorem keys_sectionFields (name : String) (profile : Profile) (texts : String → Option String) :
    (sectionFields name profile texts).map Prod.fst =
      "policy" :: "name" :: profile.axes.map fun entry => entry.1.name := by
  simp [sectionFields, Function.comp_def]

theorem nodup_keys_sectionFields (hprofile : profile ∈ Profile.builtin) :
    ((sectionFields name profile texts).map Prod.fst).Nodup := by
  rw [keys_sectionFields]
  exact (sectionKeys_of_builtin hprofile).1

theorem lookup_axis_of_perm (hprofile : profile ∈ Profile.builtin)
    (hfields : fields.Perm (sectionFields name profile texts)) (axis : Axis) :
    Json.lookup? fields axis.name =
      (profile.axes.lookup axis).map (sectionValue profile.policy texts) := by
  have hpolicy : axis.name ≠ "policy" := by cases axis <;> decide
  have hname : axis.name ≠ "name" := by cases axis <;> decide
  rw [Json.lookup?, lookup_of_perm hfields (nodup_keys_sectionFields hprofile), sectionFields,
    List.lookup_cons, beq_false_of_ne hpolicy]
  dsimp only
  rw [List.lookup_cons, beq_false_of_ne hname]
  exact lookup_map Axis.name_injective _ _ _

theorem lookup_profile_of_perm (hprofile : profile ∈ Profile.builtin)
    (hfields : fields.Perm (sectionFields name profile texts)) :
    Json.lookup? fields "profile" = none := by
  refine lookup_eq_none_of_perm hfields ?_
  rw [keys_sectionFields]
  exact (sectionKeys_of_builtin hprofile).2

theorem ofSectionFields_sections (hprofile : profile ∈ Profile.builtin)
    (hfields : fields.Perm (sectionFields name profile texts)) :
    ofSectionFields fields =
      .ok ⟨profile.policy, sectionsOf fields readingOrder, name, none⟩ := by
  have hlookup {key : String} {value : Json}
      (hmem : (key, value) ∈ sectionFields name profile texts) :
      Json.lookup? fields key = some value :=
    lookup_of_mem_of_perm hfields (nodup_keys_sectionFields hprofile) hmem
  have hpolicy : Json.lookup? fields "policy" = some (.text profile.policy.name) :=
    hlookup List.mem_cons_self
  have hname : Json.lookup? fields "name" = some (.text name) :=
    hlookup (List.mem_cons_of_mem _ List.mem_cons_self)
  have hsections : readSections fields readingOrder = .ok (sectionsOf fields readingOrder) := by
    refine readSections_eq_ok_iff.2 ⟨?_, rfl⟩
    intro axis _ value hvalue
    rw [lookup_axis_of_perm hprofile hfields] at hvalue
    obtain ⟨axisFields, -, rfl⟩ := Option.map_eq_some_iff.1 hvalue
    exact describes_sectionValue _ _ _
  apply ofSectionFields_eq_ok_iff.2
  refine ⟨?_, ?_, hsections, ⟨some name, ?_, rfl⟩, ?_⟩
  · exact known_iff.2 fun field hmem => of_mem_sectionFields (hfields.subset hmem)
  · rw [hpolicy]
    exact Policy.ofJson_name profile.policy
  · rw [textField, hname]
  · rw [textField, lookup_profile_of_perm hprofile hfields]

/-- A section for each axis of a profile is read, and what is read follows the profile. -/
theorem ofJson_sections (hprofile : profile ∈ Profile.builtin)
    (hfields : fields.Perm (sectionFields name profile texts)) :
    ∃ config, (ofJson (.object fields)).result = .ok config ∧ config.name = name ∧
      config.profile = none ∧ config.Follows profile (textsSection profile.policy texts) := by
  have hread := ofSectionFields_sections hprofile hfields
  have hform : (ofJson (.object fields)).result = ofSectionFields fields := by
    simp [ofJson, lookup_profile_of_perm hprofile hfields, Traced.ofResult]
  refine ⟨_, hform.trans hread, rfl, rfl, ?_⟩
  obtain ⟨-, -, hsections, -, -⟩ := ofSectionFields_eq_ok_iff.1 hread
  refine ⟨rfl, distinct_readSections hsections, ?_, checkSection_textsSection profile.policy texts⟩
  intro axis
  have hsection : (sectionsOf fields readingOrder).lookup axis =
      (Json.lookup? fields axis.name).map Section.ofValue := lookup_sectionsOf fields axis
  rw [RuleConfig.section?, hsection, lookup_axis_of_perm hprofile hfields, Option.map_map]
  exact Option.map_congr fun axisFields _ => ofValue_sectionValue _ _ _

end SectionFields

/-! ## Short forms -/

/-- The rule of the short form of a policy, with the texts for the axes of a profile. Null is
replaced by the blank expression. -/
def shortForm (name : String) (profile : Profile) (texts : String → Option String) :
    Except Failure Rule :=
  match profile.policy with
  | .regex =>
    Rule.ofRegexes name fun axis =>
      (profile.axes.lookup axis).map fun fields => (texts fields.includes).getD ""
  | .wildcard =>
    Rule.ofWildcards name fun axis =>
      (profile.axes.lookup axis).map fun fields =>
        (texts fields.includes, fields.excludes.bind texts)

theorem follows_given {α : Type} {arguments : AxisFields → α} {toSection : α → Section}
    {policy : Policy} (hpolicy : profile.policy = policy)
    (hfits : ∀ axis argument, checkSection policy axis (toSection argument) = .ok ())
    (name : String) :
    Follows ⟨policy, Rule.given (fun axis => (profile.axes.lookup axis).map arguments) toSection,
      name, none⟩ profile fun fields => toSection (arguments fields) := by
  let section? (axis : Axis) : Option Section :=
    (profile.axes.lookup axis).map fun fields => toSection (arguments fields)
  have hgiven : Rule.given (fun axis => (profile.axes.lookup axis).map arguments) toSection =
      Axis.all.filterMap fun axis => (section? axis).map (axis, ·) := by
    simp only [Rule.given, section?, Option.map_map, Function.comp_def]
  rw [hgiven, ← hpolicy]
  refine ⟨rfl, distinct_filterMap section? (by decide), ?_, ?_⟩
  · intro axis
    have hlookup := lookup_filterMap section? Axis.all axis
    rwa [if_pos axis.mem_all] at hlookup
  · intro axis fields
    rw [hpolicy]
    exact hfits axis (arguments fields)

/-- What follows a profile with some texts is built like the short form of the texts. -/
theorem buildsAlike_shortForm {name : String} {texts : String → Option String}
    (haxes : profile.axes ≠ []) (hname : config.name = name)
    (h : config.Follows profile (textsSection profile.policy texts)) :
    BuildsAlike config.build (shortForm name profile texts) := by
  unfold shortForm
  split
  · rename_i hpolicy
    refine h.buildsAlike (follows_given hpolicy (fun _ _ => rfl) name) haxes hname ?_
    intro fields
    rw [hpolicy]
    cases htext : texts fields.includes with
    | none =>
        rw [textsSection, htext]
        rfl
    | some text =>
        rw [textsSection, htext]
        rfl
  · rename_i hpolicy
    refine h.buildsAlike (follows_given hpolicy (fun _ _ => rfl) name) haxes hname ?_
    intro fields
    rw [hpolicy]
    rfl

/-- The flat fields of a profile and the sections of its axes are both read, in any order of the
fields, as configurations that differ only in saying the profile, and their rules and the rule of the
short form come out alike. -/
theorem spellings_build_alike (hprofile : profile ∈ Profile.builtin) {label : String}
    (hlabel : label ∈ profile.name :: profile.symbol.toList) {name : String}
    {texts : String → Option String} {flat fields : List (String × Json)}
    (hflat : flat.Perm (flatFields label name profile texts))
    (hfields : fields.Perm (sectionFields name profile texts)) :
    ∃ config other, (ofJson (.object flat)).result = .ok config ∧
      (ofJson (.object fields)).result = .ok other ∧
      config.profile = some profile.name ∧ SameAs { config with profile := none } other ∧
      BuildsAlike config.build other.build ∧
      BuildsAlike config.build (shortForm name profile texts) := by
  have haxes : profile.axes ≠ [] := by
    intro hnil
    exact (wellFormed_expand hprofile [] name).labelled rfl (List.map_eq_nil_iff.2 hnil)
  obtain ⟨config, hread, hname, hlabelled, hfollows⟩ :=
    ofJson_flat (Profile.find?_of_label hprofile hlabel) hflat
  obtain ⟨other, hread', hname', hlabelled', hfollows'⟩ := ofJson_sections hprofile hfields
  have hnames : config.name = other.name := hname.trans hname'.symm
  have hsame : SameAs { config with profile := none } other :=
    ⟨hfollows.policy.trans hfollows'.policy.symm, hnames, hlabelled'.symm,
      fun axis => (hfollows.sections axis).trans (hfollows'.sections axis).symm⟩
  exact ⟨config, other, hread, hread', hlabelled, hsame,
    hfollows.buildsAlike hfollows' haxes hnames (fun _ => rfl),
    buildsAlike_shortForm haxes hname hfollows⟩

def sharedTexts (field : String) : Option String :=
  if field = "regex" then some "main|release/.*" else none

theorem sharedTexts_spellings :
    ∃ config other,
      (ofJson (.object [("tagRegex", .null), ("regex", .text "main|release/.*"),
        ("name", .text "heads"), ("profile", .text "headRegexFilterWithPR")])).result = .ok config ∧
      (ofJson (.object [("pr_destination", .object [("regex", .text "main|release/.*")]),
        ("tag", .object [("regex", .null)]), ("branch", .object [("regex", .text "main|release/.*")]),
        ("name", .text "heads"), ("policy", .text "regex")])).result = .ok other ∧
      config.profile = some "regex_head_with_pr" ∧ SameAs { config with profile := none } other ∧
      BuildsAlike config.build other.build ∧
      BuildsAlike config.build (shortForm "heads" Profile.builtin[12] sharedTexts) ∧
      ∃ rule, shortForm "heads" Profile.builtin[12] sharedTexts = .ok rule := by
  have hprofile : Profile.builtin[12] ∈ Profile.builtin := List.getElem_mem _
  have hlabel : "headRegexFilterWithPR" ∈
      Profile.builtin[12].name :: Profile.builtin[12].symbol.toList := by decide
  have hflat := List.reverse_perm
    (flatFields "headRegexFilterWithPR" "heads" Profile.builtin[12] sharedTexts)
  have hfields := List.reverse_perm (sectionFields "heads" Profile.builtin[12] sharedTexts)
  obtain ⟨config, other, hread, hread', hprofiled, hsame, hbuild, hshort⟩ :=
    spellings_build_alike hprofile hlabel hflat hfields
  refine ⟨config, other, hread, hread', hprofiled, hsame, hbuild, hshort, ?_⟩
  have hheads : Usable "main|release/.*" := fun _ => ⟨_, by cbv⟩
  have hblank : Usable "" := fun hfilled => absurd (by decide) hfilled
  have hsections : shortForm "heads" Profile.builtin[12] sharedTexts =
      build ⟨.regex, [(.branch, .ofRegex (some "main|release/.*")), (.tag, .ofRegex (some "")),
        (.prDestination, .ofRegex (some "main|release/.*"))], "heads", none⟩ := rfl
  rw [hsections, exists_build_iff (by decide)]
  refine ⟨rfl, ?_⟩
  simp [Section.ofRegex, hheads, hblank]

end RuleConfig

end RefFilter
