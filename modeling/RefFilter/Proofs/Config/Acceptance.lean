import RefFilter.Proofs.Config.Readers

/-! # Which documents are accepted

The document of a rule has one of two forms. In the flat form it names a profile and has values for
the fields of the profile; in the form with sections it has a value for at least one axis, and what
the sections set is what the policy uses. A check accepts exactly the documents of one of these
forms whose expressions are blank or can be read.
-/

namespace RefFilter.RuleConfig

/-! ## The two forms -/

structure FlatForm (profile : Profile) (fields : List (String × Json)) : Prop where
  unsectioned : ∀ axis : Axis, Json.lookup? fields axis.name = none
  labelled : ∃ label, Json.lookup? fields "profile" = some (.text label) ∧
    Profile.find? label = some profile
  named : ∀ value, Json.lookup? fields "name" = some value → value.IsTextOrNull
  legacy : ∀ value, Json.lookup? fields "legacy" = some value →
    ∃ asked, value = .bool asked ∧ (asked = true → profile.legacyDefaults ≠ [])
  others : ∀ field ∈ fields, field.1 ∉ ["profile", "name", "legacy"] →
    field.1 ∈ profile.fieldNames ∧ field.2.IsTextOrNull

def SetsText (fields : List (String × Json)) (axis : Axis) (key text : String) : Prop :=
  ∃ value, Json.lookup? fields axis.name = some value ∧ Section.Sets value key text

/-- The keys of the texts of a section that a policy does not use. -/
def unusedKeys : Policy → List String
  | .regex => ["includes", "excludes"]
  | .wildcard => ["regex"]

structure SectionForm (policy : Policy) (fields : List (String × Json)) : Prop where
  known : ∀ field ∈ fields,
    field.1 ∈ ["name", "policy", "profile"] ∨ ∃ axis : Axis, field.1 = axis.name
  governed : Json.lookup? fields "policy" = some (.text policy.name) ∨
    Json.lookup? fields "policy" = none ∧ policy = .wildcard
  labelled : ∀ key ∈ ["name", "profile"], ∀ value, Json.lookup? fields key = some value →
    value.IsTextOrNull
  sectioned : ∃ (axis : Axis) (value : Json), Json.lookup? fields axis.name = some value
  sections : ∀ (axis : Axis) (value : Json), Json.lookup? fields axis.name = some value →
    Section.Describes value
  fits : ∀ axis, ∀ key ∈ unusedKeys policy, ∀ text, ¬ SetsText fields axis key text

/-- Under the regex policy, the values of the fields of a profile are usable as expressions. -/
def FlatUsable (profile : Profile) (fields : List (String × Json)) : Prop :=
  profile.policy = .regex → ∀ field ∈ profile.fieldNames, ∀ source,
    Json.lookup? fields field = some (.text source) → Usable source

/-- Under the regex policy, the expressions of the sections are usable. -/
def SectionsUsable (policy : Policy) (fields : List (String × Json)) : Prop :=
  policy = .regex → ∀ axis source, SetsText fields axis "regex" source → Usable source

variable {fields : List (String × Json)}

/-! ## The flat form -/

theorem legacyField_iff {profile : Profile} :
    (∃ asked, legacyField fields = .ok asked ∧ (asked = true → profile.legacyDefaults ≠ [])) ↔
      ∀ value, Json.lookup? fields "legacy" = some value →
        ∃ asked, value = .bool asked ∧ (asked = true → profile.legacyDefaults ≠ []) := by
  simp only [legacyField_eq_ok_iff]
  cases Json.lookup? fields "legacy" with
  | none => simp
  | some value =>
      cases value with
      | bool asked => cases asked <;> simp
      | _ => simp

theorem legacyDefault_usable {profile : Profile} (hprofile : profile ∈ Profile.builtin)
    (hpolicy : profile.policy = .regex) : ∀ entry ∈ profile.legacyDefaults, Usable entry.2 := by
  have hdefaults : ∀ profile ∈ Profile.builtin, profile.policy = .regex →
      ∀ entry ∈ profile.legacyDefaults, entry.2 = "(?!.*)" := by decide +kernel
  intro entry hmem _
  rw [hdefaults profile hprofile hpolicy entry hmem]
  exact ⟨_, by cbv⟩

/-- Filling blank fields changes nothing in whether the value of a field is usable. -/
theorem usable_fillLegacy_iff {profile : Profile} (hprofile : profile ∈ Profile.builtin)
    (hpolicy : profile.policy = .regex) (values : Values) (key : String) :
    (∀ source, valueOf (fillLegacy profile values) key = some source → Usable source) ↔
      ∀ source, valueOf values key = some source → Usable source := by
  rcases valueOf_fillLegacy profile values key with hkept | ⟨hblank, default, hmem, hfilled⟩
  · rw [hkept]
  · have hdefault : Usable default := legacyDefault_usable hprofile hpolicy (key, default) hmem
    refine iff_of_true ?_ ?_
    · intro source hsource
      obtain rfl := Option.some.inj (hfilled.symm.trans hsource)
      exact hdefault
    · intro source hsource hgiven
      exact absurd ⟨hsource, hgiven⟩ (isBlank_iff.1 hblank source)

theorem mem_fieldNames_iff_of_regex {profile : Profile} (hprofile : profile ∈ Profile.builtin)
    (hpolicy : profile.policy = .regex) (field : String) :
    field ∈ profile.fieldNames ↔ ∃ entry ∈ profile.axes, entry.2.includes = field := by
  have hincludes : ∀ profile ∈ Profile.builtin, profile.policy = .regex →
      ∀ field ∈ profile.fieldNames, ∃ entry ∈ profile.axes, entry.2.includes = field := by
    decide +kernel
  constructor
  · exact hincludes profile hprofile hpolicy field
  · intro h
    obtain ⟨entry, hmem, rfl⟩ := h
    exact (Profile.fields_of_builtin hprofile).2 entry hmem _ List.mem_cons_self

/-- The rule of a profile is built exactly if the values of its fields are usable. -/
theorem exists_build_expand_iff {profile : Profile} (hprofile : profile ∈ Profile.builtin)
    (values : Values) (name : String) :
    (∃ rule, (expand profile values name).build = .ok rule) ↔
      (profile.policy = .regex → ∀ field ∈ profile.fieldNames, ∀ source,
        valueOf values field = some source → Usable source) := by
  have hwell := wellFormed_expand hprofile values name
  rw [exists_build_iff hwell.distinct, and_iff_right (validate_expand hprofile values name)]
  refine imp_congr_right fun hpolicy => ?_
  replace hpolicy : profile.policy = .regex := hpolicy
  have hregex (fields : AxisFields) :
      (profileSection profile.policy values fields).regex = valueOf values fields.includes := by
    rw [hpolicy]
    rfl
  constructor
  · intro h field hfield source hsource
    obtain ⟨entry, hmem, rfl⟩ := (mem_fieldNames_iff_of_regex hprofile hpolicy field).1 hfield
    have hentry : (entry.1, profileSection profile.policy values entry.2) ∈
        (expand profile values name).sections := List.mem_map.2 ⟨entry, hmem, rfl⟩
    exact h _ hentry source ((hregex entry.2).trans hsource)
  · intro h entry hmem source hsource
    obtain ⟨axis, haxis, rfl⟩ := List.mem_map.1 hmem
    have hfield : axis.2.includes ∈ profile.fieldNames :=
      (mem_fieldNames_iff_of_regex hprofile hpolicy _).2 ⟨axis, haxis, rfl⟩
    exact h _ hfield source ((hregex axis.2).symm.trans hsource)

/-- The flat fields give a rule of a profile exactly if their values are usable. -/
theorem exists_build_flat_iff {profile : Profile} (hprofile : profile ∈ Profile.builtin)
    (asked : Bool) (name : String) :
    (∃ rule, (expand profile
        (if asked then fillLegacy profile (flatValues fields) else flatValues fields) name).build =
          .ok rule) ↔ FlatUsable profile fields := by
  rw [exists_build_expand_iff hprofile]
  refine imp_congr_right fun hpolicy => forall₂_congr fun field hfield => ?_
  simp only [← Section.textAt_eq_some_iff,
    ← valueOf_flatValues ((Profile.fields_of_builtin hprofile).1 field hfield)]
  cases asked with
  | false => rfl
  | true => exact usable_fillLegacy_iff hprofile hpolicy _ field

theorem exists_rule_of_flat_iff (hunsectioned : ∀ axis : Axis, Json.lookup? fields axis.name = none) :
    (∃ config, (ofFlatFields fields).result = .ok config ∧ ∃ rule, config.build = .ok rule) ↔
      ∃ profile, FlatForm profile fields ∧ FlatUsable profile fields := by
  constructor
  · intro h
    obtain ⟨config, hread, hbuild⟩ := h
    obtain ⟨profile, label, asked, hlabel, hfind, hname, hasked, hlegacy, hothers, rfl⟩ :=
      ofFlatFields_eq_ok_iff.1 hread
    have hprofile : profile ∈ Profile.builtin := List.mem_of_find?_eq_some hfind
    refine ⟨profile, ?_, (exists_build_flat_iff hprofile asked _).1 hbuild⟩
    exact {
      unsectioned := hunsectioned
      labelled := ⟨label, hlabel, hfind⟩
      named := hname
      legacy := legacyField_iff.1 ⟨asked, hasked, hlegacy⟩
      others := hothers }
  · intro h
    obtain ⟨profile, hform, husable⟩ := h
    obtain ⟨label, hlabel, hfind⟩ := hform.labelled
    obtain ⟨asked, hasked, hlegacy⟩ := legacyField_iff.2 hform.legacy
    have hprofile : profile ∈ Profile.builtin := List.mem_of_find?_eq_some hfind
    have hread := ofFlatFields_eq_ok_iff.2 ⟨profile, label, asked, hlabel, hfind, hform.named,
      hasked, hlegacy, hform.others, rfl⟩
    exact ⟨_, hread, (exists_build_flat_iff hprofile asked _).2 husable⟩

/-! ## The form with sections -/

theorem checkSection_ofValue_iff {policy : Policy} {axis : Axis} {value : Json} :
    checkSection policy axis (Section.ofValue value) = .ok () ↔
      ∀ key ∈ unusedKeys policy, ∀ text, ¬ Section.Sets value key text := by
  have hnone (key : String) :
      (∀ text, ¬ Section.Sets value key text) ↔ Section.textIn value key = none := by
    rw [Option.eq_none_iff_forall_ne_some]
    simp only [← Section.textIn_eq_some_iff, ne_eq]
  simp only [hnone]
  cases policy with
  | regex =>
      cases hincludes : Section.textIn value "includes" <;>
        cases hexcludes : Section.textIn value "excludes" <;>
          simp [checkSection, unusedKeys, Section.ofValue, hincludes, hexcludes]
  | wildcard =>
      cases hregex : Section.textIn value "regex" <;>
        simp [checkSection, unusedKeys, Section.ofValue, hregex]

/-- What holds of all sections that are read holds of the texts of the value of every axis. -/
theorem forall_mem_sectionsOf {property : Axis × Section → Prop} :
    (∀ entry ∈ sectionsOf fields readingOrder, property entry) ↔
      ∀ (axis : Axis) (value : Json), Json.lookup? fields axis.name = some value →
        property (axis, Section.ofValue value) := by
  constructor
  · intro h axis value hvalue
    exact h _ (mem_sectionsOf.2 ⟨value, hvalue, rfl⟩)
  · intro h entry hmem
    obtain ⟨value, hvalue, htexts⟩ := mem_sectionsOf.1 hmem
    have hentry : entry = (entry.1, Section.ofValue value) := Prod.ext rfl htexts
    rw [hentry]
    exact h entry.1 value hvalue

theorem fits_iff {policy : Policy} :
    (∀ entry ∈ sectionsOf fields readingOrder, checkSection policy entry.1 entry.2 = .ok ()) ↔
      ∀ axis, ∀ key ∈ unusedKeys policy, ∀ text, ¬ SetsText fields axis key text := by
  rw [forall_mem_sectionsOf]
  simp only [checkSection_ofValue_iff]
  constructor
  · intro h axis key hkey text hsets
    obtain ⟨value, hvalue, htext⟩ := hsets
    exact h axis value hvalue key hkey text htext
  · intro h axis value hvalue key hkey text htext
    exact h axis key hkey text ⟨value, hvalue, htext⟩

theorem sectionsUsable_iff {policy : Policy} :
    (policy = .regex → ∀ entry ∈ sectionsOf fields readingOrder, ∀ source,
        entry.2.regex = some source → Usable source) ↔ SectionsUsable policy fields := by
  refine imp_congr_right fun _ => ?_
  rw [forall_mem_sectionsOf]
  simp only [Section.ofValue, Section.textIn_eq_some_iff]
  constructor
  · intro h axis source hsets
    obtain ⟨value, hvalue, htext⟩ := hsets
    exact h axis value hvalue source htext
  · intro h axis value hvalue source htext
    exact h axis source ⟨value, hvalue, htext⟩

theorem governed_iff {policy : Policy} :
    Policy.ofJson ((Json.lookup? fields "policy").getD (.text Policy.wildcard.name)) = .ok policy ↔
      Json.lookup? fields "policy" = some (.text policy.name) ∨
        Json.lookup? fields "policy" = none ∧ policy = .wildcard := by
  rw [Policy.ofJson_eq_ok_iff]
  cases Json.lookup? fields "policy" with
  | none => cases policy <;> simp [Policy.name]
  | some value => simp

theorem exists_rule_of_sections_iff :
    (∃ config, ofSectionFields fields = .ok config ∧ ∃ rule, config.build = .ok rule) ↔
      ∃ policy, SectionForm policy fields ∧ SectionsUsable policy fields := by
  constructor
  · intro h
    obtain ⟨⟨policy, sections, name, profile⟩, hread, hbuild⟩ := h
    obtain ⟨hknown, hpolicy, hsections, ⟨_, hname, -⟩, hprofile⟩ :=
      ofSectionFields_eq_ok_iff.1 hread
    obtain ⟨hvalid, husable⟩ := (exists_build_iff (distinct_readSections hsections)).1 hbuild
    obtain ⟨hdescribes, rfl⟩ := readSections_eq_ok_iff.1 hsections
    obtain ⟨hsome, hchecks⟩ := validate_eq_ok_iff.1 hvalid
    refine ⟨policy, ?_, sectionsUsable_iff.1 husable⟩
    exact {
      known := known_iff.1 hknown
      governed := governed_iff.1 hpolicy
      labelled := by
        rw [List.forall_mem_cons, List.forall_mem_singleton]
        exact ⟨(textField_eq_ok_iff.1 hname).1, (textField_eq_ok_iff.1 hprofile).1⟩
      sectioned := sectionsOf_ne_nil_iff.1 hsome
      sections := fun axis => hdescribes axis (mem_readingOrder axis)
      fits := fits_iff.1 hchecks }
  · intro h
    obtain ⟨policy, hform, husable⟩ := h
    have hname := textField_eq_ok_iff.2 ⟨hform.labelled "name" (by simp), rfl⟩
    have hprofile := textField_eq_ok_iff.2 ⟨hform.labelled "profile" (by simp), rfl⟩
    have hsections : readSections fields readingOrder = .ok (sectionsOf fields readingOrder) :=
      readSections_eq_ok_iff.2 ⟨fun axis _ => hform.sections axis, rfl⟩
    let config : RuleConfig := ⟨policy, sectionsOf fields readingOrder,
      (Section.textAt fields "name").getD "", Section.textAt fields "profile"⟩
    have hread : ofSectionFields fields = .ok config :=
      ofSectionFields_eq_ok_iff.2 ⟨known_iff.2 hform.known, governed_iff.2 hform.governed,
        hsections, ⟨_, hname, rfl⟩, hprofile⟩
    have hvalid : config.validate = .ok () :=
      validate_eq_ok_iff.2 ⟨sectionsOf_ne_nil_iff.2 hform.sectioned, fits_iff.2 hform.fits⟩
    exact ⟨config, hread, (exists_build_iff (distinct_readSections hsections)).2
      ⟨hvalid, sectionsUsable_iff.2 husable⟩⟩

/-! ## Acceptance -/

/-- A document has one of the two forms. -/
def Grammatical (value : Json) : Prop :=
  ∃ fields, value = .object fields ∧
    ((∃ profile, FlatForm profile fields) ∨ ∃ policy, SectionForm policy fields)

/-- The fields of the flat form are read as such. -/
theorem FlatForm.flat {profile : Profile} (h : FlatForm profile fields) :
    ((Json.lookup? fields "profile").isSome && !hasSection fields) = true := by
  have hnone : hasSection fields = false := by
    rw [← Bool.not_eq_true, hasSection_iff]
    simp [h.unsectioned]
  obtain ⟨label, hlabel, -⟩ := h.labelled
  rw [hlabel, hnone]
  rfl

theorem SectionForm.not_flat {policy : Policy} (h : SectionForm policy fields) :
    ((Json.lookup? fields "profile").isSome && !hasSection fields) = false := by
  rw [hasSection_iff.2 h.sectioned, Bool.not_true, Bool.and_false]

/-- The fields of an object give a rule exactly if they are of the flat form or of the form with
sections and their expressions are usable. -/
theorem exists_rule_iff :
    (∃ config, (ofJson (.object fields)).result = .ok config ∧ ∃ rule, config.build = .ok rule) ↔
      (∃ profile, FlatForm profile fields ∧ FlatUsable profile fields) ∨
        ∃ policy, SectionForm policy fields ∧ SectionsUsable policy fields := by
  unfold ofJson
  dsimp only
  split
  · rename_i hflat
    have hunsectioned : ∀ axis : Axis, Json.lookup? fields axis.name = none := by
      intro axis
      rw [Option.eq_none_iff_forall_ne_some]
      intro value hvalue
      simp [hasSection_iff.2 ⟨axis, value, hvalue⟩] at hflat
    have hsections : ¬ ∃ policy, SectionForm policy fields ∧ SectionsUsable policy fields := by
      intro h
      obtain ⟨policy, hform, -⟩ := h
      exact Bool.false_ne_true (hform.not_flat.symm.trans hflat)
    rw [or_iff_left hsections]
    exact exists_rule_of_flat_iff hunsectioned
  · rename_i hsectioned
    have hflat : ¬ ∃ profile, FlatForm profile fields ∧ FlatUsable profile fields := by
      intro h
      obtain ⟨profile, hform, -⟩ := h
      exact hsectioned hform.flat
    rw [or_iff_right hflat]
    exact exists_rule_of_sections_iff

theorem check_eq_success_iff {value : Json} :
    (check value).result = .ok .success ↔
      ∃ config, (ofJson value).result = .ok config ∧ ∃ rule, config.build = .ok rule := by
  have hsuccess : (check value).result = .ok .success ↔ ∃ rule, ruleOf value = .ok rule := by
    rw [result_check]
    cases ruleOf value with
    | ok rule => simp
    | error failure => cases failure <;> simp [Verdict.success, Verdict.failure]
  simp only [hsuccess, ruleOf, configOf, bind_eq_ok_iff]
  exact exists_comm.trans (exists_congr fun config => exists_and_left)

/-- A check accepts exactly the objects of the flat form and of the form with sections whose
expressions are usable. -/
theorem check_accepts_iff (value : Json) :
    (check value).result = .ok .success ↔
      ∃ fields, value = .object fields ∧
        ((∃ profile, FlatForm profile fields ∧ FlatUsable profile fields) ∨
          ∃ policy, SectionForm policy fields ∧ SectionsUsable policy fields) := by
  rw [check_eq_success_iff]
  cases value with
  | object fields =>
      simp only [Json.object.injEq, exists_eq_left']
      exact exists_rule_iff
  | _ => simp [ofJson, Traced.ofResult]

def unclosedGroup : Json :=
  .object [("policy", .text "regex"), ("branch", .object [("regex", .text "(")])]

theorem grammatical_not_accepted :
    Grammatical unclosedGroup ∧ (check unclosedGroup).result ≠ .ok .success := by
  constructor
  · have hlookup (axis : Axis) (value : Json)
        (h : Json.lookup? [("policy", .text "regex"), ("branch", .object [("regex", .text "(")])]
          axis.name = some value) : value = .object [("regex", .text "(")] := by
      cases axis <;> cases h
      rfl
    refine ⟨_, rfl, Or.inr ⟨.regex, ?_⟩⟩
    exact {
      known := by
        rw [List.forall_mem_cons, List.forall_mem_singleton]
        exact ⟨Or.inl (by decide), Or.inr ⟨.branch, rfl⟩⟩
      governed := Or.inl rfl
      labelled := by
        rw [List.forall_mem_cons, List.forall_mem_singleton]
        constructor
        · intro value h
          cases h
        · intro value h
          cases h
      sectioned := ⟨.branch, _, rfl⟩
      sections := by
        intro axis value hvalue
        refine Or.inr ⟨_, hlookup axis value hvalue, ?_⟩
        rw [List.forall_mem_singleton]
        exact ⟨by decide, Or.inr ⟨_, rfl⟩⟩
      fits := by
        intro axis key hkey text hsets
        obtain ⟨value, hvalue, members, hmembers, htext⟩ := hsets
        obtain rfl := Json.object.inj (hmembers.symm.trans (hlookup axis value hvalue))
        rcases List.mem_cons.1 hkey with rfl | hkey
        · cases htext
        · obtain rfl := List.mem_singleton.1 hkey
          cases htext }
  · intro h
    obtain ⟨config, hread, hbuild⟩ := check_eq_success_iff.1 h
    let texts : Section := ⟨none, none, some "("⟩
    have hconfig : (ofJson unclosedGroup).result = .ok ⟨.regex, [(.branch, texts)], "", none⟩ := by
      cbv
    obtain rfl := Except.ok.inj (hconfig.symm.trans hread)
    have husable : Usable "(" :=
      ((exists_build_iff (by simp)).1 hbuild).2 rfl _ List.mem_cons_self "(" rfl
    obtain ⟨regex, hregex⟩ := husable (by decide)
    have hparse : ∃ error, Regex.parse [] "(" = .error error := ⟨_, by cbv⟩
    obtain ⟨error, herror⟩ := hparse
    rw [herror] at hregex
    cases hregex

end RefFilter.RuleConfig
