import RefFilter.Proofs.Config.Defaults
import RefFilter.Proofs.Rule.Construction

/-! # What the readers of a configuration accept

One statement for each reader tells exactly which fields it accepts and what it makes of them, and
one for building tells which configurations have a rule. A label names at most one profile. Filling
the blank fields of a profile changes no other field.
-/

namespace RefFilter

open Text

/-! ## Profiles -/

namespace Profile

theorem find_eq_ok_iff {label : String} {profile : Profile} :
    find label = .ok profile ↔ find? label = some profile := by
  unfold find
  cases find? label <;> simp

/-- No two profiles have a key in common, and none has the empty one. -/
theorem nodup_keys : ("" :: builtin.flatMap keys).Nodup := by
  decide +kernel

theorem find?_eq_some_iff {label : String} {profile : Profile} :
    find? label = some profile ↔ profile ∈ builtin ∧ toLower (trim label) ∈ profile.keys := by
  constructor
  · intro h
    have hkey := List.find?_some h
    exact ⟨List.mem_of_find?_eq_some h, List.contains_iff_mem.1 hkey⟩
  · intro h
    have hdisjoint := (List.nodup_flatMap.1 (List.nodup_cons.1 nodup_keys).2).2
    exact find?_of_disjoint hdisjoint h.1 h.2

theorem find?_empty : find? "" = none := by
  rw [Option.eq_none_iff_forall_ne_some]
  intro profile hprofile
  obtain ⟨hmem, hkey⟩ := find?_eq_some_iff.1 hprofile
  have hempty : toLower (trim "") = "" := by decide
  rw [hempty] at hkey
  exact (List.nodup_cons.1 nodup_keys).1 (List.mem_flatMap.2 ⟨profile, hmem, hkey⟩)

theorem keys_eq_map (profile : Profile) :
    profile.keys = (profile.name :: profile.symbol.toList).map toLower := by
  rw [keys, List.map_cons, Option.toList_map]

/-- A profile is found by its name and by its other name. -/
theorem find?_of_label {profile : Profile} (hprofile : profile ∈ builtin) {label : String}
    (hlabel : label ∈ profile.name :: profile.symbol.toList) : find? label = some profile := by
  have htrimmed : ∀ profile ∈ builtin, ∀ label ∈ profile.name :: profile.symbol.toList,
      trim label = label := by decide +kernel
  rw [find?_eq_some_iff, htrimmed profile hprofile label hlabel, keys_eq_map]
  exact ⟨hprofile, List.mem_map_of_mem hlabel⟩

/-- The legacy fields of a profile are fields of it, and no field has a name that is reserved. -/
theorem fields_of_builtin {profile : Profile} (h : profile ∈ builtin) :
    (∀ field ∈ profile.fieldNames, field ∉ RuleConfig.metaFields) ∧
      ∀ entry ∈ profile.axes, ∀ field ∈ entry.2.names, field ∈ profile.fieldNames := by
  revert profile
  decide +kernel

end Profile

namespace RuleConfig

/-! ## Single fields -/

section Field

variable {fields : List (String × Json)}

theorem textField_eq_ok_iff {key : String} {text : Option String} :
    textField fields key = .ok text ↔
      (∀ value, Json.lookup? fields key = some value → value.IsTextOrNull) ∧
        text = Section.textAt fields key := by
  unfold textField Section.textAt
  cases Json.lookup? fields key with
  | none => simp [eq_comm]
  | some value => cases value <;> simp [Json.IsTextOrNull, Section.textOf?, eq_comm]

theorem legacyField_eq_ok_iff {asked : Bool} :
    legacyField fields = .ok asked ↔
      Json.lookup? fields "legacy" = none ∧ asked = false ∨
        Json.lookup? fields "legacy" = some (.bool asked) := by
  unfold legacyField
  cases Json.lookup? fields "legacy" with
  | none => simp [eq_comm]
  | some value => cases value <;> simp

/-! ## Values of a profile -/

def flatValues (fields : List (String × Json)) : Values :=
  (fields.filter fun field => !metaFields.contains field.1).map fun field =>
    (field.1, Section.textOf? field.2)

theorem valueOf_flatValues {key : String} (h : key ∉ metaFields) :
    valueOf (flatValues fields) key = Section.textAt fields key := by
  rw [valueOf, flatValues, Section.textAt, Json.lookup?]
  induction fields with
  | nil => rfl
  | cons field rest ih =>
      rw [List.lookup_cons]
      cases hkey : key == field.1 with
      | true =>
          have hname : field.1 ∉ metaFields := by rwa [← eq_of_beq hkey]
          simp [hname, List.lookup_cons, hkey]
      | false =>
          by_cases hname : field.1 ∈ metaFields
          · simpa [hname] using ih
          · simpa [hname, List.lookup_cons, hkey] using ih

theorem unknownFields_eq_nil_iff {profile : Profile} {values : Values} :
    Section.unknownNames profile.fieldNames (values.map Prod.fst) = [] ↔
      ∀ value ∈ values, value.1 ∈ profile.fieldNames := by
  rw [Section.unknownNames_eq_nil_iff, List.forall_mem_map]

theorem ofProfile_eq_ok_iff {profile : Profile} {values : Values} {name : String} {legacy : Bool}
    {config : RuleConfig} :
    (ofProfile profile values name legacy).result = .ok config ↔
      (∀ value ∈ values, value.1 ∈ profile.fieldNames) ∧
        (legacy = true → profile.legacyDefaults ≠ []) ∧
        config = expand profile (if legacy then fillLegacy profile values else values) name := by
  rw [← unknownFields_eq_nil_iff]
  unfold ofProfile
  split
  · rename_i hknown
    cases legacy with
    | false => simp [hknown, eq_comm]
    | true =>
        by_cases hnone : profile.legacyDefaults = []
        · simp [hnone, ofProfile.throwFailure, Traced.ofResult]
        · have hfilled : (Traced.note (.legacyDefaults profile.name (blankLegacy profile values)) >>=
              fun _ => pure (expand profile (fillLegacy profile values) name) :
                Traced RuleConfig).result = .ok (expand profile (fillLegacy profile values) name) :=
            rfl
          simp [hnone, hknown, hfilled, @eq_comm _ config]
  · rename_i hunknown
    refine iff_of_false (by simp [ofProfile.throwFailure, Traced.ofResult]) ?_
    intro h
    exact hunknown h.1

/-- The flat form is read from exactly the objects that name a profile and have texts or null for
its fields, and it is what the profile makes of them. -/
theorem ofFlatFields_eq_ok_iff {config : RuleConfig} :
    (ofFlatFields fields).result = .ok config ↔
      ∃ profile label asked, Json.lookup? fields "profile" = some (.text label) ∧
        Profile.find? label = some profile ∧
        (∀ value, Json.lookup? fields "name" = some value → value.IsTextOrNull) ∧
        legacyField fields = .ok asked ∧ (asked = true → profile.legacyDefaults ≠ []) ∧
        (∀ field ∈ fields, field.1 ∉ metaFields →
          field.1 ∈ profile.fieldNames ∧ field.2.IsTextOrNull) ∧
        config = expand profile
          (if asked then fillLegacy profile (flatValues fields) else flatValues fields)
          ((Section.textAt fields "name").getD "") := by
  have hkeys (profile : Profile) : (∀ value ∈ flatValues fields, value.1 ∈ profile.fieldNames) ↔
      ∀ field ∈ fields, field.1 ∉ metaFields → field.1 ∈ profile.fieldNames := by
    rw [flatValues, List.forall_mem_map]
    simp
  have htexts : Section.checkTexts (fields.filter fun field => !metaFields.contains field.1) =
      .ok () ↔ ∀ field ∈ fields, field.1 ∉ metaFields → field.2.IsTextOrNull := by
    rw [Section.checkTexts_eq_ok_iff]
    simp
  unfold ofFlatFields
  simp only [Traced.result_bind_eq_ok_iff, Traced.result_liftM, htexts, textField_eq_ok_iff,
    Profile.find_eq_ok_iff]
  constructor
  · intro h
    obtain ⟨⟨⟩, hvalues, asked, hasked, _, ⟨hlabel, rfl⟩, _, ⟨hname, rfl⟩, profile, hfind, h⟩ := h
    obtain ⟨hknown, hlegacy, hconfig⟩ := ofProfile_eq_ok_iff.1 h
    cases htext : Section.textAt fields "profile" with
    | none =>
        rw [htext, Option.getD_none, Profile.find?_empty] at hfind
        cases hfind
    | some label =>
        rw [htext, Option.getD_some] at hfind
        refine ⟨profile, label, asked, Section.textAt_eq_some_iff.1 htext, hfind, hname, hasked,
          hlegacy, ?_, hconfig⟩
        intro field hmem hfield
        exact ⟨(hkeys profile).1 hknown field hmem hfield, hvalues field hmem hfield⟩
  · intro h
    obtain ⟨profile, label, asked, hlabel, hfind, hname, hasked, hlegacy, hfields, hconfig⟩ := h
    have htext : Section.textAt fields "profile" = some label := Section.textAt_eq_some_iff.2 hlabel
    have hlabelled : ∀ value, Json.lookup? fields "profile" = some value → value.IsTextOrNull := by
      intro value hvalue
      obtain rfl := Option.some.inj (hlabel.symm.trans hvalue)
      exact Or.inr ⟨label, rfl⟩
    refine ⟨(), fun field hmem hfield => (hfields field hmem hfield).2, asked, hasked, _,
      ⟨hlabelled, rfl⟩, _, ⟨hname, rfl⟩, profile, by rw [htext]; exact hfind, ?_⟩
    apply ofProfile_eq_ok_iff.2
    exact ⟨(hkeys profile).2 fun field hmem hfield => (hfields field hmem hfield).1, hlegacy, hconfig⟩

/-! ## Sections of a document -/

theorem known_iff :
    Section.unknownNames (plainFields ++ Axis.all.map Axis.name) (fields.map (·.1)) = [] ↔
      ∀ field ∈ fields,
        field.1 ∈ ["name", "policy", "profile"] ∨ ∃ axis : Axis, field.1 = axis.name := by
  rw [Section.unknownNames_eq_nil_iff, List.forall_mem_map]
  refine forall₂_congr fun field _ => ?_
  rw [List.mem_append, List.mem_map, plainFields]
  refine or_congr_right (exists_congr fun axis => ?_)
  rw [and_iff_right axis.mem_all, eq_comm]

end Field

/-! ## Legacy defaults -/

theorem isBlank_iff {text : Option String} : isBlank text = true ↔ ∀ source, ¬ Given text source := by
  cases text with
  | none => simp [isBlank, Given]
  | some source => simp [isBlank, Given, isBlankText_iff]

theorem lookup_value (head : String × Option String) (rest : Values) (key : String) :
    (head :: rest).lookup key = if key = head.1 then some head.2 else rest.lookup key := by
  rw [List.lookup_cons]
  by_cases hkey : key = head.1
  · simp [hkey]
  · simp [beq_false_of_ne hkey, hkey]

theorem lookup_putValue (values : Values) (name text key : String) :
    (putValue values name text).lookup key =
      if key = name then some (some text) else values.lookup key := by
  induction values with
  | nil => exact lookup_value _ _ _
  | cons head rest ih =>
      rw [putValue]
      by_cases hhead : head.1 = name
      · rw [if_pos hhead, lookup_value, lookup_value, hhead]
        split <;> rfl
      · rw [if_neg hhead, lookup_value, lookup_value, ih]
        by_cases hkey : key = head.1
        · rw [if_pos hkey, if_pos hkey, if_neg (hkey ▸ hhead)]
        · rw [if_neg hkey, if_neg hkey]

theorem valueOf_putValue (values : Values) (name text key : String) :
    valueOf (putValue values name text) key =
      if key = name then some text else valueOf values key := by
  rw [valueOf, lookup_putValue]
  split <;> rfl

/-- A field that is filled was blank and has its default, and every other one is as it was. -/
theorem valueOf_fillLegacy (profile : Profile) (values : Values) (key : String) :
    valueOf (fillLegacy profile values) key = valueOf values key ∨
      isBlank (valueOf values key) = true ∧ ∃ default, (key, default) ∈ profile.legacyDefaults ∧
        valueOf (fillLegacy profile values) key = some default := by
  unfold fillLegacy
  induction profile.legacyDefaults generalizing values with
  | nil => exact Or.inl rfl
  | cons entry rest ih =>
      rw [List.foldl_cons]
      by_cases hfill : isBlank (valueOf values entry.1) = true
      · rw [if_pos hfill]
        have hput := valueOf_putValue values entry.1 entry.2 key
        by_cases hkey : key = entry.1
        · -- Later entries for the field, if there were any, would fill it only if it was blank again.
          rw [if_pos hkey] at hput
          refine Or.inr ⟨hkey ▸ hfill, ?_⟩
          rcases ih (putValue values entry.1 entry.2) with hkept | ⟨-, default, hmem, hfilled⟩
          · exact ⟨entry.2, by rw [hkey]; exact List.mem_cons_self, hkept.trans hput⟩
          · exact ⟨default, List.mem_cons_of_mem _ hmem, hfilled⟩
        · rw [if_neg hkey] at hput
          rw [← hput]
          rcases ih (putValue values entry.1 entry.2) with hkept | ⟨hblank, default, hmem, hfilled⟩
          · exact Or.inl hkept
          · exact Or.inr ⟨hblank, default, List.mem_cons_of_mem _ hmem, hfilled⟩
      · rw [if_neg hfill]
        rcases ih values with hkept | ⟨hblank, default, hmem, hfilled⟩
        · exact Or.inl hkept
        · exact Or.inr ⟨hblank, default, List.mem_cons_of_mem _ hmem, hfilled⟩

/-! ## Building -/

def textsSection (policy : Policy) (texts : String → Option String) (fields : AxisFields) :
    Section :=
  match policy with
  | .regex => .ofRegex (texts fields.includes)
  | .wildcard => .ofWildcards (texts fields.includes) (fields.excludes.bind texts)

theorem profileSection_eq (policy : Policy) (values : Values) (fields : AxisFields) :
    profileSection policy values fields = textsSection policy (valueOf values) fields := by
  cases policy <;> rfl

theorem textsSection_congr {policy : Policy} {texts others : String → Option String}
    {fields : AxisFields} (h : ∀ field ∈ fields.names, texts field = others field) :
    textsSection policy texts fields = textsSection policy others fields := by
  rw [AxisFields.names, List.forall_mem_cons] at h
  obtain ⟨hincludes, hexcludes⟩ := h
  cases policy with
  | regex => rw [textsSection, textsSection, hincludes]
  | wildcard =>
      have hexcluded : fields.excludes.bind texts = fields.excludes.bind others :=
        Option.bind_congr fun field hfield => hexcludes field (by simpa using hfield)
      rw [textsSection, textsSection, hincludes, hexcluded]

/-- The section of an axis sets only texts that its policy uses. -/
theorem checkSection_textsSection (policy : Policy) (texts : String → Option String) (axis : Axis)
    (fields : AxisFields) : checkSection policy axis (textsSection policy texts fields) = .ok () := by
  cases policy <;> rfl

theorem validate_expand {profile : Profile} (hprofile : profile ∈ Profile.builtin)
    (values : Values) (name : String) : (expand profile values name).validate = .ok () := by
  apply validate_eq_ok_iff.2
  constructor
  · exact (wellFormed_expand hprofile values name).labelled rfl
  · intro entry hmem
    obtain ⟨axis, -, rfl⟩ := List.mem_map.1 hmem
    show checkSection profile.policy axis.1 (profileSection profile.policy values axis.2) = .ok ()
    rw [profileSection_eq]
    exact checkSection_textsSection _ _ _ _

/-- An expression is blank or is read without a fault. -/
def Usable (source : String) : Prop := trim source ≠ "" → ∃ regex, Regex.parse [] source = .ok regex

/-- The texts of a section compile exactly if its expression is usable. -/
theorem exists_guard_iff {policy : Policy} {texts : Section} :
    (∃ guard, Guard.ofPair (texts.pair policy) = .ok guard) ↔
      (policy = .regex → ∀ source, texts.regex = some source → Usable source) := by
  cases policy with
  | wildcard => exact iff_of_true ⟨_, rfl⟩ (by simp)
  | regex =>
      have hguard : (∃ guard, Guard.ofPair (texts.pair .regex) = .ok guard) ↔
          ∃ regex, Regex.parse [] (orIfBlank texts.regex Section.matchAll) = .ok regex := by
        rw [← Matcher.exists_ofRegex_iff]
        simp [Section.pair, Pair.ofRegex, Guard.ofPair, map_eq_ok_iff]
      rw [hguard]
      constructor
      · intro h _ source hsource hgiven
        rwa [Given.orIfBlank ⟨hsource, hgiven⟩] at h
      · intro h
        by_cases hgiven : ∃ source, Given texts.regex source
        · obtain ⟨source, hsource⟩ := hgiven
          rw [hsource.orIfBlank]
          exact h rfl source hsource.1 hsource.2
        · rw [orIfBlank_of_blank (not_exists.1 hgiven)]
          exact ⟨_, parse_matchAll⟩

/-- A rule is built exactly if the sections fit the policy and their expressions are usable. -/
theorem exists_build_iff {config : RuleConfig} (hdistinct : (config.sections.map Prod.fst).Nodup) :
    (∃ rule, config.build = .ok rule) ↔
      config.validate = .ok () ∧
        (config.policy = .regex → ∀ entry ∈ config.sections, ∀ source,
          entry.2.regex = some source → Usable source) := by
  constructor
  · intro h
    obtain ⟨rule, hrule⟩ := h
    refine ⟨((build_eq_ok_iff hdistinct).1 hrule).1, ?_⟩
    intro hpolicy entry hmem source hsource
    have hguard := exists_guard hdistinct hrule (lookup_of_mem hdistinct hmem)
    exact exists_guard_iff.1 hguard hpolicy source hsource
  · intro h
    apply exists_build hdistinct h.1
    intro entry hmem
    apply exists_guard_iff.2
    intro hpolicy
    exact h.2 hpolicy entry hmem

end RuleConfig

end RefFilter
