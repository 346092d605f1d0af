import RefFilter.Proofs.Config.Readers
import RefFilter.Proofs.Config.Failure

/-! # The profile that a configuration claims

A configuration may say the profile that it comes from. In the flat form the label is looked up, and
a label of no profile is rejected; what is kept is the name of the profile. Beside a section the
label is kept as it was written, and nothing else of what is read depends on it. So a configuration
claims an unknown profile exactly if it was read from a document with a section and such a label,
and its own document says so again.
-/

namespace RefFilter.RuleConfig

variable {fields : List (String × Json)} {config : RuleConfig}

/-! ## Labels beside sections -/

def unlabelled (fields : List (String × Json)) : List (String × Json) :=
  fields.filter fun field => field.1 != "profile"

theorem lookup_unlabelled {key : String} (hkey : key ≠ "profile") :
    Json.lookup? (unlabelled fields) key = Json.lookup? fields key := by
  unfold Json.lookup? unlabelled
  induction fields with
  | nil => rfl
  | cons field rest ih =>
      by_cases hfield : field.1 = "profile"
      · have hne : (key == field.1) = false := beq_false_of_ne (hfield ▸ hkey)
        rw [List.filter_cons_of_neg (by simp [hfield]), List.lookup_cons, hne]
        exact ih
      · rw [List.filter_cons_of_pos (by simpa using hfield), List.lookup_cons, List.lookup_cons, ih]

theorem lookup_profile_unlabelled : Json.lookup? (unlabelled fields) "profile" = none := by
  unfold Json.lookup? unlabelled
  rw [List.lookup_eq_none_iff]
  intro field hmem
  have hfield : field.1 ≠ "profile" := by simpa using List.of_mem_filter hmem
  simpa using hfield.symm

theorem lookup_axis_unlabelled (axis : Axis) :
    Json.lookup? (unlabelled fields) axis.name = Json.lookup? fields axis.name :=
  lookup_unlabelled (by cases axis <;> decide)

theorem hasSection_unlabelled : hasSection (unlabelled fields) = hasSection fields := by
  rw [Bool.eq_iff_iff, hasSection_iff, hasSection_iff]
  exact exists_congr fun axis => by rw [lookup_axis_unlabelled]

theorem readSections_unlabelled (axes : List Axis) :
    readSections (unlabelled fields) axes = readSections fields axes := by
  induction axes with
  | nil => rfl
  | cons axis rest ih => rw [readSections, readSections, lookup_axis_unlabelled, ih]

/-- The label is a field that is known, so it is never among the unknown ones. -/
theorem unknownNames_unlabelled :
    Section.unknownNames (plainFields ++ Axis.all.map Axis.name) ((unlabelled fields).map (·.1)) =
      Section.unknownNames (plainFields ++ Axis.all.map Axis.name) (fields.map (·.1)) := by
  have hknown : (plainFields ++ Axis.all.map Axis.name).contains "profile" = true := by decide
  rw [Section.unknownNames, Section.unknownNames, unlabelled, List.filter_map, List.filter_map,
    List.filter_filter]
  congr 2
  apply List.filter_congr
  intro field _
  by_cases hfield : field.1 = "profile"
  · simp only [Function.comp_apply, hfield, hknown, Bool.not_true, Bool.false_and]
  · simp [hfield]

/-- Beside the label the fields are read as without it. -/
theorem ofSectionFields_of_label {label : String}
    (hlabel : Json.lookup? fields "profile" = some (.text label)) :
    ofSectionFields fields = (ofSectionFields (unlabelled fields)).map fun config =>
      { config with profile := some label } := by
  have hpolicy : Json.lookup? (unlabelled fields) "policy" = Json.lookup? fields "policy" :=
    lookup_unlabelled (by decide)
  have hname : textField (unlabelled fields) "name" = textField fields "name" := by
    rw [textField, textField, lookup_unlabelled (by decide)]
  have hprofile : textField fields "profile" = .ok (some label) := by
    rw [textField, hlabel]
  have hprofile' : textField (unlabelled fields) "profile" = .ok none := by
    rw [textField, lookup_profile_unlabelled]
  unfold ofSectionFields
  rw [unknownNames_unlabelled, hpolicy, hname, hprofile, hprofile', readSections_unlabelled]
  split
  · -- The label is read last, so whatever fails has failed before it.
    generalize Policy.ofJson _ = policy, readSections fields readingOrder = sections,
      textField fields "name" = name
    cases policy <;> cases sections <;> cases name <;> rfl
  · rfl

theorem ofJson_of_section (hsection : hasSection fields = true) :
    ofJson (.object fields) = .ofResult (ofSectionFields fields) := by
  rw [ofJson, hsection, Bool.not_true, Bool.and_false]
  rfl

theorem result_ofJson_of_label {label : String} (hsection : hasSection fields = true)
    (hlabel : Json.lookup? fields "profile" = some (.text label)) :
    (ofJson (.object fields)).result = (ofJson (.object (unlabelled fields))).result.map
      fun config => { config with profile := some label } := by
  rw [ofJson_of_section hsection, ofJson_of_section (hasSection_unlabelled.trans hsection)]
  exact ofSectionFields_of_label hlabel

/-! ## What is claimed -/

def ClaimsUnknown (config : RuleConfig) : Prop :=
  ∃ label, config.profile = some label ∧ Profile.find? label = none

/-- What a configuration says of its profile, by the fields that it is read from. -/
structure LabelledBy (fields : List (String × Json)) (config : RuleConfig) : Prop where
  absent : Json.lookup? fields "profile" = none → config.profile = none
  flat : hasSection fields = false → ∀ value, Json.lookup? fields "profile" = some value →
    ∃ label profile, value = .text label ∧ Profile.find? label = some profile ∧
      config.profile = some profile.name
  sectioned : hasSection fields = true → config.profile = Section.textAt fields "profile"

theorem profile_of_ofSectionFields (h : ofSectionFields fields = .ok config) :
    config.profile = Section.textAt fields "profile" := by
  obtain ⟨-, -, -, -, hprofile⟩ := ofSectionFields_eq_ok_iff.1 h
  exact (textField_eq_ok_iff.1 hprofile).2

theorem labelledBy_of_ofJson (h : (ofJson (.object fields)).result = .ok config) :
    LabelledBy fields config := by
  unfold ofJson at h
  dsimp only at h
  cases hprofile : Json.lookup? fields "profile" with
  | none =>
      rw [hprofile] at h
      have hlabel := profile_of_ofSectionFields h
      rw [Section.textAt, hprofile] at hlabel
      exact {
        absent := fun _ => hlabel
        flat := fun _ value hvalue => by cases hprofile.symm.trans hvalue
        sectioned := fun _ => profile_of_ofSectionFields h }
  | some value =>
      have habsent : Json.lookup? fields "profile" = none → config.profile = none :=
        fun hnone => by cases hprofile.symm.trans hnone
      rw [hprofile, Option.isSome_some, Bool.true_and] at h
      cases hsection : hasSection fields with
      | true =>
          rw [hsection] at h
          exact {
            absent := habsent
            flat := fun hflat => absurd (hflat.symm.trans hsection) Bool.false_ne_true
            sectioned := fun _ => profile_of_ofSectionFields h }
      | false =>
          rw [hsection] at h
          obtain ⟨profile, label, asked, hlabel, hfind, -, -, -, -, rfl⟩ :=
            ofFlatFields_eq_ok_iff.1 h
          exact {
            absent := habsent
            flat := fun _ value hvalue =>
              ⟨label, profile, Option.some.inj (hvalue.symm.trans hlabel), hfind, rfl⟩
            sectioned := fun hsome => absurd (hsection.symm.trans hsome) Bool.false_ne_true }

/-- Without a section, what is claimed is the own name of a profile. -/
theorem LabelledBy.resolves (h : LabelledBy fields config) (hflat : hasSection fields = false)
    {label : String} (hlabel : config.profile = some label) :
    ∃ profile, Profile.find? label = some profile ∧ label = profile.name := by
  cases hprofile : Json.lookup? fields "profile" with
  | none => cases hlabel.symm.trans (h.absent hprofile)
  | some value =>
      obtain ⟨written, profile, -, hfind, hname⟩ := h.flat hflat value hprofile
      obtain rfl : label = profile.name := Option.some.inj (hlabel.symm.trans hname)
      have hmem : profile ∈ Profile.builtin := List.mem_of_find?_eq_some hfind
      exact ⟨profile, Profile.find?_of_label hmem List.mem_cons_self, rfl⟩

theorem LabelledBy.claimsUnknown_iff (h : LabelledBy fields config) :
    config.ClaimsUnknown ↔ hasSection fields = true ∧
      ∃ label, Json.lookup? fields "profile" = some (.text label) ∧
        Profile.find? label = none := by
  simp only [ClaimsUnknown, ← Section.textAt_eq_some_iff]
  cases hsection : hasSection fields with
  | true => rw [h.sectioned hsection, and_iff_right rfl]
  | false =>
      refine iff_of_false ?_ fun hclaim => absurd hclaim.1 Bool.false_ne_true
      intro hclaim
      obtain ⟨label, hlabel, hnone⟩ := hclaim
      obtain ⟨profile, hfind, -⟩ := h.resolves hsection hlabel
      cases hnone.symm.trans hfind

/-- Without a section, a label of no profile is rejected. -/
theorem rejects_unknown_label (hflat : hasSection fields = false) {value : Json}
    (hvalue : Json.lookup? fields "profile" = some value)
    (hunknown : ∀ label, value = .text label → Profile.find? label = none) :
    ∃ cause, (ofJson (.object fields)).result = .error (.configuration cause) := by
  cases hresult : (ofJson (.object fields)).result with
  | ok config =>
      obtain ⟨label, profile, hlabel, hfind, -⟩ :=
        (labelledBy_of_ofJson hresult).flat hflat value hvalue
      cases (hunknown label hlabel).symm.trans hfind
  | error failure =>
      obtain ⟨cause, rfl⟩ := onlyRejects_ofJson _ _ hresult
      exact ⟨cause, rfl⟩

/-- What is read from a document claims an unknown profile exactly if the document has a section and
a label of no profile; without a section it claims none, or one by its own name. The document that
it is saved as is read again, with the same label. Without a section a label of no profile is
rejected, and with one the label is put as it is into what is read without it. -/
theorem unknown_profile_needs_section (value : Json) :
    (∀ config, (ofJson value).result = .ok config →
      ∃ fields, value = .object fields ∧
        (config.ClaimsUnknown ↔ hasSection fields = true ∧
          ∃ label, Json.lookup? fields "profile" = some (.text label) ∧
            Profile.find? label = none) ∧
        (hasSection fields = false → ∀ label, config.profile = some label →
          ∃ profile, Profile.find? label = some profile ∧ label = profile.name) ∧
        ∃ saved, (ofJson config.toJson).result = .ok saved ∧ saved.profile = config.profile) ∧
    ∀ fields, value = .object fields →
      (hasSection fields = false → ∀ named, Json.lookup? fields "profile" = some named →
        (∀ label, named = .text label → Profile.find? label = none) →
          ∃ cause, (ofJson value).result = .error (.configuration cause)) ∧
      (hasSection fields = true → ∀ label, Json.lookup? fields "profile" = some (.text label) →
        (ofJson value).result = (ofJson (.object (unlabelled fields))).result.map
          fun config => { config with profile := some label }) := by
  constructor
  · intro config hread
    have hsaved := congrArg Traced.result (ofJson_toJson (wellFormed_of_ofJson hread))
    cases value with
    | object fields =>
        have hlabelled := labelledBy_of_ofJson hread
        exact ⟨fields, rfl, hlabelled.claimsUnknown_iff,
          fun hflat label => hlabelled.resolves hflat, config.reread, hsaved, rfl⟩
    | _ => cases hread
  · rintro fields rfl
    constructor
    · intro hflat named hnamed hunknown
      exact rejects_unknown_label hflat hnamed hunknown
    · intro hsection label hlabel
      exact result_ofJson_of_label hsection hlabel

def mislabelled : List (String × Json) := [("profile", .text "nope"), ("branch", .object [])]

theorem result_unlabelled_mislabelled : (ofJson (.object (unlabelled mislabelled))).result =
    .ok ⟨.wildcard, [(.branch, ⟨none, none, none⟩)], "", none⟩ := by
  cbv

theorem find?_nope : Profile.find? "nope" = none := by
  decide +kernel

theorem mislabelled_is_accepted :
    (ofJson (.object mislabelled)).result =
      .ok ⟨.wildcard, [(.branch, ⟨none, none, none⟩)], "", some "nope"⟩ ∧
    Profile.find? "nope" = none := by
  have hread := @result_ofJson_of_label mislabelled "nope" rfl rfl
  rw [result_unlabelled_mislabelled] at hread
  exact ⟨hread, find?_nope⟩

theorem mislabelled_claims_unknown :
    ∃ config, (ofJson (.object mislabelled)).result = .ok config ∧ config.ClaimsUnknown ∧
      ∃ saved, (ofJson config.toJson).result = .ok saved ∧ saved.profile = some "nope" := by
  obtain ⟨haccepted, hnamed⟩ := unknown_profile_needs_section (.object mislabelled)
  have hread := (hnamed mislabelled rfl).2 rfl "nope" rfl
  rw [result_unlabelled_mislabelled] at hread
  obtain ⟨fields, hfields, hclaims, -, saved, hsaved, hprofile⟩ := haccepted _ hread
  obtain rfl : mislabelled = fields := Json.object.inj hfields
  exact ⟨_, hread, hclaims.2 ⟨rfl, "nope", rfl, find?_nope⟩, saved, hsaved, hprofile⟩

end RefFilter.RuleConfig
