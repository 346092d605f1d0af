import RefFilter.Proofs.Config.Acceptance
import RefFilter.Proofs.Config.Failure

/-! # What of a document is not read

A document of rules is complete if its rules are all that it has, every field of a rule is one of
its form, and every section is null or an object with fields of a section. What is accepted is
complete but for two things, which are not read: fields beside the rules, and values that stand for
nothing in the place of a section. A document without them is taken as it was with them.
-/

namespace RefFilter

/-! ## Sections -/

namespace Section

variable {value : Json}

/-- A section as it is written: null, or an object that has texts or null under names of the texts
of a section. -/
def Written (value : Json) : Prop :=
  value = .null ∨ ∃ members, value = .object members ∧
    ∀ member ∈ members, member.1 ∈ fieldNames ∧ member.2.IsTextOrNull

/-- A value that passes for a section because it stands for nothing, and is not written as one. -/
def Mistaken (value : Json) : Prop :=
  value.StandsForNothing ∧ value ≠ .null ∧ value ≠ .object []

/-- A value that stands for nothing is written as null. -/
def tidy (value : Json) : Json := if value.isFalsy then .null else value

theorem ofJson_tidy (value : Json) : ofJson (tidy value) = ofJson value := by
  unfold tidy
  split
  · rename_i hfalsy
    have hnothing : ofJson value = .ok ⟨none, none, none⟩ := if_pos hfalsy
    rw [hnothing]
    rfl
  · rfl

theorem written_iff : Written value ↔ Describes value ∧ ¬ Mistaken value := by
  constructor
  · intro h
    rcases h with rfl | ⟨members, rfl, hmembers⟩
    · exact ⟨Or.inl .null, fun hmistaken => hmistaken.2.1 rfl⟩
    · refine ⟨Or.inr ⟨members, rfl, hmembers⟩, ?_⟩
      intro hmistaken
      obtain ⟨hnothing, -, hsome⟩ := hmistaken
      cases hnothing
      exact hsome rfl
  · intro h
    obtain ⟨hnothing | hobject, hmistaken⟩ := h
    · by_cases hnull : value = .null
      · exact Or.inl hnull
      · by_cases hempty : value = .object []
        · exact Or.inr ⟨[], hempty, by simp⟩
        · exact absurd ⟨hnothing, hnull, hempty⟩ hmistaken
    · exact Or.inr hobject

theorem written_tidy_iff : Written (tidy value) ↔ Describes value := by
  unfold tidy
  split
  · rename_i hfalsy
    exact iff_of_true (Or.inl rfl) (Or.inl (Json.isFalsy_iff.1 hfalsy))
  · rename_i hsome
    have hnot : ¬ value.StandsForNothing := mt Json.isFalsy_iff.2 hsome
    rw [written_iff, and_iff_left fun hmistaken => hnot hmistaken.1]

end Section

/-! ## Rules -/

namespace RuleConfig

variable {fields : List (String × Json)} {item : Json} {OfSection : Json → Prop}

/-- The fields are read in the form with sections, all of them are fields of it, and the values of
the axes have a property of sections. -/
structure SectionedBy (OfSection : Json → Prop) (fields : List (String × Json)) : Prop where
  chosen : Json.lookup? fields "profile" = none ∨
    ∃ (axis : Axis) (value : Json), Json.lookup? fields axis.name = some value
  known : ∀ field ∈ fields,
    field.1 ∈ ["name", "policy", "profile"] ∨ ∃ axis : Axis, field.1 = axis.name
  governed : ∀ value, Json.lookup? fields "policy" = some value →
    ∃ policy : Policy, value = .text policy.name
  labelled : ∀ key ∈ ["name", "profile"], ∀ value, Json.lookup? fields key = some value →
    value.IsTextOrNull
  sections : ∀ (axis : Axis) (value : Json), Json.lookup? fields axis.name = some value →
    OfSection value

/-- A rule is an object of one of the two forms, where the sections have a property. -/
def HasForm (OfSection : Json → Prop) (item : Json) : Prop :=
  ∃ fields, item = .object fields ∧
    ((∃ profile, FlatForm profile fields) ∨ SectionedBy OfSection fields)

theorem exists_policy_iff :
    (∃ policy, Policy.ofJson ((Json.lookup? fields "policy").getD (.text Policy.wildcard.name)) =
        .ok policy) ↔
      ∀ value, Json.lookup? fields "policy" = some value →
        ∃ policy : Policy, value = .text policy.name := by
  simp only [governed_iff]
  cases Json.lookup? fields "policy" with
  | none => simp
  | some value => simp

theorem exists_ofFlatFields_iff (hunsectioned : ∀ axis : Axis, Json.lookup? fields axis.name = none) :
    (∃ config, (ofFlatFields fields).result = .ok config) ↔ ∃ profile, FlatForm profile fields := by
  constructor
  · intro h
    obtain ⟨config, hread⟩ := h
    obtain ⟨profile, label, asked, hlabel, hfind, hname, hasked, hlegacy, hothers, -⟩ :=
      ofFlatFields_eq_ok_iff.1 hread
    refine ⟨profile, ?_⟩
    exact {
      unsectioned := hunsectioned
      labelled := ⟨label, hlabel, hfind⟩
      named := hname
      legacy := legacyField_iff.1 ⟨asked, hasked, hlegacy⟩
      others := hothers }
  · intro h
    obtain ⟨profile, hform⟩ := h
    obtain ⟨label, hlabel, hfind⟩ := hform.labelled
    obtain ⟨asked, hasked, hlegacy⟩ := legacyField_iff.2 hform.legacy
    exact ⟨_, ofFlatFields_eq_ok_iff.2 ⟨profile, label, asked, hlabel, hfind, hform.named, hasked,
      hlegacy, hform.others, rfl⟩⟩

theorem exists_ofSectionFields_iff
    (hchosen : Json.lookup? fields "profile" = none ∨
      ∃ (axis : Axis) (value : Json), Json.lookup? fields axis.name = some value) :
    (∃ config, ofSectionFields fields = .ok config) ↔ SectionedBy Section.Describes fields := by
  constructor
  · intro h
    obtain ⟨config, hread⟩ := h
    obtain ⟨hknown, hpolicy, hsections, ⟨_, hname, -⟩, hprofile⟩ :=
      ofSectionFields_eq_ok_iff.1 hread
    exact {
      chosen := hchosen
      known := known_iff.1 hknown
      governed := exists_policy_iff.1 ⟨_, hpolicy⟩
      labelled := by
        rw [List.forall_mem_cons, List.forall_mem_singleton]
        exact ⟨(textField_eq_ok_iff.1 hname).1, (textField_eq_ok_iff.1 hprofile).1⟩
      sections := fun axis => (readSections_eq_ok_iff.1 hsections).1 axis (mem_readingOrder axis) }
  · intro h
    obtain ⟨policy, hpolicy⟩ := exists_policy_iff.2 h.governed
    have hname := textField_eq_ok_iff.2 ⟨h.labelled "name" (by simp), rfl⟩
    have hprofile := textField_eq_ok_iff.2 ⟨h.labelled "profile" (by simp), rfl⟩
    have hsections : readSections fields readingOrder = .ok (sectionsOf fields readingOrder) :=
      readSections_eq_ok_iff.2 ⟨fun axis _ => h.sections axis, rfl⟩
    let config : RuleConfig := ⟨policy, sectionsOf fields readingOrder,
      (Section.textAt fields "name").getD "", Section.textAt fields "profile"⟩
    have hread : ofSectionFields fields = .ok config := ofSectionFields_eq_ok_iff.2
      ⟨known_iff.2 h.known, hpolicy, hsections, ⟨_, hname, rfl⟩, hprofile⟩
    exact ⟨config, hread⟩

theorem hasSection_eq_false_iff :
    hasSection fields = false ↔ ∀ axis : Axis, Json.lookup? fields axis.name = none := by
  rw [← Bool.not_eq_true, hasSection_iff]
  simp only [not_exists, Option.eq_none_iff_forall_ne_some, ne_eq]

/-- A rule is read from exactly the objects of one of the two forms. -/
theorem exists_ofJson_iff :
    (∃ config, (ofJson item).result = .ok config) ↔ HasForm Section.Describes item := by
  cases item with
  | object fields =>
      simp only [HasForm, Json.object.injEq, exists_eq_left']
      unfold ofJson
      dsimp only
      split
      · rename_i hflat
        rw [Bool.and_eq_true, Bool.not_eq_true', hasSection_eq_false_iff] at hflat
        have hsections : ¬ SectionedBy Section.Describes fields := by
          intro h
          rcases h.chosen with hnone | ⟨axis, value, hvalue⟩
          · rw [hnone] at hflat
            cases hflat.1
          · cases (hflat.2 axis).symm.trans hvalue
        rw [or_iff_left hsections]
        exact exists_ofFlatFields_iff hflat.2
      · rename_i hsectioned
        have hflat : ¬ ∃ profile, FlatForm profile fields := by
          intro h
          obtain ⟨profile, hform⟩ := h
          exact hsectioned hform.flat
        rw [or_iff_right hflat]
        apply exists_ofSectionFields_iff
        rw [← hasSection_iff]
        simpa [Decidable.or_iff_not_imp_left, ← Option.isSome_iff_ne_none] using hsectioned
  | _ => simp [HasForm, ofJson, Traced.ofResult]

/-! ## Rules without what is not read -/

def tidyField (field : String × Json) : String × Json :=
  if (Axis.ofName? field.1).isSome then (field.1, Section.tidy field.2) else field

def tidy : Json → Json
  | .object fields => .object (fields.map tidyField)
  | other => other

theorem name_tidyField (field : String × Json) : (tidyField field).1 = field.1 := by
  unfold tidyField
  split <;> rfl

theorem lookup_tidyField (key : String) :
    Json.lookup? (fields.map tidyField) key =
      (Json.lookup? fields key).map fun value => (tidyField (key, value)).2 := by
  unfold Json.lookup?
  induction fields with
  | nil => rfl
  | cons field rest ih =>
      rw [List.map_cons, List.lookup_cons, List.lookup_cons, name_tidyField]
      by_cases hkey : key = field.1
      · subst hkey
        simp
      · rw [beq_false_of_ne hkey]
        exact ih

theorem lookup_axis_tidy (axis : Axis) :
    Json.lookup? (fields.map tidyField) axis.name =
      (Json.lookup? fields axis.name).map Section.tidy := by
  simp [lookup_tidyField, tidyField, Axis.ofName?_name]

theorem lookup_plain_tidy {key : String} (hkey : key ∈ plainFields) :
    Json.lookup? (fields.map tidyField) key = Json.lookup? fields key := by
  have hnone : ∀ key ∈ plainFields, Axis.ofName? key = none := by decide
  simp [lookup_tidyField, tidyField, hnone key hkey]

theorem lookup_axis_tidy_eq_none_iff (axis : Axis) :
    Json.lookup? (fields.map tidyField) axis.name = none ↔ Json.lookup? fields axis.name = none := by
  rw [lookup_axis_tidy, Option.map_eq_none_iff]

theorem hasSection_tidy : hasSection (fields.map tidyField) = hasSection fields := by
  simp only [hasSection, lookup_axis_tidy, Option.isSome_map]

/-- Without sections there is nothing to tidy. -/
theorem map_tidyField_of_unsectioned
    (hunsectioned : ∀ axis : Axis, Json.lookup? fields axis.name = none) :
    fields.map tidyField = fields := by
  refine (List.map_congr_left fun field hmem => ?_).trans (List.map_id fields)
  have hother : Axis.ofName? field.1 = none := by
    rw [Option.eq_none_iff_forall_ne_some]
    intro axis haxis
    rw [Axis.ofName?_eq_some_iff] at haxis
    exact absurd (hunsectioned axis) (by
      rw [Json.lookup?, List.lookup_eq_none_iff]
      exact fun hnone => by simpa [haxis] using hnone field hmem)
  rw [tidyField, hother]
  rfl

theorem readSections_tidy (axes : List Axis) :
    readSections (fields.map tidyField) axes = readSections fields axes := by
  induction axes with
  | nil => rfl
  | cons axis rest ih =>
      rw [readSections, readSections, lookup_axis_tidy, ih]
      cases Json.lookup? fields axis.name with
      | none => rfl
      | some value => simp only [Option.map_some, Section.ofJson_tidy]

theorem ofSectionFields_tidy :
    ofSectionFields (fields.map tidyField) = ofSectionFields fields := by
  have hnames : (fields.map tidyField).map (·.1) = fields.map (·.1) := by
    simp [name_tidyField]
  have hpolicy : "policy" ∈ plainFields := by decide
  have hname : "name" ∈ plainFields := by decide
  have hprofile : "profile" ∈ plainFields := by decide
  unfold ofSectionFields textField
  rw [hnames, readSections_tidy, lookup_plain_tidy hpolicy, lookup_plain_tidy hname,
    lookup_plain_tidy hprofile]

/-- Tidying the sections of a rule changes nothing in what is read, or in why it is not. -/
theorem ofJson_tidy (item : Json) : ofJson (tidy item) = ofJson item := by
  cases item with
  | object fields =>
      have hprofile : "profile" ∈ plainFields := by decide
      rw [tidy, ofJson, ofJson, lookup_plain_tidy hprofile, hasSection_tidy, ofSectionFields_tidy]
      cases hsection : hasSection fields with
      | true => simp
      | false => rw [map_tidyField_of_unsectioned (hasSection_eq_false_iff.1 hsection)]
  | _ => rfl

theorem sectionedBy_tidy_iff :
    SectionedBy OfSection (fields.map tidyField) ↔
      SectionedBy (fun value => OfSection (Section.tidy value)) fields := by
  have hchosen : (∃ (axis : Axis) (value : Json),
      Json.lookup? (fields.map tidyField) axis.name = some value) ↔
        ∃ (axis : Axis) (value : Json), Json.lookup? fields axis.name = some value := by
    rw [← hasSection_iff, ← hasSection_iff, hasSection_tidy]
  have hknown : (∀ field ∈ fields.map tidyField,
      field.1 ∈ ["name", "policy", "profile"] ∨ ∃ axis : Axis, field.1 = axis.name) ↔
        ∀ field ∈ fields,
          field.1 ∈ ["name", "policy", "profile"] ∨ ∃ axis : Axis, field.1 = axis.name := by
    simp only [List.forall_mem_map, name_tidyField]
  have hlabelled (key : String) (hkey : key ∈ ["name", "profile"]) :
      Json.lookup? (fields.map tidyField) key = Json.lookup? fields key :=
    lookup_plain_tidy ((show ["name", "profile"] ⊆ plainFields by decide) hkey)
  have hpolicy : Json.lookup? (fields.map tidyField) "policy" = Json.lookup? fields "policy" :=
    lookup_plain_tidy (by decide)
  constructor
  · intro h
    exact {
      chosen := by
        rw [← hlabelled "profile" (by simp), ← hchosen]
        exact h.chosen
      known := hknown.1 h.known
      governed := hpolicy ▸ h.governed
      labelled := fun key hkey => hlabelled key hkey ▸ h.labelled key hkey
      sections := fun axis value hvalue => h.sections axis _ (by rw [lookup_axis_tidy, hvalue]; rfl) }
  · intro h
    exact {
      chosen := by
        rw [hlabelled "profile" (by simp), hchosen]
        exact h.chosen
      known := hknown.2 h.known
      governed := hpolicy.symm ▸ h.governed
      labelled := fun key hkey => (hlabelled key hkey).symm ▸ h.labelled key hkey
      sections := by
        intro axis value hvalue
        rw [lookup_axis_tidy, Option.map_eq_some_iff] at hvalue
        obtain ⟨written, hwritten, rfl⟩ := hvalue
        exact h.sections axis written hwritten }

theorem exists_flatForm_tidy_iff :
    (∃ profile, FlatForm profile (fields.map tidyField)) ↔ ∃ profile, FlatForm profile fields := by
  by_cases hunsectioned : ∀ axis : Axis, Json.lookup? fields axis.name = none
  · rw [map_tidyField_of_unsectioned hunsectioned]
  · refine iff_of_false ?_ ?_
    · intro h
      obtain ⟨profile, hform⟩ := h
      exact hunsectioned fun axis => (lookup_axis_tidy_eq_none_iff axis).1 (hform.unsectioned axis)
    · intro h
      obtain ⟨profile, hform⟩ := h
      exact hunsectioned hform.unsectioned

theorem SectionedBy.congr {Other : Json → Prop} (h : ∀ value, OfSection value ↔ Other value) :
    SectionedBy OfSection fields ↔ SectionedBy Other fields := by
  rw [funext fun value => propext (h value)]

/-- A tidy rule is as it should be written exactly if the rule has one of the forms. -/
theorem hasForm_tidy_iff : HasForm Section.Written (tidy item) ↔ HasForm Section.Describes item := by
  cases item with
  | object fields =>
      simp only [HasForm, tidy, Json.object.injEq, exists_eq_left']
      rw [exists_flatForm_tidy_iff, sectionedBy_tidy_iff,
        SectionedBy.congr fun _ => Section.written_tidy_iff]
  | _ => simp [HasForm, tidy]

/-- In the place of a section of a rule there is a value that is none. -/
def HasMistaken (item : Json) : Prop :=
  ∃ (fields : List (String × Json)) (axis : Axis) (value : Json), item = .object fields ∧
    Json.lookup? fields axis.name = some value ∧ Section.Mistaken value

theorem hasForm_iff :
    HasForm Section.Written item ↔ HasForm Section.Describes item ∧ ¬ HasMistaken item := by
  constructor
  · intro h
    obtain ⟨fields, rfl, hform⟩ := h
    rcases hform with hflat | hsections
    · refine ⟨⟨fields, rfl, Or.inl hflat⟩, ?_⟩
      intro hmistaken
      obtain ⟨profile, hform⟩ := hflat
      obtain ⟨_, axis, value, hfields, hvalue, -⟩ := hmistaken
      obtain rfl := Json.object.inj hfields
      cases (hform.unsectioned axis).symm.trans hvalue
    · have hwritten (axis : Axis) (value : Json)
          (hvalue : Json.lookup? fields axis.name = some value) :=
        Section.written_iff.1 (hsections.sections axis value hvalue)
      refine ⟨⟨fields, rfl, Or.inr ?_⟩, ?_⟩
      · exact { hsections with sections := fun axis value hvalue => (hwritten axis value hvalue).1 }
      · intro hmistaken
        obtain ⟨_, axis, value, hfields, hvalue, hmistaken⟩ := hmistaken
        obtain rfl := Json.object.inj hfields
        exact (hwritten axis value hvalue).2 hmistaken
  · intro h
    obtain ⟨⟨fields, rfl, hform⟩, hnone⟩ := h
    refine ⟨fields, rfl, hform.imp_right fun hsections => ?_⟩
    exact { hsections with
      sections := fun axis value hvalue => Section.written_iff.2
        ⟨hsections.sections axis value hvalue,
          fun hmistaken => hnone ⟨fields, axis, value, rfl, hvalue, hmistaken⟩⟩ }

end RuleConfig

namespace FilterSetConfig

variable {value : Json} {OfSection : Json → Prop}

/-! ## Lists of rules -/

/-- The fields have no rules or a list of them, where the sections have a property. -/
def HasRules (OfSection : Json → Prop) (fields : List (String × Json)) : Prop :=
  ∀ rules, Json.lookup? fields "rules" = some rules →
    ∃ items, rules = .list items ∧ ∀ item ∈ items, RuleConfig.HasForm OfSection item

/-- A document is an object that has rules, and nothing else. -/
def Complete (value : Json) : Prop :=
  ∃ fields, value = .object fields ∧ (∀ field ∈ fields, field.1 = "rules") ∧
    HasRules Section.Written fields

/-- Parts of a document that are not read: a field beside the rules, and a value in the place of a
section that is none. -/
inductive HasUnread : Json → Prop where
  | beside {fields : List (String × Json)} {field : String × Json} (hmem : field ∈ fields)
      (hbeside : field.1 ≠ "rules") : HasUnread (.object fields)
  | mistaken {fields : List (String × Json)} {items : List Json} {item : Json}
      (hrules : Json.lookup? fields "rules" = some (.list items)) (hitem : item ∈ items)
      (hmistaken : RuleConfig.HasMistaken item) : HasUnread (.object fields)

def tidyRules : Json → Json
  | .list items => .list (items.map RuleConfig.tidy)
  | other => other

/-- A document without the parts that are not read. -/
def tidy : Json → Json
  | .object fields =>
    .object ((fields.filter (·.1 == "rules")).map fun field => (field.1, tidyRules field.2))
  | other => other

theorem exists_readRules_iff {items : List Json} :
    (∃ rules, (readRules items).result = .ok rules) ↔
      ∀ item ∈ items, RuleConfig.HasForm Section.Describes item := by
  simp only [result_readRules, ← RuleConfig.exists_ofJson_iff]
  induction items with
  | nil => simp [pure, Except.pure]
  | cons item rest ih =>
      rw [List.forall_mem_cons, ← ih]
      simp only [List.mapM_cons, bind_eq_ok_iff]
      constructor
      · intro h
        obtain ⟨_, rule, hrule, rules, hrules, -⟩ := h
        exact ⟨⟨rule, hrule⟩, rules, hrules⟩
      · intro h
        obtain ⟨⟨rule, hrule⟩, rules, hrules⟩ := h
        exact ⟨_, rule, hrule, rules, hrules, rfl⟩

/-- A document is read exactly if it is an object whose rules, if it has any, have one of the two
forms. -/
theorem exists_ofJson_iff :
    (∃ config, (ofJson value).result = .ok config) ↔
      ∃ fields, value = .object fields ∧ HasRules Section.Describes fields := by
  cases value with
  | object fields =>
      simp only [Json.object.injEq, exists_eq_left', HasRules]
      unfold ofJson
      dsimp only
      cases hrules : Json.lookup? fields "rules" with
      | none => simp
      | some rules =>
          cases rules with
          | list items =>
              simp only [Traced.result_bind_eq_ok_iff, Option.some.injEq, forall_eq',
                Json.list.injEq, exists_eq_left', ← exists_readRules_iff]
              constructor
              · intro h
                obtain ⟨_, rules, hread, -⟩ := h
                exact ⟨rules, hread⟩
              · intro h
                obtain ⟨rules, hread⟩ := h
                exact ⟨_, rules, hread, rfl⟩
          | _ => simp [ofJson.noRuleList, Traced.ofResult]
  | _ => simp [ofJson, ofJson.noRuleList, Traced.ofResult]

/-! ## Documents without what is not read -/

theorem readRules_tidy (items : List Json) :
    readRules (items.map RuleConfig.tidy) = readRules items := by
  induction items with
  | nil => rfl
  | cons item rest ih => rw [List.map_cons, readRules, readRules, RuleConfig.ofJson_tidy, ih]

theorem lookup_tidy (fields : List (String × Json)) :
    Json.lookup? ((fields.filter (·.1 == "rules")).map fun field => (field.1, tidyRules field.2))
        "rules" = (Json.lookup? fields "rules").map tidyRules := by
  unfold Json.lookup?
  induction fields with
  | nil => rfl
  | cons field rest ih =>
      rw [List.lookup_cons]
      by_cases hfield : field.1 = "rules"
      · simp [hfield]
      · rw [List.filter_cons_of_neg (by simpa using hfield), ih,
          beq_false_of_ne fun h => hfield h.symm]

/-- What is not read makes no difference. -/
theorem ofJson_tidy (value : Json) : ofJson (tidy value) = ofJson value := by
  cases value with
  | object fields =>
      rw [tidy, ofJson, ofJson, lookup_tidy]
      cases Json.lookup? fields "rules" with
      | none => rfl
      | some rules =>
          cases rules with
          | list items => simp only [Option.map_some, tidyRules, readRules_tidy]
          | _ => rfl
  | _ => rfl

theorem complete_tidy_iff :
    Complete (tidy value) ↔ ∃ fields, value = .object fields ∧ HasRules Section.Describes fields := by
  cases value with
  | object fields =>
      have hrules : ∀ field ∈ (fields.filter (·.1 == "rules")).map
          fun field => (field.1, tidyRules field.2), field.1 = "rules" := by
        simp
      simp only [Complete, tidy, Json.object.injEq, exists_eq_left', and_iff_right hrules, HasRules,
        lookup_tidy]
      cases Json.lookup? fields "rules" with
      | none => simp
      | some rules =>
          cases rules with
          | list items => simp [tidyRules, RuleConfig.hasForm_tidy_iff]
          | _ => simp [tidyRules]
  | _ => simp [Complete, tidy]

theorem complete_iff :
    Complete value ↔
      (∃ fields, value = .object fields ∧ HasRules Section.Describes fields) ∧
        ¬ HasUnread value := by
  constructor
  · intro h
    obtain ⟨fields, rfl, halone, hrules⟩ := h
    constructor
    · refine ⟨fields, rfl, fun rules hlookup => ?_⟩
      obtain ⟨items, rfl, hitems⟩ := hrules rules hlookup
      exact ⟨items, rfl, fun item hitem => (RuleConfig.hasForm_iff.1 (hitems item hitem)).1⟩
    · intro hunread
      cases hunread with
      | beside hmem hbeside => exact hbeside (halone _ hmem)
      | mistaken hlookup hitem hmistaken =>
          obtain ⟨items, hlist, hitems⟩ := hrules _ hlookup
          obtain rfl := Json.list.inj hlist
          exact (RuleConfig.hasForm_iff.1 (hitems _ hitem)).2 hmistaken
  · intro h
    obtain ⟨⟨fields, rfl, hrules⟩, hread⟩ := h
    refine ⟨fields, rfl, ?_, ?_⟩
    · intro field hmem
      by_contra hbeside
      exact hread (.beside hmem hbeside)
    · intro rules hlookup
      obtain ⟨items, rfl, hitems⟩ := hrules rules hlookup
      refine ⟨items, rfl, fun item hitem => RuleConfig.hasForm_iff.2 ⟨hitems item hitem, ?_⟩⟩
      exact fun hmistaken => hread (.mistaken hlookup hitem hmistaken)

/-- A document without the parts that are not read is taken as it was with them, and it is accepted
exactly if it is then complete. What is not accepted is rejected. So a document is complete as it
stands exactly if it is accepted and has no such part. -/
theorem only_unread_parts_are_ignored (value : Json) :
    ofJson (tidy value) = ofJson value ∧
    ((∃ config, (ofJson value).result = .ok config) ↔ Complete (tidy value)) ∧
    ((∃ config, (ofJson value).result = .ok config) ∨
      ∃ cause, (ofJson value).result = .error (.configuration cause)) ∧
    (Complete value ↔
      (∃ config, (ofJson value).result = .ok config) ∧ ¬ HasUnread value) := by
  refine ⟨ofJson_tidy value, ?_, ?_, ?_⟩
  · rw [exists_ofJson_iff, complete_tidy_iff]
  · cases hread : (ofJson value).result with
    | ok config => exact Or.inl ⟨config, rfl⟩
    | error failure =>
        obtain ⟨cause, rfl⟩ := onlyRejects_ofJson value failure hread
        exact Or.inr ⟨cause, rfl⟩
  · rw [exists_ofJson_iff]
    exact complete_iff

def misspelt : Json :=
  .object [("rulse", .list [.object [("branch", .object [("includes", .text "main")])]])]

def unsectioned : Json := .object [("rules", .list [.object [("branch", .bool false)]])]

theorem misspelt_is_accepted :
    (ofJson misspelt).result = .ok ⟨[]⟩ ∧ ¬ Complete misspelt ∧
    (ofJson unsectioned).result = .ok ⟨[⟨.wildcard, [(.branch, ⟨none, none, none⟩)], "", none⟩]⟩ ∧
    ¬ Complete unsectioned := by
  refine ⟨by cbv, ?_, by cbv, ?_⟩
  · intro h
    obtain ⟨fields, hfields, halone, -⟩ := h
    obtain rfl := Json.object.inj hfields
    exact absurd (halone _ List.mem_cons_self) (by decide)
  · intro h
    have hmistaken : HasUnread unsectioned :=
      .mistaken rfl List.mem_cons_self ⟨_, .branch, .bool false, rfl, rfl, .no, by simp, by simp⟩
    exact (complete_iff.1 h).2 hmistaken

end FilterSetConfig

end RefFilter
