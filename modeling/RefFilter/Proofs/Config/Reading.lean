import RefFilter.Proofs.Rule.Compilation

/-! # What reading a rule configuration gives

A document that is read is in one of two forms. The flat form gives the configuration that a
profile makes of some values; the form with sections gives the sections of the axes that the
document has, in the order of reading, and each section keeps the texts of its value. Either way
each axis has one section, and a configuration that says which profile it comes from has a section
at all, which is what its document is told from the flat form by.
-/

namespace RefFilter

theorem Profile.mem_of_find {name : String} {profile : Profile}
    (h : Profile.find name = .ok profile) : profile ∈ Profile.builtin := by
  unfold Profile.find at h
  split at h
  · rename_i found hfound
    obtain rfl := Except.ok.inj h
    exact List.mem_of_find?_eq_some hfound
  · cases h

/-! ## Values -/

def Json.IsTextOrNull (value : Json) : Prop := value = .null ∨ ∃ text, value = .text text

/-- A value stands for nothing: null, false, zero, or empty. -/
inductive Json.StandsForNothing : Json → Prop where
  | null : StandsForNothing .null
  | no : StandsForNothing (.bool false)
  | zero : StandsForNothing (.int 0)
  | floatZero (negative : Bool) (exponent : Int) :
      StandsForNothing (.float (.finite negative 0 exponent))
  | text : StandsForNothing (.text "")
  | list : StandsForNothing (.list [])
  | object : StandsForNothing (.object [])

theorem Json.isFalsy_iff {value : Json} : value.isFalsy = true ↔ value.StandsForNothing := by
  constructor
  · intro h
    match value, h with
    | .null, _ => exact .null
    | .bool false, _ => exact .no
    | .int n, h =>
        obtain rfl : n = 0 := by simpa [isFalsy] using h
        exact .zero
    | .float (.finite negative 0 exponent), _ => exact .floatZero negative exponent
    | .text s, h =>
        obtain rfl : s = "" := by simpa [isFalsy] using h
        exact .text
    | .list [], _ => exact .list
    | .object [], _ => exact .object
  · intro h
    cases h <;> rfl

namespace Section

theorem unknownNames_eq_nil_iff {known names : List String} :
    unknownNames known names = [] ↔ ∀ name ∈ names, name ∈ known := by
  rw [unknownNames, ← List.length_eq_zero_iff, List.length_mergeSort, List.length_eq_zero_iff,
    List.filter_eq_nil_iff]
  simp

theorem isTextOrNull_iff {value : Json} : isTextOrNull value = true ↔ value.IsTextOrNull := by
  cases value <;> simp [isTextOrNull, Json.IsTextOrNull]

theorem checkTexts_eq_ok_iff {fields : List (String × Json)} :
    checkTexts fields = .ok () ↔ ∀ field ∈ fields, field.2.IsTextOrNull := by
  simp only [← isTextOrNull_iff]
  unfold checkTexts
  cases hfind : fields.find? fun field => !isTextOrNull field.2 with
  | none => simpa using hfind
  | some field =>
      have hmem := List.mem_of_find?_eq_some hfind
      have hnot := List.find?_some hfind
      refine iff_of_false (by simp) ?_
      intro hall
      simp [hall field hmem] at hnot

theorem textAt_eq_some_iff {fields : List (String × Json)} {key text : String} :
    textAt fields key = some text ↔ Json.lookup? fields key = some (.text text) := by
  unfold textAt
  cases Json.lookup? fields key with
  | none => simp
  | some value => cases value <;> simp [textOf?]

/-! ## Sections -/

/-- A value describes a section: it stands for nothing, or it is an object that has texts or null
under some of the names of the texts of a section. -/
def Describes (value : Json) : Prop :=
  value.StandsForNothing ∨ ∃ members, value = .object members ∧
    ∀ member ∈ members, member.1 ∈ fieldNames ∧ member.2.IsTextOrNull

def Sets (value : Json) (key text : String) : Prop :=
  ∃ members, value = .object members ∧ Json.lookup? members key = some (.text text)

def textIn (value : Json) (key : String) : Option String :=
  match value with
  | .object members => textAt members key
  | _ => none

def ofValue (value : Json) : Section :=
  ⟨textIn value "includes", textIn value "excludes", textIn value "regex"⟩

theorem textIn_eq_some_iff {value : Json} {key text : String} :
    textIn value key = some text ↔ Sets value key text := by
  cases value with
  | object members => simp [textIn, Sets, textAt_eq_some_iff]
  | _ => simp [textIn, Sets]

theorem ofFields_eq_ok_iff {fields : List (String × Json)} {texts : Section} :
    ofFields fields = .ok texts ↔
      (∀ field ∈ fields, field.1 ∈ fieldNames ∧ field.2.IsTextOrNull) ∧
        texts = ofValue (.object fields) := by
  have hnames : unknownNames fieldNames (fields.map (·.1)) = [] ↔
      ∀ field ∈ fields, field.1 ∈ fieldNames := by
    simp [unknownNames_eq_nil_iff]
  rw [forall₂_and, ← hnames, ← checkTexts_eq_ok_iff]
  unfold ofFields
  split
  · rename_i hknown
    rw [bind_eq_ok_iff]
    constructor
    · intro h
      obtain ⟨⟨⟩, hcheck, h⟩ := h
      exact ⟨⟨hknown, hcheck⟩, (Except.ok.inj h).symm⟩
    · intro h
      obtain ⟨⟨-, hcheck⟩, rfl⟩ := h
      exact ⟨(), hcheck, rfl⟩
  · rename_i hunknown
    refine iff_of_false (by simp) ?_
    intro h
    exact hunknown h.1.1

theorem ofValue_of_standsForNothing {value : Json} (h : value.StandsForNothing) :
    ofValue value = ⟨none, none, none⟩ := by
  cases h <;> rfl

/-- A section is read from exactly the values that describe one, and it has their texts. -/
theorem ofJson_eq_ok_iff {value : Json} {texts : Section} :
    ofJson value = .ok texts ↔ Describes value ∧ texts = ofValue value := by
  unfold ofJson
  by_cases hfalsy : value.isFalsy = true
  · have hnothing := Json.isFalsy_iff.1 hfalsy
    rw [if_pos hfalsy, ofValue_of_standsForNothing hnothing]
    simp [Describes, hnothing, eq_comm]
  · have hsome : ¬ value.StandsForNothing := mt Json.isFalsy_iff.2 hfalsy
    rw [if_neg hfalsy]
    cases value with
    | object members =>
        dsimp only
        rw [ofFields_eq_ok_iff]
        simp [Describes, hsome]
    | _ => simp [Describes, hsome]

end Section

/-! ## Fields by axis -/

theorem lookup_filterMap {α : Type} (value? : Axis → Option α) (axes : List Axis) (axis : Axis) :
    (axes.filterMap fun axis => (value? axis).map (axis, ·)).lookup axis =
      if axis ∈ axes then value? axis else none := by
  induction axes with
  | nil => rfl
  | cons head rest ih =>
      by_cases hhead : axis = head
      · subst hhead
        cases hvalue : value? axis with
        | none =>
            rw [List.filterMap_cons_none (by rw [hvalue]; rfl), ih]
            simp [hvalue]
        | some value =>
            rw [List.filterMap_cons_some (by rw [hvalue]; rfl), List.lookup_cons_self]
            simp
      · have hskip (entries : List (Axis × α)) (value : α) :
            ((head, value) :: entries).lookup axis = entries.lookup axis := by
          rw [List.lookup_cons, beq_false_of_ne hhead]
        cases hvalue : value? head with
        | none =>
            rw [List.filterMap_cons_none (by rw [hvalue]; rfl), ih]
            simp [hhead]
        | some value =>
            rw [List.filterMap_cons_some (by rw [hvalue]; rfl), hskip, ih]
            simp [hhead]

theorem distinct_filterMap {α : Type} (value? : Axis → Option α) {axes : List Axis}
    (h : axes.Nodup) :
    ((axes.filterMap fun axis => (value? axis).map (axis, ·)).map Prod.fst).Nodup := by
  rw [List.map_filterMap]
  apply h.filterMap
  intro axis other key hkey hother
  simp only [Option.map_map, Option.mem_def, Option.map_eq_some_iff, Function.comp_apply]
    at hkey hother
  obtain ⟨-, -, rfl⟩ := hkey
  obtain ⟨-, -, hother⟩ := hother
  exact hother.symm

namespace RuleConfig

/-- Each axis has one section, and there is one if the configuration names a profile. -/
structure WellFormed (config : RuleConfig) : Prop where
  distinct : (config.sections.map Prod.fst).Nodup
  labelled : config.profile.isSome = true → config.sections ≠ []

/-! ## The flat form -/

theorem expand_of_ofProfile {profile : Profile} {values : Values} {name : String} {legacy : Bool}
    {config : RuleConfig} (h : (ofProfile profile values name legacy).result = .ok config) :
    ∃ filled, config = expand profile filled name := by
  unfold ofProfile at h
  split at h
  · split at h
    · split at h
      · cases h
      · rw [Traced.result_bind_eq_ok_iff] at h
        obtain ⟨-, -, h⟩ := h
        exact ⟨_, (Except.ok.inj h).symm⟩
    · exact ⟨_, (Except.ok.inj h).symm⟩
  · cases h

theorem expand_of_ofFlatFields {fields : List (String × Json)} {config : RuleConfig}
    (h : (ofFlatFields fields).result = .ok config) :
    ∃ profile ∈ Profile.builtin, ∃ values name, config = expand profile values name := by
  unfold ofFlatFields at h
  simp only [Traced.result_bind_eq_ok_iff, Traced.result_liftM] at h
  obtain ⟨-, -, legacy, -, profileName, -, name, -, profile, hprofile, h⟩ := h
  obtain ⟨filled, hfilled⟩ := expand_of_ofProfile h
  exact ⟨profile, Profile.mem_of_find hprofile, filled, _, hfilled⟩

theorem wellFormed_expand {profile : Profile} (hprofile : profile ∈ Profile.builtin)
    (values : Values) (name : String) : (expand profile values name).WellFormed := by
  have haxes : ∀ profile ∈ Profile.builtin,
      (profile.axes.map Prod.fst).Nodup ∧ profile.axes ≠ [] := by decide
  obtain ⟨hdistinct, hsome⟩ := haxes profile hprofile
  constructor
  · rwa [expand, List.map_map]
  · intro _ hnil
    exact hsome (List.map_eq_nil_iff.1 hnil)

/-! ## The form with sections -/

theorem ofSectionFields_eq_ok_iff {fields : List (String × Json)} {config : RuleConfig} :
    ofSectionFields fields = .ok config ↔
      Section.unknownNames (plainFields ++ Axis.all.map Axis.name) (fields.map (·.1)) = [] ∧
        Policy.ofJson ((Json.lookup? fields "policy").getD (.text Policy.wildcard.name)) =
          .ok config.policy ∧
        readSections fields readingOrder = .ok config.sections ∧
        (∃ name, textField fields "name" = .ok name ∧ name.getD "" = config.name) ∧
        textField fields "profile" = .ok config.profile := by
  unfold ofSectionFields
  split
  · rename_i hknown
    simp only [bind_eq_ok_iff, hknown, true_and]
    constructor
    · intro h
      rcases h with ⟨policy, hpolicy, sections, hsections, name, hname, profile, hprofile, h⟩
      obtain rfl := Except.ok.inj h
      exact ⟨hpolicy, hsections, ⟨name, hname, rfl⟩, hprofile⟩
    · intro h
      rcases h with ⟨hpolicy, hsections, ⟨name, hname, hdefault⟩, hprofile⟩
      exact ⟨_, hpolicy, _, hsections, name, hname, _, hprofile, by rw [hdefault]; rfl⟩
  · rename_i hunknown
    refine iff_of_false (by simp) ?_
    intro h
    rcases h with ⟨h, -⟩
    exact hunknown h

theorem mem_readingOrder (axis : Axis) : axis ∈ readingOrder := by
  cases axis <;> decide

def sectionsOf (fields : List (String × Json)) (axes : List Axis) : List (Axis × Section) :=
  axes.filterMap fun axis =>
    ((Json.lookup? fields axis.name).map Section.ofValue).map (axis, ·)

theorem readSections_eq_ok_iff {fields : List (String × Json)} {axes : List Axis}
    {sections : List (Axis × Section)} :
    readSections fields axes = .ok sections ↔
      (∀ axis ∈ axes, ∀ value, Json.lookup? fields axis.name = some value →
        Section.Describes value) ∧ sections = sectionsOf fields axes := by
  induction axes generalizing sections with
  | nil => simp [readSections, sectionsOf, eq_comm]
  | cons axis rest ih =>
      rw [readSections, List.forall_mem_cons]
      cases hvalue : Json.lookup? fields axis.name with
      | none =>
          have hskip : sectionsOf fields (axis :: rest) = sectionsOf fields rest := by
            simp [sectionsOf, hvalue]
          simp [ih, hskip]
      | some value =>
          have hcons : sectionsOf fields (axis :: rest) =
              (axis, Section.ofValue value) :: sectionsOf fields rest := by
            simp [sectionsOf, hvalue]
          simp only [bind_eq_ok_iff, Section.ofJson_eq_ok_iff, ih, hcons, Option.some.injEq,
            forall_eq']
          constructor
          · intro h
            obtain ⟨_, ⟨hdescribes, rfl⟩, _, ⟨hrest, rfl⟩, h⟩ := h
            exact ⟨⟨hdescribes, hrest⟩, (Except.ok.inj h).symm⟩
          · intro h
            obtain ⟨⟨hdescribes, hrest⟩, rfl⟩ := h
            exact ⟨_, ⟨hdescribes, rfl⟩, _, ⟨hrest, rfl⟩, rfl⟩

/-- The section that is read for an axis has the texts of the value of the axis. -/
theorem lookup_sectionsOf (fields : List (String × Json)) (axis : Axis) :
    (sectionsOf fields readingOrder).lookup axis =
      (Json.lookup? fields axis.name).map Section.ofValue := by
  have hlookup := lookup_filterMap
    (fun axis => (Json.lookup? fields axis.name).map Section.ofValue) readingOrder axis
  rwa [if_pos (mem_readingOrder axis)] at hlookup

theorem mem_sectionsOf {fields : List (String × Json)} {axis : Axis} {texts : Section} :
    (axis, texts) ∈ sectionsOf fields readingOrder ↔
      ∃ value, Json.lookup? fields axis.name = some value ∧ texts = Section.ofValue value := by
  simp only [sectionsOf, List.mem_filterMap, Option.map_eq_some_iff, Prod.mk.injEq]
  constructor
  · intro h
    obtain ⟨_, -, _, ⟨value, hvalue, rfl⟩, rfl, rfl⟩ := h
    exact ⟨value, hvalue, rfl⟩
  · intro h
    obtain ⟨value, hvalue, rfl⟩ := h
    exact ⟨axis, mem_readingOrder axis, _, ⟨value, hvalue, rfl⟩, rfl, rfl⟩

theorem sectionsOf_ne_nil_iff {fields : List (String × Json)} :
    sectionsOf fields readingOrder ≠ [] ↔
      ∃ (axis : Axis) (value : Json), Json.lookup? fields axis.name = some value := by
  constructor
  · intro h
    obtain ⟨⟨axis, texts⟩, hmem⟩ := List.exists_mem_of_ne_nil _ h
    obtain ⟨value, hvalue, -⟩ := mem_sectionsOf.1 hmem
    exact ⟨axis, value, hvalue⟩
  · intro h
    obtain ⟨axis, value, hvalue⟩ := h
    exact List.ne_nil_of_mem (mem_sectionsOf.2 ⟨value, hvalue, rfl⟩)

theorem hasSection_iff {fields : List (String × Json)} :
    hasSection fields = true ↔
      ∃ (axis : Axis) (value : Json), Json.lookup? fields axis.name = some value := by
  rw [hasSection, List.any_eq_true]
  simp only [Axis.mem_all, true_and, Option.isSome_iff_exists]

theorem distinct_readSections {fields : List (String × Json)} {sections : List (Axis × Section)}
    (h : readSections fields readingOrder = .ok sections) : (sections.map Prod.fst).Nodup := by
  obtain ⟨-, rfl⟩ := readSections_eq_ok_iff.1 h
  exact distinct_filterMap _ (by decide)

theorem wellFormed_of_ofSectionFields {fields : List (String × Json)} {config : RuleConfig}
    (hform : (Json.lookup? fields "profile").isSome = true → hasSection fields = true)
    (h : ofSectionFields fields = .ok config) : config.WellFormed := by
  obtain ⟨-, -, hsections, -, hprofile⟩ := ofSectionFields_eq_ok_iff.1 h
  constructor
  · exact distinct_readSections hsections
  · intro hsome
    have hfield : (Json.lookup? fields "profile").isSome = true := by
      cases hlookup : Json.lookup? fields "profile" with
      | none =>
          rw [textField, hlookup] at hprofile
          rw [← Except.ok.inj hprofile] at hsome
          cases hsome
      | some value => rfl
    -- The document has the section of some axis, and that section is read.
    rw [(readSections_eq_ok_iff.1 hsections).2, sectionsOf_ne_nil_iff, ← hasSection_iff]
    exact hform hfield

/-! ## Either form -/

theorem wellFormed_of_ofJson {value : Json} {config : RuleConfig}
    (h : (ofJson value).result = .ok config) : config.WellFormed := by
  unfold ofJson at h
  split at h
  · rename_i fields
    split at h
    · obtain ⟨profile, hprofile, values, name, rfl⟩ := expand_of_ofFlatFields h
      exact wellFormed_expand hprofile values name
    · rename_i hform
      refine wellFormed_of_ofSectionFields (fun hprofile => ?_) h
      simpa [hprofile] using hform
  · cases h

end RuleConfig

end RefFilter
