import RefFilter.Proofs.Config.Readers

/-! # Legacy defaults

Asking for the legacy defaults of a profile comes to filling them in by hand. A field that has a
default and is blank gets the default, one field after the other, and nothing else changes: what
comes out has the same value under every key as any other list of values that was filled in this
way. Filling twice fills nothing the second time, since no default is blank. What was filled is
noted once, after everything that can be rejected.
-/

namespace RefFilter

open Text

/-! ## Blank texts -/

/-- A text is absent, or trimming leaves nothing of it. -/
def Text.Blank (text : Option String) : Prop := ∀ source, text = some source → trim source = ""

theorem Text.blank_some {source : String} : Blank (some source) ↔ trim source = "" := by
  simp [Blank]

/-- The legacy fields of a profile are distinct fields of it, and no default is blank. -/
theorem Profile.legacy_of_builtin {profile : Profile} (h : profile ∈ builtin) :
    (profile.legacyDefaults.map Prod.fst).Nodup ∧
      ∀ entry ∈ profile.legacyDefaults, entry.1 ∈ profile.fieldNames ∧ trim entry.2 ≠ "" := by
  revert profile
  decide +kernel

namespace RuleConfig

theorem isBlank_iff_blank {text : Option String} : isBlank text = true ↔ Blank text := by
  rw [isBlank_iff]
  simp [Given, Blank]

/-! ## Substitution -/

/-- Values are other values with a default for each field that has one and is blank. -/
structure Substitutes (defaults : List (String × String)) (values filled : Values) : Prop where
  replaced : ∀ entry ∈ defaults, Blank (valueOf values entry.1) →
    filled.lookup entry.1 = some (some entry.2)
  kept : ∀ key, (∀ default, (key, default) ∈ defaults → ¬ Blank (valueOf values key)) →
    filled.lookup key = values.lookup key

variable {defaults : List (String × String)} {values filled : Values}

theorem valueOf_congr {others : Values} {key : String} (h : values.lookup key = others.lookup key) :
    valueOf values key = valueOf others key := by
  rw [valueOf, valueOf, h]

namespace Substitutes

theorem nil (values : Values) : Substitutes [] values values := ⟨by simp, fun _ _ => rfl⟩

/-- A step of filling: the first field is filled if it is blank, and later ones leave it alone. -/
theorem cons {entry : String × String} {rest : List (String × String)}
    (hfresh : entry.1 ∉ rest.map Prod.fst)
    (h : Substitutes rest
      (if isBlank (valueOf values entry.1) then putValue values entry.1 entry.2 else values)
      filled) :
    Substitutes (entry :: rest) values filled := by
  have hother (key : String) (hkey : key ≠ entry.1) :
      (if isBlank (valueOf values entry.1) then putValue values entry.1 entry.2
        else values).lookup key = values.lookup key := by
    split
    · rw [lookup_putValue, if_neg hkey]
    · rfl
  -- No later entry is for the same field, so what the first step left there stays.
  have hentry := h.kept entry.1 fun default hmem =>
    absurd (List.mem_map.2 ⟨(entry.1, default), hmem, rfl⟩) hfresh
  constructor
  · intro target hmem hblank
    rcases List.mem_cons.1 hmem with rfl | hrest
    · rw [hentry, if_pos (isBlank_iff_blank.2 hblank), lookup_putValue, if_pos rfl]
    · have hne : target.1 ≠ entry.1 :=
        fun heq => hfresh (heq ▸ List.mem_map_of_mem hrest)
      apply h.replaced target hrest
      rwa [valueOf_congr (hother target.1 hne)]
  · intro key hfilled
    by_cases hkey : key = entry.1
    · subst hkey
      have hgiven := hfilled entry.2 List.mem_cons_self
      rw [hentry, if_neg (mt isBlank_iff_blank.1 hgiven)]
    · rw [← hother key hkey]
      apply h.kept
      intro default hmem
      rw [valueOf_congr (hother key hkey)]
      exact hfilled default (List.mem_cons_of_mem _ hmem)

/-- What substitution makes of values is determined under every key. -/
theorem lookup_eq {other : Values} (h : Substitutes defaults values filled)
    (hother : Substitutes defaults values other) (key : String) :
    filled.lookup key = other.lookup key := by
  by_cases hblank : ∃ default, (key, default) ∈ defaults ∧ Blank (valueOf values key)
  · obtain ⟨default, hmem, hblank⟩ := hblank
    rw [h.replaced _ hmem hblank, hother.replaced _ hmem hblank]
  · have hgiven (default : String) (hmem : (key, default) ∈ defaults) :
        ¬ Blank (valueOf values key) := fun hblank' => hblank ⟨default, hmem, hblank'⟩
    rw [h.kept key hgiven, hother.kept key hgiven]

/-- No field with a default is blank after the substitution. -/
theorem not_blank (h : Substitutes defaults values filled)
    (hdefaults : ∀ entry ∈ defaults, trim entry.2 ≠ "") :
    ∀ entry ∈ defaults, ¬ Blank (valueOf filled entry.1) := by
  intro entry hmem hfilled
  by_cases hblank : Blank (valueOf values entry.1)
  · rw [valueOf, h.replaced entry hmem hblank, Option.join_some, blank_some] at hfilled
    exact hdefaults entry hmem hfilled
  · rw [valueOf_congr (h.kept entry.1 fun _ _ => hblank)] at hfilled
    exact hblank hfilled

theorem of_not_blank (h : ∀ entry ∈ defaults, ¬ Blank (valueOf values entry.1)) :
    Substitutes defaults values values :=
  ⟨fun entry hmem hblank => absurd hblank (h entry hmem), fun _ _ => rfl⟩

/-- A value that is not blank stays, whatever white space is in it. -/
theorem lookup_given (h : Substitutes defaults values filled) {key text : String}
    (htext : values.lookup key = some (some text)) (hgiven : trim text ≠ "") :
    filled.lookup key = some (some text) := by
  rw [h.kept key, htext]
  intro default _ hblank
  rw [valueOf, htext, Option.join_some, blank_some] at hblank
  exact hgiven hblank

/-- Substitution brings in no other key than those of the defaults. -/
theorem mem_keys (h : Substitutes defaults values filled) {value : String × Option String}
    (hmem : value ∈ filled) : (∃ other ∈ values, other.1 = value.1) ∨
      ∃ entry ∈ defaults, entry.1 = value.1 := by
  by_cases hdefault : ∃ entry ∈ defaults, entry.1 = value.1
  · exact Or.inr hdefault
  · have hkept : filled.lookup value.1 = values.lookup value.1 :=
      h.kept value.1 fun default hentry => absurd ⟨_, hentry, rfl⟩ hdefault
    left
    cases hlookup : values.lookup value.1 with
    | none =>
        rw [hlookup, List.lookup_eq_none_iff] at hkept
        simpa using hkept value hmem
    | some text => exact ⟨_, mem_of_lookup hlookup, rfl⟩

end Substitutes

/-- Filling is substitution. -/
theorem substitutes_fillLegacy {profile : Profile} (hprofile : profile ∈ Profile.builtin)
    (values : Values) : Substitutes profile.legacyDefaults values (fillLegacy profile values) := by
  have hdistinct := (Profile.legacy_of_builtin hprofile).1
  unfold fillLegacy
  generalize profile.legacyDefaults = defaults at hdistinct
  induction defaults generalizing values with
  | nil => exact .nil values
  | cons entry rest ih =>
      rw [List.map_cons, List.nodup_cons] at hdistinct
      rw [List.foldl_cons]
      exact .cons hdistinct.1 (ih _ hdistinct.2)

theorem mem_blankLegacy {profile : Profile} {key : String} :
    key ∈ blankLegacy profile values ↔
      key ∈ profile.legacyDefaults.map Prod.fst ∧ Blank (valueOf values key) := by
  rw [blankLegacy, List.mem_filter, isBlank_iff_blank]

/-! ## Expansion -/

theorem expand_congr (profile : Profile) (name : String)
    (h : ∀ key, values.lookup key = filled.lookup key) :
    expand profile values name = expand profile filled name := by
  have hvalues : valueOf values = valueOf filled := funext fun key => valueOf_congr (h key)
  rw [expand, expand]
  simp only [profileSection_eq, hvalues]

theorem ofProfile_of_known {profile : Profile} (name : String)
    (hknown : ∀ value ∈ values, value.1 ∈ profile.fieldNames) :
    ofProfile profile values name false = ⟨.ok (expand profile values name), []⟩ := by
  rw [ofProfile, unknownFields_eq_nil_iff.2 hknown]
  rfl

theorem ofProfile_legacy {profile : Profile} (name : String)
    (hknown : ∀ value ∈ values, value.1 ∈ profile.fieldNames)
    (hdefaults : profile.legacyDefaults ≠ []) :
    ofProfile profile values name true = ⟨.ok (expand profile (fillLegacy profile values) name),
      [.legacyDefaults profile.name (blankLegacy profile values)]⟩ := by
  rw [ofProfile, unknownFields_eq_nil_iff.2 hknown]
  simp only [List.isEmpty_iff, hdefaults, if_false]
  rfl

/-- Reading the fields of a profile is refused for an unknown field, and for defaults that the
profile does not have, before anything is noted. -/
theorem ofProfile_refused {profile : Profile} (name : String) {legacy : Bool}
    (h : (∃ value ∈ values, value.1 ∉ profile.fieldNames) ∨
      legacy = true ∧ profile.legacyDefaults = []) :
    ∃ cause, ofProfile profile values name legacy = ⟨.error (.configuration cause), []⟩ := by
  unfold ofProfile
  split
  · rename_i hnames
    rcases h with ⟨value, hmem, hunknown⟩ | ⟨rfl, hnone⟩
    · exact absurd (unknownFields_eq_nil_iff.1 hnames value hmem) hunknown
    · rw [hnone]
      exact ⟨_, rfl⟩
  · exact ⟨_, rfl⟩

theorem events_ofProfile (profile : Profile) (values : Values) (name : String) :
    (ofProfile profile values name false).events = [] := by
  unfold ofProfile
  split <;> rfl

structure WarnsOf (profile : Profile) (replaced : List String) (event : Event) : Prop where
  level : event.level = .warning
  text : event.text = "Profile " ++ profile.name ++ " uses legacy defaults for " ++
    if replaced = [] then "no fields" else String.intercalate ", " replaced

theorem warnsOf_legacyDefaults (profile : Profile) (replaced : List String) :
    WarnsOf profile replaced (.legacyDefaults profile.name replaced) := by
  refine ⟨rfl, ?_⟩
  cases replaced <;> rfl

/-- With the legacy defaults of a profile, values give the configuration that they give without them
once every blank field that has a default is filled with it; what is not blank stays as it is. One
warning tells which fields were filled, in the order of the profile. On the filled values the
defaults change nothing, and the warning says so. Without legacy defaults nothing is noted, and
nothing is noted where a field is unknown or the profile has no defaults, which are refused. -/
theorem legacy_expansion_substitutes {profile : Profile} (hprofile : profile ∈ Profile.builtin)
    (values : Values) (name : String) :
    (profile.legacyDefaults ≠ [] → (∀ value ∈ values, value.1 ∈ profile.fieldNames) →
      (∃ filled, Substitutes profile.legacyDefaults values filled) ∧
      ∀ filled, Substitutes profile.legacyDefaults values filled →
        (∀ key text, values.lookup key = some (some text) → trim text ≠ "" →
          filled.lookup key = some (some text)) ∧
        ∃ config replaced warning nothing,
          ofProfile profile values name true = ⟨.ok config, [warning]⟩ ∧
          ofProfile profile filled name false = ⟨.ok config, []⟩ ∧
          ofProfile profile filled name true = ⟨.ok config, [nothing]⟩ ∧
          config.policy = profile.policy ∧ config.name = name ∧
          config.sections = profile.axes.map (fun (axis, fields) =>
            (axis, textsSection profile.policy (valueOf filled) fields)) ∧
          WarnsOf profile replaced warning ∧ WarnsOf profile [] nothing ∧
          replaced.Sublist (profile.legacyDefaults.map Prod.fst) ∧
          ∀ key, key ∈ replaced ↔
            key ∈ profile.legacyDefaults.map Prod.fst ∧ Blank (valueOf values key)) ∧
    (ofProfile profile values name false).events = [] ∧
    ∀ legacy, (∃ value ∈ values, value.1 ∉ profile.fieldNames) ∨
        legacy = true ∧ profile.legacyDefaults = [] →
      ∃ cause, ofProfile profile values name legacy = ⟨.error (.configuration cause), []⟩ := by
  obtain ⟨-, hfields⟩ := Profile.legacy_of_builtin hprofile
  refine ⟨?_, events_ofProfile profile values name, fun _ => ofProfile_refused name⟩
  intro hdefaults hknown
  refine ⟨⟨_, substitutes_fillLegacy hprofile values⟩, ?_⟩
  intro filled hfilled
  refine ⟨fun key text => hfilled.lookup_given, ?_⟩
  have hgiven := hfilled.not_blank fun entry hmem => (hfields entry hmem).2
  have hknown' : ∀ value ∈ filled, value.1 ∈ profile.fieldNames := by
    intro value hmem
    rcases hfilled.mem_keys hmem with ⟨other, hother, hkey⟩ | ⟨entry, hentry, hkey⟩
    · exact hkey ▸ hknown other hother
    · exact hkey ▸ (hfields entry hentry).1
  have hfirst : expand profile (fillLegacy profile values) name = expand profile filled name :=
    expand_congr profile name ((substitutes_fillLegacy hprofile values).lookup_eq hfilled)
  have hagain : expand profile (fillLegacy profile filled) name = expand profile filled name :=
    expand_congr profile name
      ((substitutes_fillLegacy hprofile filled).lookup_eq (.of_not_blank hgiven))
  have hnothing : blankLegacy profile filled = [] := by
    rw [List.eq_nil_iff_forall_not_mem]
    intro key hmem
    obtain ⟨hkey, hblank⟩ := mem_blankLegacy.1 hmem
    obtain ⟨entry, hentry, rfl⟩ := List.mem_map.1 hkey
    exact hgiven entry hentry hblank
  refine ⟨expand profile filled name, blankLegacy profile values,
    .legacyDefaults profile.name (blankLegacy profile values), .legacyDefaults profile.name [],
    ?_, ofProfile_of_known name hknown', ?_, rfl, rfl, ?_, warnsOf_legacyDefaults _ _,
    warnsOf_legacyDefaults _ _, List.filter_sublist, fun key => mem_blankLegacy⟩
  · rw [ofProfile_legacy name hknown hdefaults, hfirst]
  · rw [ofProfile_legacy name hknown' hdefaults, hagain, hnothing]
  · simp only [expand, profileSection_eq]

def headWithRequests : Profile := Profile.builtin[5]

def spacedValues : Values := [("includes", some " v* "), ("tagExcludes", some "\u3000")]

theorem spacedValues_filled :
    ∃ config warning,
      ofProfile headWithRequests spacedValues "nightly" true = ⟨.ok config, [warning]⟩ ∧
      ofProfile headWithRequests [("includes", some " v* "), ("tagExcludes", some "*"),
        ("prDestination", some "development")] "nightly" false = ⟨.ok config, []⟩ ∧
      warning.text = "Profile wildcard_head_with_pr uses legacy defaults for " ++
        "tagExcludes, prDestination" := by
  have hprofile : headWithRequests ∈ Profile.builtin := List.getElem_mem _
  have hsubstitutes : Substitutes headWithRequests.legacyDefaults spacedValues
      [("includes", some " v* "), ("tagExcludes", some "*"),
        ("prDestination", some "development")] :=
    substitutes_fillLegacy hprofile spacedValues
  obtain ⟨hexpansion, -⟩ := legacy_expansion_substitutes hprofile spacedValues "nightly"
  obtain ⟨-, hfilled⟩ := hexpansion (by decide) (by decide +kernel)
  obtain ⟨-, config, replaced, warning, -, hlegacy, hplain, -, -, -, -, hwarns, -, hsublist,
    hmem⟩ := hfilled _ hsubstitutes
  have hreplaced : replaced = ["tagExcludes", "prDestination"] := by
    have hblank : trim "\u3000" = "" := by decide +kernel
    have hall : ["tagExcludes", "prDestination"] ⊆ replaced := by
      rw [List.cons_subset, List.cons_subset, hmem, hmem]
      refine ⟨⟨by decide, blank_some.2 hblank⟩, ⟨by decide, ?_⟩, List.nil_subset _⟩
      intro source hsource
      cases hsource
    exact hsublist.eq_of_length_le (List.subperm_of_subset (by decide) hall).length_le
  refine ⟨config, warning, hlegacy, hplain, ?_⟩
  rw [hwarns.text, hreplaced]
  decide +kernel

end RuleConfig

end RefFilter
