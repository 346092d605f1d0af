import RefFilter.Proofs.Config.Acceptance
import RefFilter.Proofs.Config.Exclusion
import RefFilter.Proofs.Config.Legacy

/-! # What the defaults do to names

A configuration without a text builds a rule that excludes no reference: its patterns are the
defaults, which reject no name. The legacy defaults do reject names. A blank legacy field for tags
stops every tag, by a list that globs every name or by an expression that fails at every spot, and
a blank legacy field for destinations lets only requests into one branch through. No name is an
exception to this, be it empty or over several lines.
-/

namespace RefFilter

open Text

/-! ## Patterns -/

/-- A token without a star globs itself. -/
theorem Wildcard.globs_literal {token : List Char} (h : '*' ∉ token) (name : List Char) :
    Globs token name ↔ name = token := by
  induction token generalizing name with
  | nil => exact globs_nil name
  | cons c token ih =>
      rw [List.mem_cons, not_or] at h
      simp only [globs_cons (Ne.symm h.1), ih h.2, exists_eq_right]

/-- A pattern that is one token without a star globs itself. -/
theorem Wildcard.globsAny_literal {pattern : String} (hsome : pattern ≠ "")
    (hspace : ' ' ∉ pattern.toList) (hstar : '*' ∉ pattern.toList) (name : String) :
    GlobsAny pattern name ↔ name = pattern := by
  have hne : pattern.toList ≠ [] := by simpa using hsome
  rw [GlobsAny, List.splitOn_eq_singleton hspace]
  simp [hne, globs_literal hstar, String.toList_inj]

/-- A loop that may take no turn succeeds at every spot, so looking ahead for its absence fails. -/
theorem Regex.run_look_star (text : List Char) (test : CharTest) (spot : Spot) (rest : Rest) :
    run text (.look .ahead true (.loop .greedy 0 none (.char test))) spot rest = none := by
  have hbody : (run text (.loop .greedy 0 none (.char test)) spot some).isSome :=
    ((denotes_char test).star text spot some).2
      ⟨[], spot.after, rfl, Language.nil_mem_kstar _, rfl⟩
  obtain ⟨inner, hinner⟩ := Option.isSome_iff_exists.1 hbody
  have hlook : run text (.look .ahead true (.loop .greedy 0 none (.char test))) spot rest =
      resume true (run text (.loop .greedy 0 none (.char test)) spot some) spot rest := rfl
  rw [hlook, hinner]
  rfl

def Section.matchNone : String := "(?!.*)"

theorem ofRegex_matchNone :
    ∃ matcher, Matcher.ofRegex Section.matchNone = .ok matcher ∧
      ∀ name, matcher.accepts name = false := by
  have hparse : Regex.parse [] Section.matchNone =
      .ok (.look .ahead true (.loop .greedy 0 none (.char (.any false)))) := by
    cbv
  refine ⟨_, by rw [Matcher.ofRegex, hparse], ?_⟩
  intro name
  dsimp only [Matcher.accepts]
  rw [Regex.fullMatch.eq_def, Regex.run_look_star]
  rfl

/-! ## Sections -/

theorem Text.Blank.not_given {text : Option String} (h : Blank text) (source : String) :
    ¬ Given text source :=
  fun hgiven => hgiven.2 (h source hgiven.1)

namespace Section

/-- A section holds no text, or only blank ones. -/
structure Unset (texts : Section) : Prop where
  includes : Blank texts.includes
  excludes : Blank texts.excludes
  regex : Blank texts.regex

variable {texts : Section}

theorem Unset.not_rejects (h : texts.Unset) (policy : Policy) (name : String) :
    ¬ texts.Rejects policy name := by
  intro hrejects
  cases policy with
  | wildcard =>
      rcases hrejects with ⟨source, hgiven, -⟩ | ⟨source, hgiven, -⟩
      · exact h.includes.not_given source hgiven
      · exact h.excludes.not_given source hgiven
  | regex =>
      obtain ⟨source, hgiven, -⟩ := hrejects
      exact h.regex.not_given source hgiven

theorem rejects_of_excludes_all (h : texts.excludes = some includeAll) (name : String) :
    texts.Rejects .wildcard name :=
  Or.inr ⟨includeAll, ⟨h, by decide⟩, globsAny_includeAll name⟩

theorem rejects_of_matchNone (h : texts.regex = some matchNone) (name : String) :
    texts.Rejects .regex name := by
  obtain ⟨matcher, hmatcher, hnone⟩ := ofRegex_matchNone
  exact ⟨matchNone, ⟨h, by decide⟩, matcher, hmatcher, hnone name⟩

/-- An include list of one literal rejects all other names. -/
theorem rejects_literal_iff (literal : String) (hgiven : trim literal ≠ "")
    (hspace : ' ' ∉ literal.toList) (hstar : '*' ∉ literal.toList) (name : String) :
    (ofWildcards (some literal) none).Rejects .wildcard name ↔ name ≠ literal := by
  have hsome : literal ≠ "" := by
    rintro rfl
    exact hgiven (by decide)
  rw [Ne, ← Wildcard.globsAny_literal hsome hspace hstar]
  constructor
  · intro h
    rcases h with ⟨source, ⟨hsource, -⟩, hmisses⟩ | ⟨source, ⟨hsource, -⟩, -⟩
    · obtain rfl := Option.some.inj hsource
      exact hmisses
    · cases hsource
  · intro hmisses
    exact Or.inl ⟨literal, ⟨rfl, hgiven⟩, hmisses⟩

end Section

namespace RuleConfig

variable {fields : List (String × Json)} {config : RuleConfig} {rule : Rule}

/-! ## Configurations without a text -/

theorem excludes_none_of_unset (hdistinct : (config.sections.map Prod.fst).Nodup)
    (hbuild : config.build = .ok rule) (hunset : ∀ entry ∈ config.sections, entry.2.Unset)
    (reference : Reference) : rule.excludes reference = false := by
  rw [← Bool.not_eq_true, excludes_iff_of_build hdistinct hbuild]
  intro h
  obtain ⟨axis, name, texts, -, htexts, hrejects⟩ := h
  exact (hunset _ (mem_of_lookup htexts)).not_rejects config.policy name hrejects

/-- The flat fields of a profile hold no text that is not blank, and the legacy defaults are not
asked for. -/
structure FlatUnset (profile : Profile) (fields : List (String × Json)) : Prop where
  plain : Json.lookup? fields "legacy" ≠ some (.bool true)
  blank : ∀ field ∈ profile.fieldNames, Blank (Section.textAt fields field)

/-- No section has a text that is not blank. -/
def SectionsUnset (fields : List (String × Json)) : Prop :=
  ∀ axis key text, SetsText fields axis key text → trim text = ""

theorem unset_textsSection {policy : Policy} {texts : String → Option String}
    {fields : AxisFields} (h : ∀ field ∈ fields.names, Blank (texts field)) :
    (textsSection policy texts fields).Unset := by
  rw [AxisFields.names, List.forall_mem_cons] at h
  obtain ⟨hincludes, hexcludes⟩ := h
  have hnone : Blank none := by
    intro source hsource
    cases hsource
  cases policy with
  | regex => exact ⟨hnone, hnone, hincludes⟩
  | wildcard =>
      refine ⟨hincludes, ?_, hnone⟩
      intro source hsource
      obtain ⟨field, hfield, hvalue⟩ := Option.bind_eq_some_iff.1 hsource
      exact hexcludes field (by simpa using hfield) source hvalue

theorem unset_of_flat {profile : Profile} (hform : FlatForm profile fields)
    (hunset : FlatUnset profile fields) (hread : (ofJson (.object fields)).result = .ok config) :
    ∀ entry ∈ config.sections, entry.2.Unset := by
  have hflat : ofJson (.object fields) = ofFlatFields fields := if_pos hform.flat
  rw [hflat, ofFlatFields_eq_ok_iff] at hread
  obtain ⟨found, label, asked, hlabel, hfind, -, hasked, -, -, rfl⟩ := hread
  obtain ⟨label', hlabel', hfind'⟩ := hform.labelled
  obtain rfl : label = label' := by simpa using hlabel.symm.trans hlabel'
  obtain rfl := Option.some.inj (hfind.symm.trans hfind')
  have hplain : asked = false := by
    rcases legacyField_eq_ok_iff.1 hasked with ⟨-, hfalse⟩ | hsome
    · exact hfalse
    · cases asked with
      | false => rfl
      | true => exact absurd hsome hunset.plain
  have hprofile : found ∈ Profile.builtin := List.mem_of_find?_eq_some hfind
  obtain ⟨hreserved, hnames⟩ := Profile.fields_of_builtin hprofile
  intro entry hmem
  obtain ⟨⟨axis, names⟩, haxis, rfl⟩ := List.mem_map.1 hmem
  dsimp only
  rw [hplain, if_neg Bool.false_ne_true, profileSection_eq]
  apply unset_textsSection
  intro field hfield
  have hname := hnames (axis, names) haxis field hfield
  rw [valueOf_flatValues (hreserved field hname)]
  exact hunset.blank field hname

theorem unset_of_sections {policy : Policy} (hform : SectionForm policy fields)
    (hunset : SectionsUnset fields) (hread : (ofJson (.object fields)).result = .ok config) :
    ∀ entry ∈ config.sections, entry.2.Unset := by
  have hsections : (ofJson (.object fields)).result = ofSectionFields fields := by
    rw [ofJson, hform.not_flat]
    rfl
  rw [hsections, ofSectionFields_eq_ok_iff] at hread
  obtain ⟨-, -, hread, -⟩ := hread
  rw [(readSections_eq_ok_iff.1 hread).2]
  intro entry hmem
  obtain ⟨axis, texts⟩ := entry
  obtain ⟨value, hvalue, rfl⟩ := mem_sectionsOf.1 hmem
  have hblank (key : String) : Blank (Section.textIn value key) := by
    intro text htext
    exact hunset axis key text ⟨value, hvalue, Section.textIn_eq_some_iff.1 htext⟩
  exact ⟨hblank _, hblank _, hblank _⟩

/-- A document without a text is read and built, and its rule excludes nothing. -/
theorem exists_rule_of_unset
    (h : (∃ profile, FlatForm profile fields ∧ FlatUnset profile fields) ∨
      ∃ policy, SectionForm policy fields ∧ SectionsUnset fields) :
    ∃ config rule, (ofJson (.object fields)).result = .ok config ∧ config.build = .ok rule ∧
      ∀ reference, rule.attempt reference = .ok (rule.decide reference) ∧
        rule.excludes reference = false := by
  -- A blank expression is never compiled, so that all of them are usable.
  have hforms : (∃ profile, FlatForm profile fields ∧ FlatUsable profile fields) ∨
      ∃ policy, SectionForm policy fields ∧ SectionsUsable policy fields := by
    rcases h with ⟨profile, hform, hunset⟩ | ⟨policy, hform, hunset⟩
    · refine Or.inl ⟨profile, hform, fun _ field hfield source hsource hgiven => ?_⟩
      exact absurd (hunset.blank field hfield source (Section.textAt_eq_some_iff.2 hsource)) hgiven
    · refine Or.inr ⟨policy, hform, fun _ axis source hsets hgiven => ?_⟩
      exact absurd (hunset axis "regex" source hsets) hgiven
  obtain ⟨config, hread, rule, hbuild⟩ := exists_rule_iff.2 hforms
  have hblank : ∀ entry ∈ config.sections, entry.2.Unset := by
    rcases h with ⟨profile, hform, hunset⟩ | ⟨policy, hform, hunset⟩
    · exact unset_of_flat hform hunset hread
    · exact unset_of_sections hform hunset hread
  refine ⟨config, rule, hread, hbuild, fun reference => ⟨?_, ?_⟩⟩
  · exact (compiled_of_build hbuild).attempt reference
  · exact excludes_none_of_unset (wellFormed_of_ofJson hread).distinct hbuild hblank reference

/-! ## Legacy fields -/

def LegacyField (profile : Profile) (axis : Axis) (field default : String) : Prop :=
  (field, default) ∈ profile.legacyDefaults ∧
    ∃ fields, (axis, fields) ∈ profile.axes ∧ field ∈ fields.names

/-- The legacy field for tags is the exclude list, or else the expression. -/
theorem legacyTag_of_builtin : ∀ profile ∈ Profile.builtin, ∀ entry ∈ profile.axes,
    ∀ legacy ∈ profile.legacyDefaults, entry.1 = .tag → legacy.1 ∈ entry.2.names →
      profile.policy = .wildcard ∧ entry.2.excludes = some legacy.1 ∧
          legacy.2 = Section.includeAll ∨
        profile.policy = .regex ∧ entry.2.includes = legacy.1 ∧
          legacy.2 = Section.matchNone := by
  decide +kernel

/-- The legacy field for destinations is the include list, which has no exclude list beside it, and
origins are left alone. -/
theorem legacyDestination_of_builtin : ∀ profile ∈ Profile.builtin, ∀ entry ∈ profile.axes,
    ∀ legacy ∈ profile.legacyDefaults, entry.1 = .prDestination → legacy.1 ∈ entry.2.names →
      profile.policy = .wildcard ∧ entry.2 = ⟨legacy.1, none⟩ ∧ legacy.2 = "development" ∧
        ∀ other ∈ profile.axes, other.1 ≠ .prOrigin := by
  decide +kernel

variable {profile : Profile} {values : Values} {name field default : String}

/-- A blank field has its legacy default after filling. -/
theorem valueOf_fillLegacy_of_blank (hprofile : profile ∈ Profile.builtin)
    (hdefault : (field, default) ∈ profile.legacyDefaults) (hblank : Blank (valueOf values field)) :
    valueOf (fillLegacy profile values) field = some default := by
  have hfilled := (substitutes_fillLegacy hprofile values).replaced _ hdefault hblank
  rw [valueOf, hfilled, Option.join_some]

theorem section?_expand (hprofile : profile ∈ Profile.builtin) {axis : Axis} {fields : AxisFields}
    (hmem : (axis, fields) ∈ profile.axes) :
    (expand profile values name).section? axis =
      some (textsSection profile.policy (valueOf values) fields) := by
  apply lookup_of_mem (wellFormed_expand hprofile values name).distinct
  exact List.mem_map.2 ⟨(axis, fields), hmem, by rw [← profileSection_eq]⟩

/-- A blank legacy field for tags stops every tag. -/
theorem excludes_tag_of_legacy (hprofile : profile ∈ Profile.builtin)
    (hfield : LegacyField profile .tag field default) (hblank : Blank (valueOf values field))
    (hbuild : (expand profile (fillLegacy profile values) name).build = .ok rule) (tag : String) :
    rule.excludes (.tag tag) = true := by
  obtain ⟨hdefault, fields, haxis, hname⟩ := hfield
  have hvalue := valueOf_fillLegacy_of_blank hprofile hdefault hblank
  have hdistinct := (wellFormed_expand hprofile (fillLegacy profile values) name).distinct
  apply (excludes_iff_of_build hdistinct hbuild _).2
  refine ⟨.tag, tag, _, .tag tag, section?_expand hprofile haxis, ?_⟩
  show (textsSection profile.policy _ fields).Rejects profile.policy tag
  rcases legacyTag_of_builtin profile hprofile _ haxis _ hdefault rfl hname with
    ⟨hpolicy, hexcludes, hall⟩ | ⟨hpolicy, hincludes, hnone⟩
  · rw [hpolicy]
    apply Section.rejects_of_excludes_all
    dsimp only at hexcludes hall
    rw [textsSection, Section.ofWildcards, hexcludes, Option.bind_some, hvalue, hall]
  · rw [hpolicy]
    apply Section.rejects_of_matchNone
    dsimp only at hincludes hnone
    rw [textsSection, Section.ofRegex, hincludes, hvalue, hnone]

/-- A blank legacy field for destinations lets only requests into one branch through. -/
theorem excludes_request_of_legacy (hprofile : profile ∈ Profile.builtin)
    (hfield : LegacyField profile .prDestination field default)
    (hblank : Blank (valueOf values field))
    (hbuild : (expand profile (fillLegacy profile values) name).build = .ok rule)
    (own origin target : String) :
    rule.excludes (.changeRequest own origin target) = decide (target ≠ "development") := by
  obtain ⟨hdefault, fields, haxis, hname⟩ := hfield
  obtain ⟨hpolicy, hfields, hbranch, horigins⟩ :=
    legacyDestination_of_builtin profile hprofile _ haxis _ hdefault rfl hname
  dsimp only at hfields hbranch
  have hvalue := valueOf_fillLegacy_of_blank hprofile hdefault hblank
  have hdistinct := (wellFormed_expand hprofile (fillLegacy profile values) name).distinct
  have hsection : (expand profile (fillLegacy profile values) name).section? .prDestination =
      some (.ofWildcards (some "development") none) := by
    rw [section?_expand hprofile haxis, hpolicy, hfields, textsSection, hvalue, hbranch]
    rfl
  -- A change request exposes two names, but the profile governs only one of their axes.
  have horigin : (expand profile (fillLegacy profile values) name).section? .prOrigin = none := by
    rw [section?, List.lookup_eq_none_iff]
    intro entry hmem
    obtain ⟨other, hother, rfl⟩ := List.mem_map.1 hmem
    simpa using Ne.symm (horigins other hother)
  have hwildcard : (expand profile (fillLegacy profile values) name).policy = .wildcard := hpolicy
  have hliteral := Section.rejects_literal_iff "development" (by decide) (by decide) (by decide)
    target
  rw [Bool.eq_iff_iff, decide_eq_true_iff, excludes_iff_of_build hdistinct hbuild, ← hliteral,
    hwildcard]
  constructor
  · intro h
    obtain ⟨axis, seen, texts, hexposes, htexts, hrejects⟩ := h
    cases hexposes with
    | origin =>
        rw [horigin] at htexts
        cases htexts
    | target =>
        obtain rfl := Option.some.inj (hsection.symm.trans htexts)
        exact hrejects
  · intro hrejects
    exact ⟨.prDestination, target, _, .target own origin target, hsection, hrejects⟩

theorem exists_legacyTag (hprofile : profile ∈ Profile.builtin)
    (hdefaults : profile.legacyDefaults ≠ []) : ∃ field default,
      LegacyField profile .tag field default := by
  have htags : ∀ profile ∈ Profile.builtin, profile.legacyDefaults ≠ [] →
      ∃ legacy ∈ profile.legacyDefaults, ∃ entry ∈ profile.axes,
        entry.1 = .tag ∧ legacy.1 ∈ entry.2.names := by
    decide +kernel
  obtain ⟨⟨field, default⟩, hmem, ⟨axis, fields⟩, haxis, rfl, hname⟩ :=
    htags profile hprofile hdefaults
  exact ⟨field, default, hmem, fields, haxis, hname⟩

/-! ## Both kinds of defaults -/

/-- The defaults do what they promise to every name. A document of either form whose texts are
absent or blank, and that does not ask for the legacy defaults, has a rule, and the rule excludes no
reference. With the legacy defaults, a rule whose legacy field for tags was blank excludes every
tag, and one whose field `prDestination` was blank excludes exactly the change requests into other
branches than `development`. The expression for blank texts matches every name and the one for
blank legacy texts matches none. -/
theorem defaults_hold_for_every_name :
    (∀ fields : List (String × Json),
      ((∃ profile, FlatForm profile fields ∧ FlatUnset profile fields) ∨
        ∃ policy, SectionForm policy fields ∧ SectionsUnset fields) →
      ∃ config rule, (ofJson (.object fields)).result = .ok config ∧ config.build = .ok rule ∧
        ∀ reference, rule.attempt reference = .ok (rule.decide reference) ∧
          rule.excludes reference = false) ∧
    (∀ profile ∈ Profile.builtin, profile.legacyDefaults ≠ [] →
      (∃ field default, LegacyField profile .tag field default) ∧
      ∀ values name config rule, (ofProfile profile values name true).result = .ok config →
        config.build = .ok rule →
        (∀ reference, rule.attempt reference = .ok (rule.decide reference)) ∧
        (∀ field default, LegacyField profile .tag field default →
          Blank (valueOf values field) → ∀ tag, rule.excludes (.tag tag) = true) ∧
        (∀ default, LegacyField profile .prDestination "prDestination" default →
          Blank (valueOf values "prDestination") → ∀ own origin target,
            rule.excludes (.changeRequest own origin target) =
              decide (target ≠ "development"))) ∧
    (∃ matcher, Matcher.ofRegex "(?s).*" = .ok matcher ∧ ∀ name, matcher.accepts name = true) ∧
    ∃ matcher, Matcher.ofRegex "(?!.*)" = .ok matcher ∧ ∀ name, matcher.accepts name = false := by
  refine ⟨fun fields => exists_rule_of_unset, ?_, ofRegex_matchAll, ofRegex_matchNone⟩
  intro profile hprofile hdefaults
  refine ⟨exists_legacyTag hprofile hdefaults, ?_⟩
  intro values name config rule hread hbuild
  obtain ⟨-, -, hconfig⟩ := ofProfile_eq_ok_iff.1 hread
  rw [if_pos rfl] at hconfig
  subst hconfig
  refine ⟨(compiled_of_build hbuild).attempt, ?_, ?_⟩
  · exact fun field default hfield hblank => excludes_tag_of_legacy hprofile hfield hblank hbuild
  · exact fun default hfield hblank => excludes_request_of_legacy hprofile hfield hblank hbuild

def blankTagFields : List (String × Json) :=
  [("profile", .text "regex_tag"), ("tagRegex", .text " \t")]

def blankSections : List (String × Json) :=
  [("branch", .null), ("tag", .object [("includes", .text " ")])]

theorem unset_blankTagFields :
    ∃ profile, FlatForm profile blankTagFields ∧ FlatUnset profile blankTagFields := by
  refine ⟨Profile.builtin[9], ?_, ?_⟩
  · exact {
      unsectioned := by
        intro axis
        cases axis <;> rfl
      labelled := ⟨"regex_tag", rfl, Profile.find?_of_label (List.getElem_mem _) (by decide)⟩
      named := by
        intro value h
        cases h
      legacy := by
        intro value h
        cases h
      others := by
        rw [blankTagFields, List.forall_mem_cons, List.forall_mem_singleton]
        exact ⟨fun h => absurd (by simp) h, fun _ => ⟨by decide +kernel, Or.inr ⟨_, rfl⟩⟩⟩ }
  · have hnames : Profile.builtin[9].fieldNames = ["tagRegex"] := by decide +kernel
    constructor
    · intro h
      cases h
    · rw [hnames, List.forall_mem_singleton]
      exact blank_some.2 (by decide)

theorem unset_blankSections :
    ∃ policy, SectionForm policy blankSections ∧ SectionsUnset blankSections := by
  have hvalue (axis : Axis) (value : Json) (h : Json.lookup? blankSections axis.name = some value) :
      value = .null ∨ value = .object [("includes", .text " ")] := by
    cases axis <;> cases h
    · exact Or.inl rfl
    · exact Or.inr rfl
  have hsets (axis : Axis) (key text : String) (h : SetsText blankSections axis key text) :
      key = "includes" ∧ text = " " := by
    obtain ⟨value, hlookup, members, rfl, htext⟩ := h
    rcases hvalue axis _ hlookup with hnull | hobject
    · cases hnull
    · obtain rfl := Json.object.inj hobject
      have hmem : (key, Json.text text) = ("includes", .text " ") :=
        List.mem_singleton.1 (mem_of_lookup htext)
      obtain ⟨rfl, rfl⟩ := by simpa using hmem
      exact ⟨rfl, rfl⟩
  refine ⟨.wildcard, ?_, ?_⟩
  · exact {
      known := by
        rw [blankSections, List.forall_mem_cons, List.forall_mem_singleton]
        exact ⟨Or.inr ⟨.branch, rfl⟩, Or.inr ⟨.tag, rfl⟩⟩
      governed := Or.inr ⟨rfl, rfl⟩
      labelled := by
        rw [List.forall_mem_cons, List.forall_mem_singleton]
        constructor
        · intro value h
          cases h
        · intro value h
          cases h
      sectioned := ⟨.tag, _, rfl⟩
      sections := by
        intro axis value h
        rcases hvalue axis value h with rfl | rfl
        · exact Or.inl .null
        · refine Or.inr ⟨_, rfl, ?_⟩
          rw [List.forall_mem_singleton]
          exact ⟨by decide, Or.inr ⟨_, rfl⟩⟩
      fits := by
        intro axis key hkey text h
        obtain ⟨rfl, -⟩ := hsets axis key text h
        revert hkey
        decide }
  · intro axis key text h
    obtain ⟨-, rfl⟩ := hsets axis key text h
    decide

theorem defaults_hold_for_some_names :
    (∃ config rule, (ofJson (.object blankTagFields)).result = .ok config ∧
      config.build = .ok rule ∧ rule.excludes (.tag "a\nb") = false) ∧
    (∃ config rule, (ofJson (.object blankSections)).result = .ok config ∧
      config.build = .ok rule ∧ rule.excludes (.branch "") = false) ∧
    ∃ config rule, (ofProfile headWithRequests spacedValues "" true).result = .ok config ∧
      config.build = .ok rule ∧ rule.excludes (.tag "v1") = true ∧
      rule.excludes (.changeRequest "1" "wip" "main") = true ∧
      rule.excludes (.changeRequest "1" "wip" "development") = false := by
  obtain ⟨hunset, hlegacy, -⟩ := defaults_hold_for_every_name
  refine ⟨?_, ?_, ?_⟩
  · obtain ⟨config, rule, hread, hbuild, hadmits⟩ := hunset _ (Or.inl unset_blankTagFields)
    exact ⟨config, rule, hread, hbuild, (hadmits _).2⟩
  · obtain ⟨config, rule, hread, hbuild, hadmits⟩ := hunset _ (Or.inr unset_blankSections)
    exact ⟨config, rule, hread, hbuild, (hadmits _).2⟩
  · have hprofile : headWithRequests ∈ Profile.builtin := List.getElem_mem _
    have hread : (ofProfile headWithRequests spacedValues "" true).result =
        .ok (expand headWithRequests (fillLegacy headWithRequests spacedValues) "") :=
      ofProfile_eq_ok_iff.2 ⟨by decide +kernel, fun _ => by decide, rfl⟩
    obtain ⟨rule, hbuild⟩ :=
      (exists_build_expand_iff hprofile (fillLegacy headWithRequests spacedValues) "").2
        (by intro h; cases h)
    obtain ⟨-, hrule⟩ := hlegacy headWithRequests hprofile (by decide)
    obtain ⟨-, htags, hrequests⟩ := hrule _ _ _ _ hread hbuild
    have hspaced : Blank (valueOf spacedValues "tagExcludes") := blank_some.2 (by decide +kernel)
    have habsent : Blank (valueOf spacedValues "prDestination") := by
      intro source hsource
      cases hsource
    have htag : LegacyField headWithRequests .tag "tagExcludes" "*" :=
      ⟨by decide, Profile.tagLists, by decide, by decide⟩
    have hdestination :
        LegacyField headWithRequests .prDestination "prDestination" "development" :=
      ⟨by decide, ⟨"prDestination", none⟩, by decide, by decide⟩
    refine ⟨_, rule, hread, hbuild, htags _ _ htag hspaced _, ?_, ?_⟩
    · rw [hrequests _ hdestination habsent]
      decide
    · rw [hrequests _ hdestination habsent]
      decide

end RuleConfig

end RefFilter
