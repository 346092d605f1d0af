import RefFilter.Proofs.Config.Document
import RefFilter.Proofs.Json.Indented
import RefFilter.Proofs.Text.Utf8

/-! # Saving and loading configurations

The document of a configuration is made of texts, lists and objects in which no name comes twice,
so it is read back from the text that is saved. That text is ASCII and its lines end in single
newlines, so the bytes of the file are read as it was written. What is loaded is the configuration
that was saved, up to the order of the sections of its rules.
-/

namespace RefFilter

open Json Text

/-! ## Documents of configurations -/

theorem Section.textual_textField (name : String) (text : Option String) :
    ∀ field ∈ textField name text, Textual field.2 := by
  intro field hfield
  cases text with
  | none => simp [textField] at hfield
  | some text =>
      obtain rfl : field = (name, .text text) := by simpa [textField] using hfield
      exact .text text

theorem Section.textual_toJson (texts : Section) : Textual texts.toJson := by
  refine .object ?_ ?_
  · rcases texts with ⟨_ | includes, _ | excludes, _ | regex⟩ <;> simp [textField]
  · rw [List.forall_mem_append, List.forall_mem_append]
    exact ⟨⟨textual_textField _ _, textual_textField _ _⟩, textual_textField _ _⟩

namespace RuleConfig

theorem names_ordered (config : RuleConfig) :
    config.ordered.sections.map Prod.fst =
      Axis.all.filter fun axis => (config.section? axis).isSome := by
  have haxes (axes : List Axis) :
      (axes.filterMap fun axis => (config.section? axis).map (axis, ·)).map Prod.fst =
        axes.filter fun axis => (config.section? axis).isSome := by
    induction axes with
    | nil => rfl
    | cons axis rest ih =>
        cases hsection : config.section? axis with
        | none =>
            rw [List.filterMap_cons_none (by rw [hsection]; rfl), ih,
              List.filter_cons_of_neg (by simp [hsection])]
        | some texts =>
            rw [List.filterMap_cons_some (by rw [hsection]; rfl), List.map_cons, ih,
              List.filter_cons_of_pos (by simp [hsection])]
  exact haxes Axis.all

/-- No name comes twice in the document of a configuration: those of axes are none of the others. -/
theorem distinct_documentFields (config : RuleConfig) :
    (config.documentFields.map Prod.fst).Nodup := by
  have hsections : (config.ordered.sections.map fun entry => (entry.1.name, entry.2.toJson)).map
      Prod.fst = (Axis.all.filter fun axis => (config.section? axis).isSome).map Axis.name := by
    rw [← names_ordered, List.map_map, List.map_map]
    rfl
  have hprofile : ((Section.textField "profile" config.profile).map Prod.fst).Sublist
      ["profile"] := by
    cases config.profile with
    | none => exact List.nil_sublist _
    | some profile => exact List.Sublist.refl _
  have hall : ("name" :: "policy" :: (["profile"] ++ Axis.all.map Axis.name)).Nodup := by decide
  refine List.Nodup.sublist ?_ hall
  rw [documentFields, List.map_cons, List.map_cons, List.map_append, hsections]
  refine List.Sublist.cons_cons _ (List.Sublist.cons_cons _ (hprofile.append ?_))
  exact List.filter_sublist.map _

theorem textual_toJson (config : RuleConfig) : Textual config.toJson := by
  rw [toJson_eq]
  refine .object (distinct_documentFields config) ?_
  rw [documentFields, List.forall_mem_cons, List.forall_mem_cons, List.forall_mem_append]
  refine ⟨.text _, .text _, Section.textual_textField _ _, ?_⟩
  intro field hfield
  obtain ⟨entry, -, rfl⟩ := List.mem_map.1 hfield
  exact entry.2.textual_toJson

end RuleConfig

namespace FilterSetConfig

variable {config other : FilterSetConfig}

theorem textual_toJson (config : FilterSetConfig) : Textual config.toJson := by
  refine .object (by simp) (List.forall_mem_singleton.2 (.list ?_))
  intro document hdocument
  obtain ⟨rule, -, rfl⟩ := List.mem_map.1 hdocument
  exact rule.textual_toJson

theorem wellFormed_of_ofJson {value : Json} (h : (ofJson value).result = .ok config) :
    ∀ rule ∈ config.rules, rule.WellFormed := by
  unfold ofJson at h
  split at h
  · split at h
    · obtain rfl := Except.ok.inj h
      simp
    · rw [Traced.result_bind_eq_ok_iff] at h
      obtain ⟨rules, hrules, h⟩ := h
      obtain rfl := Except.ok.inj h
      exact wellFormed_of_readRules hrules
    · cases h
  · cases h

/-! ## Files -/

def SameAs (config other : FilterSetConfig) : Prop :=
  List.Forall₂ RuleConfig.SameAs config.rules other.rules

def reread (config : FilterSetConfig) : FilterSetConfig := ⟨config.rules.map RuleConfig.reread⟩

theorem reread_sameAs (config : FilterSetConfig) : config.reread.SameAs config := by
  rw [SameAs, reread, List.forall₂_map_left_iff, List.forall₂_same]
  intro rule _
  exact rule.reread_sameAs

theorem ofJson_toJson (h : ∀ rule ∈ config.rules, rule.WellFormed) :
    ofJson config.toJson = ⟨.ok config.reread, []⟩ := by
  rw [toJson, ofJson_rules, readRules_documents h]
  rfl

theorem isWritten_save (config : FilterSetConfig) : ∀ c ∈ config.save.toList, IsWritten c := by
  rw [save, writeIndented, String.toList_ofList]
  exact config.textual_toJson.isWritten 0

theorem readDocument_save (config : FilterSetConfig) (path : String) :
    readDocument path (some config.save.toUTF8.toList) = .ok config.toJson := by
  have hreturn : '\r' ∉ config.save.toList := by
    intro hmem
    exact absurd (config.isWritten_save _ hmem) (by decide)
  have hread : readChars config.save.toList = .ok config.toJson :=
    readChars_writeIndented config.textual_toJson
  simp only [readDocument, readFileText_toUTF8 hreturn, parseDocument, hread]

/-- The file of a configuration that was read holds ASCII only, and loading it gives the same
configuration without a note. -/
theorem load_save {value : Json} (hread : (ofJson value).result = .ok config) (path : String) :
    (∀ c ∈ config.save.toList, c.toNat < 0x80) ∧
    ∃ back, load path (some config.save.toUTF8.toList) = ⟨.ok back, []⟩ ∧ back.SameAs config := by
  constructor
  · intro c hc
    rcases config.isWritten_save c hc with rfl | hprintable
    · decide
    · omega
  · have hdocument : (liftM (readDocument path (some config.save.toUTF8.toList)) :
        Traced Json).result = .ok config.toJson := readDocument_save config path
    refine ⟨config.reread, ?_, config.reread_sameAs⟩
    rw [load, Traced.bind_of_ok hdocument, ofJson_toJson (wellFormed_of_ofJson hread)]
    rfl

/-- Rules in both forms, with texts that have to be escaped in every way. -/
def hostileDocument : Json :=
  .object [("rules", .list [
    .object [("name", .text "\"\\\r\n\t\x00\x7f\u00e9\uFFFF😀"), ("policy", .text "regex"),
      ("tag", .object [("regex", .text "a\r\nb\x08\x0C")]), ("branch", .null)],
    .object [("profile", .text "wildcard_tag"), ("tagExcludes", .text "😀* \u2028")]])]

theorem load_save_hostileDocument :
    ∃ config, (ofJson hostileDocument).result = .ok config ∧
      (∀ c ∈ config.save.toList, c.toNat < 0x80) ∧
      ∃ back, load "filters.json" (some config.save.toUTF8.toList) = ⟨.ok back, []⟩ ∧
        back.SameAs config := by
  have hread : (ofJson hostileDocument).result = .ok
      ⟨[⟨.regex, [(.branch, ⟨none, none, none⟩), (.tag, ⟨none, none, some "a\r\nb\x08\x0C"⟩)],
          "\"\\\r\n\t\x00\x7f\u00e9\uFFFF😀", none⟩,
        ⟨.wildcard, [(.tag, ⟨none, some "😀* \u2028", none⟩)], "", some "wildcard_tag"⟩]⟩ := by
    cbv
  exact ⟨_, hread, load_save hread "filters.json"⟩

end FilterSetConfig

end RefFilter
