import RefFilter.Proofs.Config.Defaults
import RefFilter.Proofs.Config.Reading

/-! # What a configured rule excludes

Read from a document and built, a rule excludes a reference exactly if the texts of the section of
some axis reject the name that the reference exposes there. The form of the document, the order of
its sections and the defaults for blank texts leave no trace in this.
-/

namespace RefFilter.RuleConfig

theorem excludes_iff_of_build {config : RuleConfig} {rule : Rule}
    (hdistinct : (config.sections.map Prod.fst).Nodup) (hbuild : config.build = .ok rule)
    (reference : Reference) :
    rule.excludes reference = true ↔
      ∃ axis name texts, reference.Exposes axis name ∧ config.section? axis = some texts ∧
        texts.Rejects config.policy name := by
  rw [Rule.excludes_iff]
  constructor
  · intro h
    rcases h with ⟨axis, name, guard, hexposes, hguard, hcause⟩
    obtain ⟨texts, htexts, hcompile⟩ := (guard?_eq_some_iff hdistinct hbuild).1 hguard
    exact ⟨axis, name, texts, hexposes, htexts,
      (Section.cause?_isSome_iff_rejects hcompile name).1 hcause⟩
  · intro h
    rcases h with ⟨axis, name, texts, hexposes, htexts, hrejects⟩
    obtain ⟨guard, hcompile⟩ := exists_guard hdistinct hbuild htexts
    have hguard := (guard?_eq_some_iff hdistinct hbuild).2 ⟨texts, htexts, hcompile⟩
    exact ⟨axis, name, guard, hexposes, hguard,
      (Section.cause?_isSome_iff_rejects hcompile name).2 hrejects⟩

/-- The rule of a document excludes a reference exactly if the reference exposes a name on an axis
of the configuration whose texts reject it. -/
theorem excludes_iff_texts_reject {value : Json} {config : RuleConfig} {rule : Rule}
    (hread : (ofJson value).result = .ok config) (hbuild : config.build = .ok rule)
    (reference : Reference) :
    rule.excludes reference = true ↔
      ∃ axis name texts, reference.Exposes axis name ∧ config.section? axis = some texts ∧
        texts.Rejects config.policy name :=
  excludes_iff_of_build (wellFormed_of_ofJson hread).distinct hbuild reference

def tagsOnly : Json := .object [("tag", .object [("excludes", .text "rc-* *")])]

theorem excludes_tag_of_tagsOnly :
    ∃ config rule, (ofJson tagsOnly).result = .ok config ∧ config.build = .ok rule ∧
      rule.excludes (.tag "v1") = true := by
  let texts : Section := ⟨none, some "rc-* *", none⟩
  let config : RuleConfig := ⟨.wildcard, [(.tag, texts)], "", none⟩
  have hread : (ofJson tagsOnly).result = .ok config := by cbv
  obtain ⟨rule, hbuild⟩ : ∃ rule, config.build = .ok rule := by
    refine exists_build (by decide) rfl ?_
    intro entry _
    exact ⟨_, rfl⟩
  have hglobs : Wildcard.GlobsAny "rc-* *" "v1" :=
    ⟨['*'], by decide, by simp, Wildcard.globs_star_all _⟩
  have hrejects : texts.Rejects config.policy "v1" :=
    Or.inr ⟨"rc-* *", ⟨rfl, by decide⟩, hglobs⟩
  exact ⟨config, rule, hread, hbuild,
    (excludes_iff_texts_reject hread hbuild _).2 ⟨.tag, "v1", texts, .tag _, rfl, hrejects⟩⟩

end RefFilter.RuleConfig
