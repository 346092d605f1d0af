import RefFilter.Proofs.Config.Document
import RefFilter.Proofs.Service.Bodies
import RefFilter.Proofs.Service.Installed

/-! # Installing what the service shows

The answer to a successful installation shows the configuration in one form, whatever the form it
was sent in. Sent back, it is installed again with the same answer and without any note on
defaults, and every request for decisions is answered as before.
-/

namespace RefFilter.Service

/-! ## Bodies -/

theorem rulesBody_document (config : FilterSetConfig) :
    rulesBody (some config.toJson) = .ok (config.rules.map RuleConfig.toJson) := by
  refine rulesBody_of_objects rfl ?_
  intro item hmem
  obtain ⟨rule, -, rfl⟩ := List.mem_map.1 hmem
  exact ⟨_, rfl⟩

namespace State

/-! ## Requests to install -/

theorem putFilters_of_build {body : Option Json} {rules : List Json} {configs : List RuleConfig}
    {filters : FilterSet} (hbody : rulesBody body = .ok rules)
    (hread : (FilterSetConfig.readRules rules).result = .ok configs)
    (hbuild : FilterSetConfig.build ⟨configs⟩ = .ok filters) (state : State) :
    state.putFilters body =
      ({ state with config := some ⟨configs⟩, filters := some filters },
        filtersReply ⟨configs⟩ filters,
        (FilterSetConfig.readRules rules).events ++ [.installed filters.rules.length]) := by
  have hconfig : (FilterSetConfig.ofJson (.object [("rules", .list rules)])).result =
      .ok ⟨configs⟩ := by
    rw [FilterSetConfig.ofJson_rules, hread]
    rfl
  simp only [putFilters, hbody, installRead_of_build hconfig hbuild]
  rw [FilterSetConfig.ofJson_rules]

/-- A request to install is answered with 200 only if its rules are read and built. -/
theorem build_of_putFilters {state : State} {body : Option Json} {reply : Json}
    (h : (state.putFilters body).2.1 = .answer 200 reply) :
    ∃ rules configs filters, rulesBody body = .ok rules ∧
      (FilterSetConfig.readRules rules).result = .ok configs ∧
      FilterSetConfig.build ⟨configs⟩ = .ok filters := by
  cases hbody : rulesBody body with
  | error errors =>
      rw [putFilters, hbody] at h
      cases h
  | ok rules =>
      rcases installRead_cases (FilterSetConfig.ofJson (.object [("rules", .list rules)])) with
        ⟨config, filters, hread, hbuild⟩ | ⟨failure, events, hinstall⟩
      · rw [FilterSetConfig.ofJson_rules] at hread
        obtain ⟨configs, hconfigs, rfl⟩ := map_eq_ok_iff.1 hread
        exact ⟨rules, configs, filters, rfl, hconfigs, hbuild⟩
      · simp only [putFilters, hbody, hinstall] at h
        cases failure <;> cases h

theorem evaluate_of_decide {state other : State} {filters filters' : FilterSet}
    (hstate : state.filters = some filters) (hother : other.filters = some filters')
    (hdecide : filters.decide = filters'.decide) (body : Option Json) :
    state.evaluate body = other.evaluate body := by
  simp only [evaluate, hstate, hother, FilterSet.filterBy_of_decide hdecide]

/-! ## Installing again -/

/-- The document that a successful request to install is answered with can itself be installed: the
answer is the same, nothing is noted but the installation, and all requests for decisions are
answered as they were. And what is read from the document of a configuration that was read is that
configuration, as a map from axes to sections. -/
theorem installing_again_changes_nothing :
    (∀ (state : State) (body : Option Json) (reply : Json),
      (state.respond ⟨"PUT", filtersPath, body⟩).2.1 = .answer 200 reply →
      ∃ (count : Nat) (document : Json),
        reply = .object [("rule_count", .int count), ("config", document)] ∧
        let first := (state.respond ⟨"PUT", filtersPath, body⟩).1
        let again := first.respond ⟨"PUT", filtersPath, some document⟩
        again.2 = (.answer 200 reply, [.installed count]) ∧
        ∀ batch, (again.1.respond ⟨"POST", evaluatePath, batch⟩).2 =
          (first.respond ⟨"POST", evaluatePath, batch⟩).2) ∧
    ∀ (value : Json) (config : RuleConfig), (RuleConfig.ofJson value).result = .ok config →
      ∃ back, RuleConfig.ofJson config.toJson = ⟨.ok back, []⟩ ∧ back.SameAs config := by
  constructor
  · intro state body reply hput
    have hrespond (state : State) (body : Option Json) :
        state.respond ⟨"PUT", filtersPath, body⟩ = state.putFilters body := rfl
    simp only [hrespond] at hput ⊢
    obtain ⟨rules, configs, filters, hbody, hread, hbuild⟩ := build_of_putFilters hput
    have hwell := FilterSetConfig.wellFormed_of_readRules hread
    obtain ⟨built, hbuilt, rfl⟩ := map_eq_ok_iff.1 hbuild
    obtain ⟨same, hsame, hagrees⟩ := FilterSetConfig.buildRules_reread hwell hbuilt
    have hfirst := putFilters_of_build hbody hread hbuild
    -- Sent back, the document has the rules of the first one, read and built again.
    have hagain := putFilters_of_build (rulesBody_document ⟨configs⟩)
      (congrArg Traced.result (FilterSetConfig.readRules_documents hwell))
      (map_eq_ok_iff.2 ⟨same, hsame, rfl⟩)
    have hcount : same.length = built.length := hagrees.length_eq.symm
    rw [hfirst] at hput
    injection hput with _ hreply
    subst hreply
    refine ⟨built.length, FilterSetConfig.toJson ⟨configs⟩, rfl, ?_, ?_⟩
    · rw [hagain, FilterSetConfig.readRules_documents hwell]
      simp only [filtersReply, hcount, FilterSetConfig.toJson_reread]
      rfl
    · intro batch
      have hdecide : FilterSet.decide ⟨same⟩ = FilterSet.decide ⟨built⟩ :=
        (FilterSet.decide_of_agrees hagrees).symm
      have hevaluate (state : State) :
          (state.respond ⟨"POST", evaluatePath, batch⟩).2 = state.evaluate batch := rfl
      rw [hevaluate, hevaluate, hagain, hfirst]
      refine evaluate_of_decide ?_ ?_ hdecide batch
      · rfl
      · rfl
  · intro value config hread
    have hback := RuleConfig.ofJson_toJson (RuleConfig.wellFormed_of_ofJson hread)
    exact ⟨config.reread, hback, config.reread_sameAs⟩

def flatRule : Json :=
  .object [("profile", .text "wildcard_tag"), ("tagIncludes", .null), ("tagExcludes", .text "rc-*")]

theorem installing_flatRule_again :
    ∃ reply document : Json,
      let body : Json := .object [("rules", .list [flatRule])]
      let first := clean.respond ⟨"PUT", filtersPath, some body⟩
      first.2.1 = .answer 200 reply ∧
        (first.1.respond ⟨"PUT", filtersPath, some document⟩).2.1 = .answer 200 reply := by
  let config : RuleConfig :=
    ⟨.wildcard, [(.tag, ⟨none, some "rc-*", none⟩)], "", some "wildcard_tag"⟩
  have hread : (FilterSetConfig.readRules [flatRule]).result = .ok [config] := by cbv
  obtain ⟨rule, hrule⟩ : ∃ rule, config.build = .ok rule := by
    refine RuleConfig.exists_build (by decide) rfl ?_
    intro entry _
    exact ⟨_, rfl⟩
  have hbuild : FilterSetConfig.build ⟨[config]⟩ = .ok ⟨[rule]⟩ := by
    rw [FilterSetConfig.build, FilterSetConfig.buildRules_eq_ok_iff.2 (.cons hrule .nil)]
    rfl
  have hbody : rulesBody (some (.object [("rules", .list [flatRule])])) = .ok [flatRule] := rfl
  have hfirst := congrArg (·.2.1) (putFilters_of_build hbody hread hbuild clean)
  obtain ⟨count, document, -, hagain, -⟩ := installing_again_changes_nothing.1 clean _ _ hfirst
  exact ⟨_, document, hfirst, congrArg Prod.fst hagain⟩

end State

end RefFilter.Service
