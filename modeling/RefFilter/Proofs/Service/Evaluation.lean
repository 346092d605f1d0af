import RefFilter.Proofs.Rule.OnUse
import RefFilter.Proofs.Service.Batch

/-! # Requests for decisions

A request for decisions is refused for its shape before the state is looked at, and for the state
before its items are read. An item that describes a reference is rejected for an unknown type or for
a change request without both of its names, and the first such item is reported. Nothing else can go
wrong: what is installed has been built, so its patterns compile wherever they are used.
-/

namespace RefFilter

open Text

/-! ## Rejected items -/

theorem Category.parse_eq_error {text : String} {failure : Failure}
    (h : parse text = .error failure) : failure = .unknownCategory (toLower (trim text)) := by
  unfold parse at h
  dsimp only at h
  split at h
  · cases h
  · unfold ofName at h
    split at h
    · cases h
    · exact (Except.error.inj h).symm

/-- An item that describes a reference is rejected, with the detail of the report: its type is no
spelling of a category, or it is a change request whose origin or target is absent or null. -/
inductive Rejected : Json → String → Prop where
  | unknownType {fields : List (String × Json)} {type : String}
      (htype : Json.lookup? fields "type" = some (.text type))
      (hunknown : ∀ category, Category.parse type ≠ .ok category) :
      Rejected (.object fields)
        (quote (toLower (trim type)) ++ " is not a valid ReferenceCategory")
  | missingName {fields : List (String × Json)} {type name key : String}
      (htype : Json.lookup? fields "type" = some (.text type))
      (hcategory : Category.parse type = .ok .changeRequest)
      (hname : Json.lookup? fields "name" = some (.text name))
      (hkey : key ∈ ["origin", "target"])
      (hmissing : Json.lookup? fields key = none ∨ Json.lookup? fields key = some .null) :
      Rejected (.object fields)
        ("Change request " ++ quote name ++ " needs both an origin and a target name")

section Reading

variable {fields : List (String × Json)} {name type : String}

theorem Reference.ofJson_untyped (hname : Json.lookup? fields "name" = some (.text name))
    (htype : Json.lookup? fields "type" = none) : ofJson (.object fields) = .ok (.branch name) := by
  simp [ofJson, ReferenceFields.ofJson, ReferenceFields.reference, ReferenceFields.category,
    ReferenceFields.textField, hname, htype, make, bind, Except.bind]

theorem Reference.ofJson_of_parse_error (htype : Json.lookup? fields "type" = some (.text type))
    {failure : Failure} (hparse : Category.parse type = .error failure) :
    ofJson (.object fields) = .error failure := by
  simp [ofJson, ReferenceFields.ofJson, ReferenceFields.reference, ReferenceFields.category,
    htype, hparse, bind, Except.bind]

theorem Reference.ofJson_of_parse_ok (hname : Json.lookup? fields "name" = some (.text name))
    (htype : Json.lookup? fields "type" = some (.text type)) {category : Category}
    (hparse : Category.parse type = .ok category) (hother : category ≠ .changeRequest) :
    ofJson (.object fields) = make name category none none := by
  cases category with
  | changeRequest => exact absurd rfl hother
  | _ =>
      simp [ofJson, ReferenceFields.ofJson, ReferenceFields.reference, ReferenceFields.category,
        ReferenceFields.textField, hname, htype, hparse, bind, Except.bind]

theorem Reference.ofJson_changeRequest (hname : Json.lookup? fields "name" = some (.text name))
    (htype : Json.lookup? fields "type" = some (.text type))
    (hparse : Category.parse type = .ok .changeRequest) :
    ofJson (.object fields) =
      make name .changeRequest (ReferenceFields.textField fields "origin")
        (ReferenceFields.textField fields "target") := by
  simp [ofJson, ReferenceFields.ofJson, ReferenceFields.reference, ReferenceFields.category,
    ReferenceFields.textField, hname, htype, hparse, bind, Except.bind]

theorem Reference.make_changeRequest_eq_error_iff {origin target : Option String}
    {failure : Failure} :
    make name .changeRequest origin target = .error failure ↔
      (origin = none ∨ target = none) ∧ failure = .changeRequestNames name := by
  cases origin <;> cases target <;> simp [make, eq_comm]

theorem ReferenceFields.textField_eq_none_iff {key : String}
    (h : ∀ value, Json.lookup? fields key = some value →
      value = .null ∨ ∃ text, value = .text text) :
    textField fields key = none ↔
      Json.lookup? fields key = none ∨ Json.lookup? fields key = some .null := by
  unfold textField
  cases hlookup : Json.lookup? fields key with
  | none => simp
  | some value =>
      rcases h value hlookup with rfl | ⟨text, rfl⟩
      · simp
      · simp

end Reading

def IsRejected (item : Json) : Prop := ∃ detail, Rejected item detail

namespace Service

/-- An item that describes a reference is rejected exactly if it cannot be read, with the message
of the failure. -/
theorem rejected_iff {item : Json} {detail : String} (h : DescribesReference item) :
    Rejected item detail ↔
      ∃ failure, Reference.ofJson item = .error failure ∧ failure.message = detail := by
  obtain ⟨fields, rfl, ⟨name, hname⟩, htype, hnames⟩ := h
  have hnone (key : String) (hkey : key ∈ ["origin", "target"]) :=
    ReferenceFields.textField_eq_none_iff (hnames key hkey)
  constructor
  · intro hrejected
    cases hrejected with
    | @unknownType _ type htype hunknown =>
        cases hparse : Category.parse type with
        | ok category => exact absurd hparse (hunknown category)
        | error failure =>
            obtain rfl := Category.parse_eq_error hparse
            exact ⟨_, Reference.ofJson_of_parse_error htype hparse, rfl⟩
    | @missingName _ type other key htype hcategory hother hkey hmissing =>
        refine ⟨.changeRequestNames other, ?_, rfl⟩
        rw [Reference.ofJson_changeRequest hother htype hcategory]
        refine Reference.make_changeRequest_eq_error_iff.2 ⟨?_, rfl⟩
        have hkeyNone := (hnone key hkey).2 hmissing
        simp only [List.mem_cons, List.not_mem_nil, or_false] at hkey
        rcases hkey with rfl | rfl
        · exact Or.inl hkeyNone
        · exact Or.inr hkeyNone
  · intro hfails
    obtain ⟨failure, hfailure, rfl⟩ := hfails
    cases hlookup : Json.lookup? fields "type" with
    | none =>
        -- Without a type it is a branch, whatever its origin and its target are.
        rw [Reference.ofJson_untyped hname hlookup] at hfailure
        cases hfailure
    | some value =>
        obtain ⟨type, rfl⟩ := htype value hlookup
        cases hparse : Category.parse type with
        | error cause =>
            rw [Reference.ofJson_of_parse_error hlookup hparse] at hfailure
            obtain rfl : cause = failure := Except.error.inj hfailure
            obtain rfl := Category.parse_eq_error hparse
            refine .unknownType hlookup ?_
            intro category hcategory
            rw [hparse] at hcategory
            cases hcategory
        | ok category =>
            cases category with
            | changeRequest =>
                rw [Reference.ofJson_changeRequest hname hlookup hparse] at hfailure
                obtain ⟨hmissing, rfl⟩ := Reference.make_changeRequest_eq_error_iff.1 hfailure
                rcases hmissing with horigin | htarget
                · have hkey : "origin" ∈ ["origin", "target"] := by simp
                  exact .missingName hlookup hparse hname hkey ((hnone _ hkey).1 horigin)
                · have hkey : "target" ∈ ["origin", "target"] := by simp
                  exact .missingName hlookup hparse hname hkey ((hnone _ hkey).1 htarget)
            | _ =>
                rw [Reference.ofJson_of_parse_ok hname hlookup hparse (by decide)] at hfailure
                cases hfailure

theorem isRejected_iff {item : Json} (h : DescribesReference item) :
    IsRejected item ↔ FailsOn Reference.ofJson item := by
  constructor
  · intro hrejected
    obtain ⟨detail, hdetail⟩ := hrejected
    obtain ⟨failure, hfailure, -⟩ := (rejected_iff h).1 hdetail
    exact ⟨failure, hfailure⟩
  · intro hfails
    obtain ⟨failure, hfailure⟩ := hfails
    exact ⟨failure.message, (rejected_iff h).2 ⟨failure, hfailure, rfl⟩⟩

end Service

/-! ## Installed rules -/

theorem FilterSetConfig.compiled_of_build {config : FilterSetConfig} {filters : FilterSet}
    (h : config.build = .ok filters) : ∀ rule ∈ filters.rules, rule.Compiled := by
  obtain ⟨configs⟩ := config
  obtain ⟨rules, hrules, rfl⟩ := map_eq_ok_iff.1 h
  have hbuilt := buildRules_eq_ok_iff.1 hrules
  clear h hrules
  dsimp only at hbuilt ⊢
  induction hbuilt with
  | nil => simp
  | cons hrule _ ih => exact List.forall_mem_cons.2 ⟨RuleConfig.compiled_of_build hrule, ih⟩

/-! ## Answers -/

namespace Service

@[simp] theorem Reply.status_okay (answer : Json) : (okay answer).status = 200 := rfl

@[simp] theorem Reply.status_detail (status : Nat) (text : String) :
    (detail status text).status = status := rfl

namespace State

section Answer

variable {state : State} {filters : FilterSet} {body : Option Json} {items : List Json}

theorem evaluate_of_rejected (hitems : Carries body items) (hfilters : state.filters = some filters)
    {place : Nat} {item : Json} {detail : String} (hfirst : FirstAt IsRejected items place item)
    (hrejected : Rejected item detail) :
    state.evaluate body = (.detail 400 detail, []) := by
  obtain ⟨failure, hfailure, rfl⟩ := (rejected_iff (hitems.describes item hfirst.mem)).1 hrejected
  have hread : items.mapM Reference.ofJson = .error failure :=
    mapM_eq_error_iff.2 ⟨place, item,
      hfirst.congr fun other hmem => isRejected_iff (hitems.describes other hmem), hfailure⟩
  rw [evaluate_of_carries hitems, hfilters, hread]

theorem evaluate_of_accepted (hitems : Carries body items) (hfilters : state.filters = some filters)
    (haccepted : ∀ item ∈ items, ¬ IsRejected item) :
    ∃ answer, (state.evaluate body).1 = .okay answer := by
  rw [evaluate_of_carries hitems, hfilters]
  cases hread : items.mapM Reference.ofJson with
  | ok references => exact ⟨_, rfl⟩
  | error failure =>
      obtain ⟨place, item, hfirst, hfailure⟩ := mapM_eq_error_iff.1 hread
      have hrejected := (isRejected_iff (hitems.describes item hfirst.mem)).2 ⟨failure, hfailure⟩
      exact absurd hrejected (haccepted item hfirst.mem)

/-- Items that describe references are answered for the state first, then for the first of them
that is rejected. -/
theorem answer_of_carries (hitems : Carries body items) (state : State) :
    state.filters = none ∧
        (state.evaluate body).1 = .detail 409 "No filter set configured" ∨
      state.filters ≠ none ∧ (∃ item ∈ items, IsRejected item) ∧
        (∃ detail, (state.evaluate body).1 = .detail 400 detail) ∨
      state.filters ≠ none ∧ (∀ item ∈ items, ¬ IsRejected item) ∧
        ∃ answer, (state.evaluate body).1 = .okay answer := by
  cases hfilters : state.filters with
  | none =>
      refine Or.inl ⟨rfl, ?_⟩
      rw [evaluate_of_carries hitems, hfilters]
  | some filters =>
      have hinstalled : some filters ≠ none := Option.some_ne_none filters
      by_cases hrejected : ∃ item ∈ items, IsRejected item
      · obtain ⟨item, hmem, hitem⟩ := hrejected
        obtain ⟨place, first, hfirst⟩ := exists_firstAt hmem hitem
        obtain ⟨detail, hdetail⟩ := hfirst.holds
        have hanswer := evaluate_of_rejected hitems hfilters hfirst hdetail
        exact Or.inr (Or.inl ⟨hinstalled, ⟨item, hmem, hitem⟩, detail, congrArg Prod.fst hanswer⟩)
      · have haccepted : ∀ item ∈ items, ¬ IsRejected item := by
          intro item hmem hitem
          exact hrejected ⟨item, hmem, hitem⟩
        exact Or.inr (Or.inr ⟨hinstalled, haccepted,
          evaluate_of_accepted hitems hfilters haccepted⟩)

theorem Coherent.attempt (h : state.Coherent) (hfilters : state.filters = some filters)
    (reference : Reference) : filters.attempt reference = .ok (filters.decide reference) := by
  refine FilterSet.attempt_of_compiled ?_ reference
  rcases h with hnone | ⟨config, built, hinstalled, hbuild⟩
  · have hnot : state.filters = none := congrArg Prod.snd hnone
    rw [hfilters] at hnot
    cases hnot
  · obtain rfl : built = filters :=
      Option.some.inj ((congrArg Prod.snd hinstalled).symm.trans hfilters)
    exact FilterSetConfig.compiled_of_build hbuild

end Answer

/-- Whatever the steps before, a request for decisions is answered with 422 exactly if its body has
no items that describe references; otherwise with 409 exactly if nothing is installed; otherwise
with 400 exactly if some item is rejected, and then with the detail of the first one; and otherwise
with 200. It is never answered with 500: from what is installed, no pattern fails to compile where
it is used and no reference is asked for a name that it does not have. -/
theorem evaluate_never_fails (steps : List Step) (body : Option Json) :
    let state := (clean.run steps).1
    let reply := (state.respond ⟨"POST", evaluatePath, body⟩).2.1
    (reply.status = 422 ↔ ¬ ∃ items, Carries body items) ∧
    (∀ items, Carries body items →
      (reply.status = 409 ↔ state.filters = none) ∧
      (reply.status = 400 ↔ state.filters ≠ none ∧ ∃ item ∈ items, IsRejected item) ∧
      (reply.status = 200 ↔ state.filters ≠ none ∧ ∀ item ∈ items, ¬ IsRejected item) ∧
      ∀ place item detail, state.filters ≠ none → FirstAt IsRejected items place item →
        Rejected item detail → reply = .detail 400 detail) ∧
    reply.status ≠ 500 ∧
    ∀ filters, state.filters = some filters →
      ∀ reference, filters.attempt reference = .ok (filters.decide reference) := by
  intro state reply
  have hreply : reply = (state.evaluate body).1 := rfl
  have hcarried : ∀ items, Carries body items →
      (reply.status = 409 ↔ state.filters = none) ∧
      (reply.status = 400 ↔ state.filters ≠ none ∧ ∃ item ∈ items, IsRejected item) ∧
      (reply.status = 200 ↔ state.filters ≠ none ∧ ∀ item ∈ items, ¬ IsRejected item) ∧
      (reply.status = 409 ∨ reply.status = 400 ∨ reply.status = 200) := by
    intro items hitems
    rw [hreply]
    rcases answer_of_carries hitems state with
      ⟨hfilters, h⟩ | ⟨hfilters, hitem, detail, h⟩ | ⟨hfilters, hitem, answer, h⟩
    · simp [h, hfilters]
    · simpa [h, hfilters] using hitem
    · simpa [h, hfilters] using hitem
  have hrefused (hnot : ¬ ∃ items, Carries body items) : reply.status = 422 := by
    obtain ⟨errors, hrefused⟩ := evaluate_of_not_carries hnot state
    rw [hreply, hrefused]
    rfl
  refine ⟨⟨?_, hrefused⟩, ?_, ?_, ?_⟩
  · intro hstatus hcarries
    obtain ⟨items, hitems⟩ := hcarries
    obtain ⟨-, -, -, hothers⟩ := hcarried items hitems
    omega
  · intro items hitems
    obtain ⟨hmissing, hrejected, haccepted, -⟩ := hcarried items hitems
    refine ⟨hmissing, hrejected, haccepted, ?_⟩
    intro place item detail hinstalled hfirst hdetail
    obtain ⟨filters, hfilters⟩ := Option.ne_none_iff_exists'.1 hinstalled
    exact congrArg Prod.fst (evaluate_of_rejected hitems hfilters hfirst hdetail)
  · by_cases hcarries : ∃ items, Carries body items
    · obtain ⟨items, hitems⟩ := hcarries
      obtain ⟨-, -, -, hothers⟩ := hcarried items hitems
      omega
    · have hstatus := hrefused hcarries
      omega
  · intro filters hfilters
    exact (coherent_run steps).attempt hfilters

def halfChangeRequest : List Json :=
  [.object [("name", .text "v1"), ("type", .text " TAG ")],
    .object [("name", .text "7"), ("type", .text "pr"), ("origin", .text "fix"), ("target", .null)]]

theorem halfChangeRequest_is_rejected :
    let state := (clean.run [.request ⟨"PUT", filtersPath, some flatRules⟩]).1
    let body := Json.object [("references", .list halfChangeRequest)]
    (state.respond ⟨"POST", evaluatePath, some body⟩).2.1 =
      .detail 400 "Change request '7' needs both an origin and a target name" := by
  intro state body
  have hstate : state = (clean.putFilters (some flatRules)).1 := rfl
  have hinstalled : state.filters ≠ none := by
    rw [hstate, filters_flatRules]
    exact Option.some_ne_none _
  have hitems : Carries (some body) halfChangeRequest := by
    refine ⟨_, rfl, rfl, ?_⟩
    intro item hmem
    simp only [halfChangeRequest, List.mem_cons, List.not_mem_nil, or_false] at hmem
    rcases hmem with rfl | rfl
    · exact describes_of_referenceItem (rfl : referenceItem [] _ = .ok _)
    · exact describes_of_referenceItem (rfl : referenceItem [] _ = .ok _)
  have htag : ¬ IsRejected (.object [("name", .text "v1"), ("type", .text " TAG ")]) := by
    rw [isRejected_iff (hitems.describes _ List.mem_cons_self)]
    intro hfails
    obtain ⟨failure, hfailure⟩ := hfails
    cases hfailure
  have htarget : "target" ∈ ["origin", "target"] := by simp
  have hrejected : Rejected (.object [("name", .text "7"), ("type", .text "pr"),
      ("origin", .text "fix"), ("target", .null)])
      ("Change request " ++ quote "7" ++ " needs both an origin and a target name") :=
    .missingName rfl rfl rfl htarget (Or.inr rfl)
  have hdetail : "Change request " ++ quote "7" ++ " needs both an origin and a target name" =
      "Change request '7' needs both an origin and a target name" := by decide +kernel
  obtain ⟨-, hcarried, -⟩ :=
    evaluate_never_fails [.request ⟨"PUT", filtersPath, some flatRules⟩] (some body)
  obtain ⟨-, -, -, hfirst⟩ := hcarried halfChangeRequest hitems
  rw [← hdetail]
  exact hfirst 1 _ _ hinstalled (.tail htag (.head ⟨_, hrejected⟩)) hrejected

end State

end Service

end RefFilter
