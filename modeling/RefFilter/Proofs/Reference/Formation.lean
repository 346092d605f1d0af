import RefFilter.Proofs.Service.Evaluation

/-! # References that can be formed

A reference is formed from its parts if they suit its category: a change request has an origin and
a target, either of which may be empty, and no other reference has any of the two. A document is
read as one unless its type is unknown or a change request lacks a name. Whatever is formed can be
asked for the names that its category exposes, and it is read back from its document.
-/

namespace RefFilter

open Service

def Category.axes : Category → List Axis
  | .branch => [.branch]
  | .tag => [.tag]
  | .changeRequest => [.prOrigin, .prDestination]

/-- The names that a reference comes with, besides its own, suit its category. -/
def Category.Suits (category : Category) (origin target : Option String) : Prop :=
  match category with
  | .changeRequest => origin.isSome = true ∧ target.isSome = true
  | _ => origin = none ∧ target = none

inductive Failure.RefusesReference : Failure → Prop where
  | unknownCategory (text : String) : RefusesReference (.unknownCategory text)
  | changeRequestNames (name : String) : RefusesReference (.changeRequestNames name)
  | namesOnOther (category : String) : RefusesReference (.namesOnOther category)

namespace Reference

variable {name : String} {category : Category} {origin target : Option String}
  {reference : Reference}

/-! ## Parts -/

structure HasParts (reference : Reference) (name : String) (category : Category)
    (origin target : Option String) : Prop where
  name : reference.name = name
  category : reference.category = category
  origin : reference.origin.toOption = origin
  target : reference.target.toOption = target

theorem suits_of_hasParts (h : reference.HasParts name category origin target) :
    category.Suits origin target := by
  obtain ⟨-, rfl, rfl, rfl⟩ := h
  cases reference with
  | branch own => exact ⟨rfl, rfl⟩
  | tag own => exact ⟨rfl, rfl⟩
  | changeRequest own origin target => exact ⟨rfl, rfl⟩

/-- A reference is made of its own parts and of no others. -/
theorem make_eq_ok_iff :
    make name category origin target = .ok reference ↔
      reference.HasParts name category origin target := by
  constructor
  · intro h
    unfold make at h
    split at h <;> cases h <;> exact ⟨rfl, rfl, rfl, rfl⟩
  · intro h
    obtain ⟨rfl, rfl, rfl, rfl⟩ := h
    cases reference <;> rfl

theorem exists_make_iff :
    (∃ reference, make name category origin target = .ok reference) ↔
      category.Suits origin target := by
  simp only [make_eq_ok_iff]
  constructor
  · intro h
    obtain ⟨reference, hparts⟩ := h
    exact suits_of_hasParts hparts
  · intro h
    cases category with
    | branch =>
        obtain ⟨rfl, rfl⟩ := h
        exact ⟨.branch name, rfl, rfl, rfl, rfl⟩
    | tag =>
        obtain ⟨rfl, rfl⟩ := h
        exact ⟨.tag name, rfl, rfl, rfl, rfl⟩
    | changeRequest =>
        obtain ⟨horigin, htarget⟩ := h
        obtain ⟨origin, rfl⟩ := Option.isSome_iff_exists.1 horigin
        obtain ⟨target, rfl⟩ := Option.isSome_iff_exists.1 htarget
        exact ⟨.changeRequest name origin target, rfl, rfl, rfl, rfl⟩

theorem refuses_of_make {failure : Failure} (h : make name category origin target = .error failure) :
    failure.RefusesReference := by
  unfold make at h
  split at h <;> cases h
  · exact .changeRequestNames name
  · exact .namesOnOther _

/-! ## Documents -/

/-- Whatever keeps a description of a reference from being read refuses the reference. -/
theorem refuses_of_ofJson {item : Json} (h : DescribesReference item) {failure : Failure}
    (hfails : ofJson item = .error failure) : failure.RefusesReference := by
  obtain ⟨fields, rfl, ⟨name, hname⟩, htype, -⟩ := h
  cases hlookup : Json.lookup? fields "type" with
  | none =>
      rw [ofJson_untyped hname hlookup] at hfails
      cases hfails
  | some value =>
      obtain ⟨type, rfl⟩ := htype value hlookup
      cases hparse : Category.parse type with
      | error cause =>
          rw [ofJson_of_parse_error hlookup hparse] at hfails
          obtain rfl : cause = failure := Except.error.inj hfails
          rw [Category.parse_eq_error hparse]
          exact .unknownCategory _
      | ok category =>
          by_cases hrequest : category = .changeRequest
          · subst hrequest
            rw [ofJson_changeRequest hname hlookup hparse] at hfails
            exact refuses_of_make hfails
          · rw [ofJson_of_parse_ok hname hlookup hparse hrequest] at hfails
            exact refuses_of_make hfails

theorem ofJson_toJson (reference : Reference) : ofJson reference.toJson = .ok reference := by
  cases reference with
  | branch name => exact ofJson_of_parse_ok rfl rfl (Category.parse_name .branch) (by decide)
  | tag name => exact ofJson_of_parse_ok rfl rfl (Category.parse_name .tag) (by decide)
  | changeRequest name origin target =>
      exact ofJson_changeRequest rfl rfl (Category.parse_name .changeRequest)

/-! ## Classification -/

/-- What can be asked of a reference: its names on the axes of its category, its origin and its
target if it is a change request, and a document that it is read back from. -/
structure Answers (reference : Reference) : Prop where
  classified : reference.classify = .ok (reference.category, reference.names)
  exposed : reference.names.map Prod.fst = reference.category.axes
  origin : reference.origin = .error (.noSuchName reference.category.name reference.name "origin") ∧
      reference.category ∈ [.branch, .tag] ∨
    (∃ origin, reference.origin = .ok origin) ∧ reference.category = .changeRequest
  target : reference.target = .error (.noSuchName reference.category.name reference.name "target") ∧
      reference.category ∈ [.branch, .tag] ∨
    (∃ target, reference.target = .ok target) ∧ reference.category = .changeRequest
  reread : ofJson reference.toJson = .ok reference

theorem answers (reference : Reference) : reference.Answers := by
  have hreread := ofJson_toJson reference
  cases reference with
  | branch name =>
      have hcategory : (branch name).category ∈ [.branch, .tag] := List.mem_cons_self
      exact ⟨classify_eq _, rfl, Or.inl ⟨rfl, hcategory⟩, Or.inl ⟨rfl, hcategory⟩, hreread⟩
  | tag name =>
      have hcategory : (tag name).category ∈ [.branch, .tag] :=
        List.mem_cons_of_mem _ List.mem_cons_self
      exact ⟨classify_eq _, rfl, Or.inl ⟨rfl, hcategory⟩, Or.inl ⟨rfl, hcategory⟩, hreread⟩
  | changeRequest name origin target =>
      exact ⟨classify_eq _, rfl, Or.inr ⟨⟨origin, rfl⟩, rfl⟩, Or.inr ⟨⟨target, rfl⟩, rfl⟩, hreread⟩

/-- Parts make a reference exactly if the names suit the category, and it has these parts; a
document is read as a reference exactly if it is not rejected for its type or for a missing name.
Otherwise the reference is refused. Every reference is made of its parts, is classified without
failing, and is read back from its document. -/
theorem formed_exactly_from_suitable_parts :
    (∀ name category origin target,
      ((∃ reference, make name category origin target = .ok reference) ↔
        category.Suits origin target) ∧
      (∀ reference, make name category origin target = .ok reference ↔
        reference.HasParts name category origin target) ∧
      ∀ failure, make name category origin target = .error failure →
        failure.RefusesReference) ∧
    (∀ item, DescribesReference item →
      (FailsOn ofJson item ↔ IsRejected item) ∧
      ∀ failure, ofJson item = .error failure → failure.RefusesReference) ∧
    ∀ reference : Reference, reference.Answers := by
  refine ⟨?_, ?_, answers⟩
  · intro name category origin target
    exact ⟨exists_make_iff, fun reference => make_eq_ok_iff, fun failure => refuses_of_make⟩
  · intro item hitem
    exact ⟨(isRejected_iff hitem).symm, fun failure => refuses_of_ofJson hitem⟩

def namelessOrigin : Json :=
  .object [("name", .text "7"), ("type", .text " PR "), ("origin", .text ""),
    ("target", .text "main")]

theorem namelessOrigin_is_formed :
    DescribesReference namelessOrigin ∧ ¬ IsRejected namelessOrigin ∧
    ofJson namelessOrigin = .ok (.changeRequest "7" "" "main") ∧
    (changeRequest "7" "" "main").Answers ∧
    ¬ Category.Suits .branch (some "") none := by
  have hitem : DescribesReference namelessOrigin := by
    refine ⟨_, rfl, ⟨"7", rfl⟩, ?_, ?_⟩
    · intro type htype
      exact ⟨" PR ", (Option.some.inj htype).symm⟩
    · rw [List.forall_mem_cons, List.forall_mem_singleton]
      constructor
      · intro value hvalue
        exact Or.inr ⟨"", (Option.some.inj hvalue).symm⟩
      · intro value hvalue
        exact Or.inr ⟨"main", (Option.some.inj hvalue).symm⟩
  have hparse : Category.parse " PR " = .ok .changeRequest := by cbv
  have hread : ofJson namelessOrigin = .ok (.changeRequest "7" "" "main") :=
    ofJson_changeRequest rfl rfl hparse
  obtain ⟨hmade, hdescribed, hanswers⟩ := formed_exactly_from_suitable_parts
  refine ⟨hitem, ?_, hread, hanswers _, ?_⟩
  · rw [← (hdescribed _ hitem).1]
    intro hfails
    obtain ⟨failure, hfailure⟩ := hfails
    cases hread.symm.trans hfailure
  · rw [← (hmade "dev" .branch (some "") none).1]
    intro hsome
    obtain ⟨reference, hreference⟩ := hsome
    cases hreference

end Reference

end RefFilter
