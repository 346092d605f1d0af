import RefFilter.Proofs.Basic
import RefFilter.Service.Request

/-! # Accepted bodies

A body is refused for its shape alone, wherever its parts stand. A body of references is accepted
exactly if it is an object with a list of objects, each with a name and with texts for the rest of
what it has; and what is then read of every item is all that the reference of that item depends on.
-/

namespace RefFilter

theorem Category.parse_name (category : Category) : parse category.name = .ok category := by
  cases category <;> rfl

namespace Service

namespace Shape

variable {α β : Type}

theorem both_eq_ok_iff {first : Shape α} {second : Shape β} {values : α × β} :
    both first second = .ok values ↔ first = .ok values.1 ∧ second = .ok values.2 := by
  obtain ⟨a, b⟩ := values
  cases first <;> cases second <;> simp [both]

variable {part : Nat → Json → Shape α} {items : List Json}

/-- If every part of a list is accepted at every place, so is the list. -/
theorem exists_all {related : Json → α → Prop}
    (h : ∀ item ∈ items, ∀ index, ∃ value, part index item = .ok value ∧ related item value)
    (index : Nat) :
    ∃ values, all part index items = .ok values ∧ List.Forall₂ related items values := by
  induction items generalizing index with
  | nil => exact ⟨[], rfl, .nil⟩
  | cons item rest ih =>
      rw [List.forall_mem_cons] at h
      obtain ⟨value, hvalue, hrelated⟩ := h.1 index
      obtain ⟨values, hvalues, hrest⟩ := ih h.2 (index + 1)
      refine ⟨value :: values, ?_, .cons hrelated hrest⟩
      rw [all, hvalue, hvalues]
      rfl

theorem all_of_ok {part : Nat → Json → Shape Json}
    (h : ∀ index, ∀ item ∈ items, part index item = .ok item) (index : Nat) :
    all part index items = .ok items := by
  have hparts : ∀ item ∈ items, ∀ index, ∃ value, part index item = .ok value ∧ item = value :=
    fun item hmem index => ⟨item, h index item hmem, rfl⟩
  obtain ⟨values, hvalues, hequal⟩ := exists_all hparts index
  rw [List.forall₂_eq_eq_eq] at hequal
  rw [hvalues, hequal]

/-- If a list is accepted, so is every part of it where it stands. -/
theorem exists_part {index : Nat} {values : List α} (h : all part index items = .ok values) :
    ∀ item ∈ items, ∃ place value, part place item = .ok value := by
  induction items generalizing index values with
  | nil => simp
  | cons item rest ih =>
      obtain ⟨parts, hparts, -⟩ := map_eq_ok_iff.1 h
      obtain ⟨hitem, hrest⟩ := both_eq_ok_iff.1 hparts
      exact List.forall_mem_cons.2 ⟨⟨index, parts.1, hitem⟩, ih hrest⟩

end Shape

/-! ## Fields -/

section Field

variable {place : List Place} {fields : List (String × Json)} {name : String}

theorem requiredText_eq_ok_iff {text : String} :
    requiredText place fields name = .ok text ↔ Json.lookup? fields name = some (.text text) := by
  unfold requiredText
  split <;> simp_all [Shape.refuse]

/-- What a field that has to be a text reads, if it is there. -/
theorem textOr_eq_ok_iff {fallback text : String} :
    textOr place fields name fallback = .ok text ↔
      (Json.lookup? fields name).getD (.text fallback) = .text text := by
  unfold textOr
  split <;> simp_all [Shape.refuse]

theorem optionalText_eq_ok_iff {text? : Option String} :
    optionalText place fields name = .ok text? ↔
      (∀ value, Json.lookup? fields name = some value → value = .null ∨ ∃ text, value = .text text) ∧
        ReferenceFields.textField fields name = text? := by
  unfold optionalText ReferenceFields.textField
  split <;> simp_all [Shape.refuse]

end Field

/-! ## References -/

/-- An item describes a reference: it is an object with a text for its name, a text for its type if
it has one, and texts for its origin and its target unless they are absent or null. -/
def DescribesReference (item : Json) : Prop :=
  ∃ fields, item = .object fields ∧
    (∃ name, Json.lookup? fields "name" = some (.text name)) ∧
    (∀ type, Json.lookup? fields "type" = some type → ∃ text, type = .text text) ∧
    ∀ key ∈ ["origin", "target"], ∀ value, Json.lookup? fields key = some value →
      value = .null ∨ ∃ text, value = .text text

/-- A body is an object with a list of items that describe references. -/
def Carries (body : Option Json) (items : List Json) : Prop :=
  ∃ fields, body = some (.object fields) ∧
    Json.lookup? fields "references" = some (.list items) ∧
    ∀ item ∈ items, DescribesReference item

theorem Carries.describes {body : Option Json} {items : List Json} (h : Carries body items) :
    ∀ item ∈ items, DescribesReference item := by
  obtain ⟨fields, -, -, hitems⟩ := h
  exact hitems

theorem describes_of_referenceItem {place : List Place} {item : Json} {described : ReferenceFields}
    (h : referenceItem place item = .ok described) : DescribesReference item := by
  cases item with
  | object fields =>
      obtain ⟨⟨name, type, origin, target⟩, hparts, -⟩ := map_eq_ok_iff.1 h
      simp only [Shape.both_eq_ok_iff, requiredText_eq_ok_iff, textOr_eq_ok_iff,
        optionalText_eq_ok_iff] at hparts
      obtain ⟨hname, htype, ⟨horigin, -⟩, htarget, -⟩ := hparts
      refine ⟨fields, rfl, ⟨name, hname⟩, ?_, ?_⟩
      · intro value hvalue
        rw [hvalue] at htype
        exact ⟨type, htype⟩
      · simpa using ⟨horigin, htarget⟩
  | _ => cases h

/-- What is read of an item that describes a reference is read of its document as well, except that
an absent type is read as that of a branch. -/
theorem referenceItem_of_describes {item : Json} (h : DescribesReference item)
    (place : List Place) :
    ∃ described, referenceItem place item = .ok described ∧
      described.reference = Reference.ofJson item := by
  obtain ⟨fields, rfl, ⟨name, hname⟩, htype, hnames⟩ := h
  simp only [List.forall_mem_cons, List.not_mem_nil, false_implies, implies_true, and_true] at hnames
  obtain ⟨type, hread⟩ : ∃ type,
      (Json.lookup? fields "type").getD (.text Category.branch.name) = .text type := by
    cases hlookup : Json.lookup? fields "type" with
    | none => exact ⟨_, rfl⟩
    | some value => exact htype value hlookup
  refine ⟨⟨some name, some (.text type), ReferenceFields.textField fields "origin",
    ReferenceFields.textField fields "target"⟩, ?_, ?_⟩
  · refine map_eq_ok_iff.2 ⟨(name, type, _, _), ?_, rfl⟩
    simp only [Shape.both_eq_ok_iff, requiredText_eq_ok_iff, textOr_eq_ok_iff,
      optionalText_eq_ok_iff, and_true]
    exact ⟨hname, hread, hnames⟩
  · have hnamed : ReferenceFields.textField fields "name" = some name := by
      rw [ReferenceFields.textField, hname]
    rw [Reference.ofJson, ReferenceFields.ofJson, ReferenceFields.reference,
      ReferenceFields.reference, hnamed]
    cases hlookup : Json.lookup? fields "type" with
    | none =>
        rw [hlookup] at hread
        obtain rfl := Json.text.inj hread
        simp only [ReferenceFields.category, Category.parse_name]
    | some value =>
        rw [hlookup] at hread
        obtain rfl : value = .text type := hread
        rfl

theorem referencesBody_of_carries {body : Option Json} {items : List Json}
    (h : Carries body items) :
    ∃ described, referencesBody body = .ok described ∧
      described.mapM ReferenceFields.reference = items.mapM Reference.ofJson := by
  obtain ⟨fields, rfl, hlookup, hitems⟩ := h
  have hparts : ∀ item ∈ items, ∀ index, ∃ described,
      referenceItem (bodyPlace ++ [.field "references"] ++ [.item index]) item = .ok described ∧
        Reference.ofJson item = described.reference := by
    intro item hmem index
    obtain ⟨described, hdescribed, hread⟩ := referenceItem_of_describes (hitems item hmem) _
    exact ⟨described, hdescribed, hread.symm⟩
  obtain ⟨described, hdescribed, hread⟩ := Shape.exists_all hparts 0
  refine ⟨described, ?_, ?_⟩
  · simp only [referencesBody, bodyFields, bind, Except.bind, hlookup]
    exact hdescribed
  · clear hdescribed hlookup hitems hparts
    induction hread with
    | nil => rfl
    | cons hhead _ ih => rw [List.mapM_cons, List.mapM_cons, hhead, ih]

theorem carries_of_referencesBody {body : Option Json} {described : List ReferenceFields}
    (h : referencesBody body = .ok described) : ∃ items, Carries body items := by
  obtain ⟨fields, hfields, hread⟩ := bind_eq_ok_iff.1 h
  have hbody : body = some (.object fields) := by
    unfold bodyFields at hfields
    split at hfields <;> cases hfields
    rfl
  dsimp only at hread
  split at hread
  · cases hread
  · rename_i items hlookup
    refine ⟨items, fields, hbody, hlookup, ?_⟩
    intro item hmem
    obtain ⟨index, fields, hitem⟩ := Shape.exists_part hread item hmem
    exact describes_of_referenceItem hitem
  · cases hread

/-! ## Rules -/

/-- A list of objects is accepted as rules, and it is read as it stands. -/
theorem rulesBody_of_objects {fields : List (String × Json)} {rules : List Json}
    (hlookup : Json.lookup? fields "rules" = some (.list rules))
    (hobjects : ∀ rule ∈ rules, ∃ members, rule = .object members) :
    rulesBody (some (.object fields)) = .ok rules := by
  simp only [rulesBody, bodyFields, bind, Except.bind, hlookup]
  refine Shape.all_of_ok ?_ 0
  intro index rule hmem
  obtain ⟨members, rfl⟩ := hobjects rule hmem
  rfl

end Service

end RefFilter
