import RefFilter.Proofs.Basic
import RefFilter.Proofs.Config.Readers
import RefFilter.Proofs.Text.Spelling

/-! # Looking a name up

A category and a profile are found by the same rule: the text is trimmed, and what is left is a
spelling of one of the known words. Every known word is in ASCII and without a K, so no other
character takes the place of one of its letters.
-/

namespace RefFilter

open Text

/-! ## Categories -/

namespace Category

def spellings : List (String × Category) :=
  [("branch", .branch), ("tag", .tag), ("change_request", .changeRequest), ("pr", .changeRequest),
    ("pull_request", .changeRequest), ("merge_request", .changeRequest)]

theorem plain_of_spelling : ∀ entry ∈ spellings, Plain (entry.1.toList.map Char.toLower) := by
  decide +kernel

theorem toLower_spelling : ∀ entry ∈ spellings, toLower entry.1 = entry.1 := by
  decide +kernel

theorem ofName?_eq_some_iff {key : String} {category : Category} :
    ofName? key = some category ↔ category.name = key := by
  constructor
  · unfold ofName?
    split <;> rintro ⟨⟩ <;> rfl
  · rintro rfl
    cases category <;> rfl

/-- A key is looked up among the words. -/
theorem parse_eq_ok_iff_key {text : String} {category : Category} :
    parse text = .ok category ↔ (toLower (trim text), category) ∈ spellings := by
  unfold parse
  generalize toLower (trim text) = key
  dsimp only
  by_cases halias : key ∈ aliases
  · rw [if_pos (List.contains_iff_mem.2 halias)]
    simp only [aliases, List.mem_cons, List.not_mem_nil, or_false] at halias
    rcases halias with rfl | rfl | rfl <;> cases category <;> simp [spellings]
  · have hname : ofName key = .ok category ↔ category.name = key := by
      rw [← ofName?_eq_some_iff, ofName]
      cases ofName? key <;> simp
    rw [if_neg (mt List.contains_iff_mem.1 halias), hname]
    simp only [aliases, List.mem_cons, List.not_mem_nil, or_false, not_or] at halias
    cases category <;> simp [spellings, name, halias, eq_comm]

theorem parse_eq_ok_iff {text : String} {category : Category} :
    parse text = .ok category ↔
      ∃ spelling, (spelling, category) ∈ spellings ∧ SameLetters (trim text) spelling := by
  rw [parse_eq_ok_iff_key]
  constructor
  · intro hmem
    refine ⟨_, hmem, ?_⟩
    rw [← toLower_eq_toLower_iff (plain_of_spelling _ hmem)]
    exact (toLower_spelling _ hmem).symm
  · rintro ⟨spelling, hmem, hsame⟩
    have hkey := (toLower_eq_toLower_iff (plain_of_spelling _ hmem)).2 hsame
    rw [hkey, toLower_spelling _ hmem]
    exact hmem

end Category

/-! ## Profiles -/

namespace Profile

def labels (profile : Profile) : List String :=
  profile.name :: profile.symbol.toList

theorem plain_of_label : ∀ profile ∈ builtin, ∀ label ∈ profile.labels,
    Plain (label.toList.map Char.toLower) := by
  decide +kernel

theorem find_eq_ok_iff_label {text : String} {profile : Profile} :
    find text = .ok profile ↔
      profile ∈ builtin ∧ ∃ label ∈ profile.labels, SameLetters (trim text) label := by
  rw [find_eq_ok_iff, find?_eq_some_iff, keys_eq_map, List.mem_map]
  refine and_congr_right fun hmem => exists_congr fun label => and_congr_right fun hlabel => ?_
  rw [eq_comm]
  exact toLower_eq_toLower_iff (plain_of_label profile hmem label hlabel)

end Profile

/-! ## Both lookups -/

/-- What is no known word in ASCII is no known word at all. -/
theorem lookups_fail_of_not_ascii {text : String} {c : Char} (hc : c ∈ (trim text).toList)
    (hoff : ¬ IsAscii c) : FailsOn Category.parse text ∧ FailsOn Profile.find text := by
  constructor
  · cases hparse : Category.parse text with
    | error failure => exact ⟨failure, hparse⟩
    | ok category =>
        obtain ⟨spelling, hmem, hsame⟩ := Category.parse_eq_ok_iff.1 hparse
        exact absurd (isAscii_of_sameLetters hsame (Category.plain_of_spelling _ hmem) c hc) hoff
  · cases hfind : Profile.find text with
    | error failure => exact ⟨failure, hfind⟩
    | ok profile =>
        obtain ⟨hmem, label, hlabel, hsame⟩ := Profile.find_eq_ok_iff_label.1 hfind
        have hplain := Profile.plain_of_label profile hmem label hlabel
        exact absurd (isAscii_of_sameLetters hsame hplain c hc) hoff

/-- A text names a category or a profile just when, without the white space around it, it is one of
the words for it up to the case of ASCII letters. -/
theorem lookups_accept_exactly_the_spellings (text : String) :
    (∀ core, Trims text core ↔ trim text = core) ∧
    (∀ category, Category.parse text = .ok category ↔
      ∃ spelling, (spelling, category) ∈ Category.spellings ∧ SameLetters (trim text) spelling) ∧
    (∀ profile, Profile.find text = .ok profile ↔
      profile ∈ Profile.builtin ∧ ∃ label ∈ profile.labels, SameLetters (trim text) label) ∧
    ((∃ c ∈ (trim text).toList, ¬ IsAscii c) →
      FailsOn Category.parse text ∧ FailsOn Profile.find text) := by
  refine ⟨fun core => trims_iff, fun category => Category.parse_eq_ok_iff,
    fun profile => Profile.find_eq_ok_iff_label, ?_⟩
  rintro ⟨c, hc, hoff⟩
  exact lookups_fail_of_not_ascii hc hoff

example : Category.parse "\u2003Merge_Request\n" = .ok .changeRequest := by cbv

end RefFilter
