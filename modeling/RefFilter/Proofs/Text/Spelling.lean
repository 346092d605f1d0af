import Mathlib
import RefFilter.Text.Lower
import RefFilter.Text.Trim

/-! # Spellings of a word

Trimming takes all white space from the ends of a text and nothing else. Lower case is that of the
whole of Unicode, but a word of ASCII letters without a K is the lower-case form only of its own
spellings in ASCII: every other character has a character outside ASCII in its lower-case form,
apart from the sign of the kelvin, whose form is the letter k.
-/

namespace RefFilter.Text

open Unicode

/-! ## Trimming -/

/-- A text is some core with white space around it, and the core has none at its ends. -/
structure Trims (text core : String) : Prop where
  around : ∃ before after, text.toList = before ++ core.toList ++ after ∧
    ∀ c ∈ before ++ after, isSpace c = true
  starts : ∀ c, core.toList.head? = some c → isSpace c = false
  ends : ∀ c, core.toList.getLast? = some c → isSpace c = false

theorem dropWhile_isSpace_append {before cs : List Char} (hbefore : ∀ c ∈ before, isSpace c = true)
    (hcs : ∀ c, cs.head? = some c → isSpace c = false) : (before ++ cs).dropWhile isSpace = cs := by
  rw [List.dropWhile_append_of_pos hbefore]
  cases cs with
  | nil => rfl
  | cons c rest => exact List.dropWhile_cons_of_neg (by simp [hcs c rfl])

theorem trimChars_append {before core after : List Char}
    (haround : ∀ c ∈ before ++ after, isSpace c = true)
    (hstarts : ∀ c, core.head? = some c → isSpace c = false)
    (hends : ∀ c, core.getLast? = some c → isSpace c = false) :
    trimChars (before ++ core ++ after) = core := by
  rw [List.forall_mem_append] at haround
  cases core with
  | nil =>
      have hnone : (before ++ after).dropWhile isSpace = [] :=
        List.dropWhile_eq_nil_iff.2 (List.forall_mem_append.2 haround)
      rw [trimChars, List.append_nil, hnone]
      rfl
  | cons c rest =>
      have hafter : ∀ d ∈ after.reverse, isSpace d = true := by simpa using haround.2
      have hends' : ∀ d, (c :: rest).reverse.head? = some d → isSpace d = false := by
        simpa only [List.head?_reverse] using hends
      have hfront : (before ++ ((c :: rest) ++ after)).dropWhile isSpace = (c :: rest) ++ after :=
        dropWhile_isSpace_append haround.1 hstarts
      rw [trimChars, List.append_assoc, hfront, List.reverse_append,
        dropWhile_isSpace_append hafter hends', List.reverse_reverse]

/-- Dropping white space at the start takes away a run of white space and nothing else. -/
theorem exists_append_dropWhile (cs : List Char) :
    ∃ before, cs = before ++ cs.dropWhile isSpace ∧ ∀ c ∈ before, isSpace c = true :=
  ⟨cs.takeWhile isSpace, (List.takeWhile_append_dropWhile).symm, fun _ => List.mem_takeWhile_imp⟩

theorem head?_dropWhile_isSpace {cs : List Char} {c : Char}
    (h : (cs.dropWhile isSpace).head? = some c) : isSpace c = false := by
  have hnot := List.head?_dropWhile_not isSpace cs
  rw [h] at hnot
  simpa using hnot

theorem trims_trim (text : String) : Trims text (trim text) := by
  obtain ⟨before, hbefore, hspace⟩ := exists_append_dropWhile text.toList
  obtain ⟨after, hafter, hspace'⟩ :=
    exists_append_dropWhile (text.toList.dropWhile isSpace).reverse
  have hcore : (trim text).toList = trimChars text.toList := String.toList_ofList
  have hsplit : text.toList.dropWhile isSpace = trimChars text.toList ++ after.reverse := by
    rw [← List.reverse_reverse (text.toList.dropWhile isSpace), hafter, List.reverse_append]
    rfl
  refine ⟨⟨before, after.reverse, ?_, ?_⟩, ?_, ?_⟩
  · rw [hcore, List.append_assoc, ← hsplit, ← hbefore]
  · intro c hc
    rcases List.mem_append.1 hc with hc | hc
    · exact hspace c hc
    · exact hspace' c (List.mem_reverse.1 hc)
  · intro c hc
    rw [hcore] at hc
    have hhead : (text.toList.dropWhile isSpace).head? = some c := by
      rw [hsplit, List.head?_append, hc]
      rfl
    exact head?_dropWhile_isSpace hhead
  · intro c hc
    rw [hcore, trimChars, List.getLast?_reverse] at hc
    exact head?_dropWhile_isSpace hc

/-- The core of a text is what trimming leaves. -/
theorem trims_iff {text core : String} : Trims text core ↔ trim text = core := by
  constructor
  · intro h
    obtain ⟨before, after, htext, haround⟩ := h.around
    rw [trim, htext, trimChars_append haround h.starts h.ends, String.ofList_toList]
  · rintro rfl
    exact trims_trim text

/-! ## Lower case -/

/-- A shifted code point is its own image or the image that a run gives it. -/
theorem shiftCase_cases (runs : List CaseRun) (n : Nat) :
    shiftCase runs n = n ∨
      ∃ run ∈ runs, run.first ≤ n ∧ n ≤ run.last ∧ shiftCase runs n = run.image + (n - run.first) := by
  induction runs with
  | nil => exact Or.inl rfl
  | cons run rest ih =>
      unfold shiftCase
      split_ifs with hbefore hwithin
      · exact Or.inl rfl
      · unfold CaseRun.image?
        split_ifs with hrun
        · exact Or.inr ⟨run, List.mem_cons_self, hrun.1, hwithin, rfl⟩
        · exact Or.inl rfl
      · rcases ih with hself | ⟨other, hmem, hother⟩
        · exact Or.inl hself
        · exact Or.inr ⟨other, List.mem_cons_of_mem _ hmem, hother⟩

/-- The runs from outside ASCII lead to code points outside ASCII, except those of the dotted I and
of the kelvin sign. -/
theorem lowerRuns_outside : ∀ run ∈ lowerRuns,
    run.last < 0x80 ∨ run.first = 0x130 ∧ run.last = 0x130 ∨
      run.first = 0x212A ∧ run.last = 0x212A ∨
      0x80 ≤ run.image ∧ (run.image + (run.last - run.first) < 0xD800 ∨
        0xE000 ≤ run.image ∧ run.image + (run.last - run.first) < 0x110000) := by
  decide +kernel

/-- The lower-case form of a code point outside ASCII is outside ASCII, too, but for the dotted I
and the kelvin sign. -/
theorem lower_outside {n : Nat} (hvalid : n.isValidChar) (hn : 0x80 ≤ n) (hdotted : n ≠ 0x130)
    (hkelvin : n ≠ 0x212A) : (lower n).isValidChar ∧ 0x80 ≤ lower n := by
  unfold lower
  rcases shiftCase_cases lowerRuns n with hself | ⟨run, hmem, hfirst, hlast, himage⟩
  · rw [hself]
    exact ⟨hvalid, hn⟩
  · rw [himage, Nat.isValidChar]
    rcases lowerRuns_outside run hmem with h | h | h | h <;> omega

theorem lower_ascii : ∀ n < 0x80, Char.ofNat (lower n) = (Char.ofNat n).toLower := by
  decide +kernel

def IsAscii (c : Char) : Prop := c.toNat < 0x80

instance (c : Char) : Decidable (IsAscii c) := inferInstanceAs (Decidable (c.toNat < 0x80))

theorem lowerChar_of_ascii {c : Char} (hc : IsAscii c) (before after : List Char) :
    lowerChar before c after = [c.toLower] := by
  have hsigma : c ≠ 'Σ' := by
    rintro rfl
    exact absurd hc (by decide)
  have hdotted : c ≠ 'İ' := by
    rintro rfl
    exact absurd hc (by decide)
  rw [lowerChar, if_neg hsigma, if_neg hdotted, lower_ascii _ hc, Char.ofNat_toNat]

/-- The lower-case form of a character outside ASCII has a character outside ASCII, unless it is the
letter k. -/
theorem exists_mem_lowerChar {c : Char} (hc : ¬ IsAscii c) (before after : List Char) :
    ∃ d ∈ lowerChar before c after, ¬ IsAscii d ∨ d = 'k' := by
  unfold lowerChar
  split_ifs with hsigma hfinal hdotted
  · exact ⟨'ς', List.mem_singleton_self _, Or.inl (by decide)⟩
  · exact ⟨'σ', List.mem_singleton_self _, Or.inl (by decide)⟩
  · exact ⟨'\u0307', by simp, Or.inl (by decide)⟩
  · refine ⟨_, List.mem_singleton_self _, ?_⟩
    by_cases hkelvin : c.toNat = 0x212A
    · rw [hkelvin]
      exact Or.inr (by decide +kernel)
    · have hother : c.toNat ≠ 0x130 := fun h => hdotted (by rw [← Char.ofNat_toNat c, h])
      have hchar : c.toNat.isValidChar := c.valid
      obtain ⟨hvalid, hlower⟩ := lower_outside hchar (Nat.le_of_not_lt hc) hother hkelvin
      left
      rw [IsAscii, Char.toNat_ofNat, if_pos hvalid]
      exact Nat.not_lt.2 hlower

theorem toLower_of_not_ascii {c : Char} (hc : ¬ IsAscii c) : c.toLower = c := by
  unfold Char.toLower
  split
  · rename_i hcapital
    have hle : c.toNat ≤ 0x5A := hcapital.2
    exact absurd (Nat.lt_of_le_of_lt hle (by decide)) hc
  · rfl

/-- A word is in ASCII and has no small k. -/
def Plain (word : List Char) : Prop := ∀ c ∈ word, IsAscii c ∧ c ≠ 'k'

-- Named in full, because the search would find the one that goes through all characters.
instance (word : List Char) : Decidable (Plain word) := List.decidableBAll _ word

/-- A plain word is the lower-case form of exactly those texts that differ from it in the case of
ASCII letters only. -/
theorem lowerFrom_eq_iff {word : List Char} (h : Plain word) (before cs : List Char) :
    lowerFrom before cs = word ↔ cs.map Char.toLower = word := by
  induction cs generalizing before word with
  | nil => rfl
  | cons c rest ih =>
      rw [lowerFrom, List.map_cons]
      by_cases hc : IsAscii c
      · rw [lowerChar_of_ascii hc, List.singleton_append]
        cases word with
        | nil => simp
        | cons d word =>
            rw [List.cons.injEq, List.cons.injEq, ih (List.forall_mem_cons.1 h).2]
      · refine iff_of_false ?_ ?_
        · rintro rfl
          obtain ⟨d, hmem, hd⟩ := exists_mem_lowerChar hc before rest
          obtain ⟨hascii, hletter⟩ := h d (List.mem_append_left _ hmem)
          exact hd.elim (fun hnot => hnot hascii) hletter
        · rintro rfl
          rw [toLower_of_not_ascii hc] at h
          exact hc (h c List.mem_cons_self).1

/-! ## Words -/

/-- Texts differ in the case of ASCII letters only. -/
def SameLetters (text word : String) : Prop :=
  text.toList.map Char.toLower = word.toList.map Char.toLower

theorem toLower_eq_iff_of_plain {text word : String} (h : Plain word.toList) :
    toLower text = word ↔ text.toList.map Char.toLower = word.toList := by
  rw [toLower, ← String.toList_inj, String.toList_ofList]
  exact lowerFrom_eq_iff h [] text.toList

/-- A word without a K in ASCII has the same lower-case form as exactly its spellings. -/
theorem toLower_eq_toLower_iff {text word : String}
    (h : Plain (word.toList.map Char.toLower)) :
    toLower text = toLower word ↔ SameLetters text word := by
  have hword : (toLower word).toList = word.toList.map Char.toLower := by
    rw [toLower, String.toList_ofList]
    exact (lowerFrom_eq_iff h [] word.toList).2 rfl
  rw [toLower_eq_iff_of_plain (hword ▸ h), hword]
  rfl

theorem isAscii_of_sameLetters {text word : String} (h : SameLetters text word)
    (hword : Plain (word.toList.map Char.toLower)) : ∀ c ∈ text.toList, IsAscii c := by
  intro c hc
  by_contra hoff
  have hmem : c.toLower ∈ word.toList.map Char.toLower := h ▸ List.mem_map_of_mem hc
  rw [toLower_of_not_ascii hoff] at hmem
  exact hoff (hword c hmem).1

end RefFilter.Text
