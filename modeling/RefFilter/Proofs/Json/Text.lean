import Mathlib
import RefFilter.Json.Reader
import RefFilter.Json.Writer

/-! # Written texts are read back

A character of a text is written as itself, as a backslash and a letter, or by the escapes of its
UTF-16 units. The reader takes each of these forms for the character that it stands for. Whether a
unit is the first of a pair is told by the unit alone, so what comes after the text plays no role as
long as there is its closing quote.
-/

namespace RefFilter.Json

open Text

/-! ## Units -/

theorem hexValue?_hexDigit : ∀ n < 16, hexValue? (hexDigit n) = some n := by
  decide

theorem hexDigits_four (n : Nat) :
    hexDigits 4 n = [hexDigit (n / 4096 % 16), hexDigit (n / 256 % 16), hexDigit (n / 16 % 16),
      hexDigit (n % 16)] := by
  simp [hexDigits, Nat.div_div_eq_div_mul]

theorem unit?_hexDigits {n : Nat} (hn : n < 0x10000) (rest : List Char) :
    unit? (hexDigits 4 n ++ rest) = some (n, rest) := by
  have hdigit (k : Nat) : hexValue? (hexDigit (k % 16)) = some (k % 16) :=
    hexValue?_hexDigit _ (Nat.mod_lt _ (by decide))
  have hvalue :
      ((n / 4096 % 16 * 16 + n / 256 % 16) * 16 + n / 16 % 16) * 16 + n % 16 = n := by omega
  rw [hexDigits_four, List.cons_append, List.cons_append, List.cons_append, List.cons_append,
    List.nil_append, unit?]
  simp only [hdigit, hvalue]

/-- A character is not a surrogate. -/
theorem charOfUnit_toNat (c : Char) : charOfUnit c.toNat = c := by
  have hvalid := c.valid
  have hhigh : isHighUnit c.toNat = false := by
    simp only [isHighUnit, Bool.and_eq_false_iff, decide_eq_false_iff_not]
    rcases hvalid with h | ⟨h, -⟩ <;> simp only [Char.toNat] <;> omega
  have hlow : isLowUnit c.toNat = false := by
    simp only [isLowUnit, Bool.and_eq_false_iff, decide_eq_false_iff_not]
    rcases hvalid with h | ⟨h, -⟩ <;> simp only [Char.toNat] <;> omega
  rw [charOfUnit, hhigh, hlow]
  exact Char.ofNat_toNat c


/-- A character above U+FFFF comes back from the two units that it is written by. -/
theorem charOfPair_units {c : Char} (hc : 0x10000 ≤ c.toNat) :
    charOfPair (0xD800 + (c.toNat - 0x10000) / 0x400) (0xDC00 + (c.toNat - 0x10000) % 0x400) =
      c := by
  have hsum : 0x10000 + (0xD800 + (c.toNat - 0x10000) / 0x400 - 0xD800) * 0x400 +
      (0xDC00 + (c.toNat - 0x10000) % 0x400 - 0xDC00) = c.toNat := by omega
  rw [charOfPair, hsum]
  exact Char.ofNat_toNat c

theorem toNat_le_max (c : Char) : c.toNat ≤ 0x10FFFF := by
  have hvalid := c.valid
  rcases hvalid with h | ⟨-, h⟩ <;> simp only [Char.toNat] <;> omega

theorem isHighUnit_toNat (c : Char) : isHighUnit c.toNat = false := by
  have hvalid := c.valid
  simp only [isHighUnit, Bool.and_eq_false_iff, decide_eq_false_iff_not]
  rcases hvalid with h | ⟨h, -⟩ <;> simp only [Char.toNat] <;> omega

/-- A unit that is no first one of a pair is read by itself, whatever follows. -/
theorem unicodeEscape_unit {n : Nat} (hn : n < 0x10000) (hhigh : isHighUnit n = false)
    {rest : List Char} (hrest : rest ≠ []) :
    unicodeEscape (hexDigits 4 n ++ rest) = .ok (charOfUnit n, rest) := by
  unfold unicodeEscape
  rw [unit?_hexDigits hn]
  split
  · rename_i h
    cases h
  · rename_i h
    cases h
    exact absurd rfl hrest
  · rename_i h
    cases h
    simp [hhigh]
  · rename_i h
    cases h
    rfl

theorem unicodeEscape_pair {high low : Nat} (hhigh : isHighUnit high = true)
    (hlow : isLowUnit low = true) {rest : List Char} (hrest : rest ≠ []) :
    unicodeEscape (hexDigits 4 high ++ (escapeUnit low ++ rest)) =
      .ok (charOfPair high low, rest) := by
  have hhigh' : high < 0x10000 := by
    simp only [isHighUnit, Bool.and_eq_true, decide_eq_true_eq] at hhigh
    omega
  have hlow' : low < 0x10000 := by
    simp only [isLowUnit, Bool.and_eq_true, decide_eq_true_eq] at hlow
    omega
  have hlength : 4 < (hexDigits 4 low ++ rest).length := by
    have hsome := List.length_pos_iff.2 hrest
    rw [List.length_append, hexDigits_four]
    simp only [List.length_cons, List.length_nil]
    omega
  have hcons : escapeUnit low ++ rest = '\\' :: 'u' :: (hexDigits 4 low ++ rest) := rfl
  rw [unicodeEscape, unit?_hexDigits hhigh', hcons]
  simp only [hhigh, hlength, decide_true, Bool.and_self, if_true, unit?_hexDigits hlow', hlow]

/-! ## Texts -/

def consRead (c : Char) (found : List Char × List Char) : List Char × List Char :=
  (c :: found.1, found.2)

theorem textChars_simple {letter c : Char} (hletter : simpleEscape? letter = some c)
    (left n : Nat) (rest : List Char) :
    textChars left (n + 1) ('\\' :: letter :: rest) =
      (textChars left n rest).map (consRead c) := by
  have hu : letter ≠ 'u' := by
    rintro rfl
    cases hletter
  rw [textChars]
  · simp only [hletter]
    cases textChars left n rest <;> rfl
  · simpa using hu

theorem textChars_unicode {digits after : List Char} {c : Char}
    (hescape : unicodeEscape digits = .ok (c, after)) (left n : Nat) :
    textChars left (n + 1) ('\\' :: 'u' :: digits) =
      (textChars left n after).map (consRead c) := by
  rw [textChars, hescape]
  cases h : textChars left n after <;> simp only [bind, Except.bind, h] <;> rfl

theorem textChars_plain {c : Char} (hprintable : 0x20 ≤ c.toNat) (hquote : c ≠ '"')
    (hbackslash : c ≠ '\\') (left n : Nat) (rest : List Char) :
    textChars left (n + 1) (c :: rest) = (textChars left n rest).map (consRead c) := by
  rw [textChars]
  · have hcontrol : ¬ c.toNat ≤ 0x1F := by omega
    rw [if_neg hcontrol]
    cases textChars left n rest <;> rfl
  · simpa using hquote
  · simpa using hbackslash

/-- The written form of a character is read as that character. -/
theorem textChars_escapeChar (left n : Nat) (c : Char) {rest : List Char} (hrest : rest ≠ []) :
    textChars left (n + 1) (escapeChar c ++ rest) =
      (textChars left n rest).map (consRead c) := by
  unfold escapeChar
  split_ifs with hquote hbackslash hnewline hreturn htab hback hfeed hprintable hunit
  · exact textChars_simple (by rw [hquote]; rfl) left n rest
  · exact textChars_simple (by rw [hbackslash]; rfl) left n rest
  · exact textChars_simple (by rw [hnewline]; rfl) left n rest
  · exact textChars_simple (by rw [hreturn]; rfl) left n rest
  · exact textChars_simple (by rw [htab]; rfl) left n rest
  · exact textChars_simple (by rw [hback]; rfl) left n rest
  · exact textChars_simple (by rw [hfeed]; rfl) left n rest
  · exact textChars_plain hprintable.1 hquote hbackslash left n rest
  · have hescape : unicodeEscape (hexDigits 4 c.toNat ++ rest) = .ok (c, rest) := by
      rw [unicodeEscape_unit hunit (isHighUnit_toNat c) hrest, charOfUnit_toNat]
    exact textChars_unicode hescape left n
  · have hmax := toNat_le_max c
    have habove : 0x10000 ≤ c.toNat := by omega
    have hhigh : isHighUnit (0xD800 + (c.toNat - 0x10000) / 0x400) = true := by
      simp only [isHighUnit, Bool.and_eq_true, decide_eq_true_eq]
      omega
    have hlow : isLowUnit (0xDC00 + (c.toNat - 0x10000) % 0x400) = true := by
      simp only [isLowUnit, Bool.and_eq_true, decide_eq_true_eq]
      omega
    have hescape := unicodeEscape_pair hhigh hlow hrest
    rw [charOfPair_units habove] at hescape
    rw [List.append_assoc]
    exact textChars_unicode hescape left n

theorem textChars_flatMap (left : Nat) {n : Nat} {chars : List Char} (hn : chars.length < n)
    (after : List Char) :
    textChars left n (chars.flatMap escapeChar ++ '"' :: after) = .ok (chars, after) := by
  induction chars generalizing n with
  | nil =>
      obtain ⟨m, rfl⟩ : ∃ m, n = m + 1 := ⟨n - 1, by simp at hn; omega⟩
      rfl
  | cons c chars ih =>
      rw [List.length_cons] at hn
      obtain ⟨m, rfl⟩ : ∃ m, n = m + 1 := ⟨n - 1, by omega⟩
      rw [List.flatMap_cons, List.append_assoc, textChars_escapeChar left m c (by simp),
        ih (by omega)]
      rfl

theorem escapeChar_ne_nil (c : Char) : escapeChar c ≠ [] := by
  unfold escapeChar
  split_ifs <;> simp [escapeUnit]

theorem length_le_flatMap_escapeChar (chars : List Char) :
    chars.length ≤ (chars.flatMap escapeChar).length := by
  induction chars with
  | nil => simp
  | cons c chars ih =>
      have hsome := List.length_pos_iff.2 (escapeChar_ne_nil c)
      rw [List.flatMap_cons, List.length_append, List.length_cons]
      omega

/-- A text is read back from its written form, after the opening quote. -/
theorem readText_flatMap (s : String) (after : List Char) :
    readText (s.toList.flatMap escapeChar ++ '"' :: after) = .ok (s, after) := by
  have hlength := length_le_flatMap_escapeChar s.toList
  rw [readText, textChars_flatMap]
  · simp only [bind, Except.bind, pure, Except.pure, String.ofList_toList]
  · rw [List.length_append]
    omega

end RefFilter.Json
