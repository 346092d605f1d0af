import Mathlib
import RefFilter.Text.Utf8

/-! # Reading the bytes of a text

The bytes of a text in UTF-8 are read as the characters of the text. The first byte of a character
tells how many bytes follow and narrows the next one, so that the shortest form is the only one and
no surrogate has a form. Lines that end in a single newline stay as they are.
-/

namespace RefFilter.Text

variable {position n : Nat} {char : PartialChar} {rest : List UInt8}

theorem toNat_ofNat_of_lt {n : Nat} (hn : n < 0x100) : (UInt8.ofNat n).toNat = n := by
  rw [UInt8.toNat_ofNat', Nat.mod_eq_of_lt hn]

theorem decodeFrom_first (hn : n < 0x100) (hhigh : 0x80 ≤ n)
    (hfirst : PartialChar.ofFirst? position n = some char) :
    decodeFrom position none (UInt8.ofNat n :: rest) =
      decodeFrom (position + 1) (some char) rest := by
  rw [decodeFrom]
  simp only [toNat_ofNat_of_lt hn, hfirst]
  rw [if_neg (by omega)]

theorem decodeFrom_next {first start needed low high value : Nat} (hn : n < 0x100)
    (hlow : low ≤ n) (hhigh : n ≤ high) :
    decodeFrom position (some ⟨first, start, needed + 2, low, high, value⟩)
        (UInt8.ofNat n :: rest) =
      decodeFrom (position + 1)
        (some ⟨first, start, needed + 1, 0x80, 0xBF, value * 0x40 + (n - 0x80)⟩) rest := by
  rw [decodeFrom]
  simp only [toNat_ofNat_of_lt hn]
  rw [if_pos ⟨hlow, hhigh⟩, if_neg (by omega)]
  rfl

theorem decodeFrom_last {first start low high value : Nat} (hn : n < 0x100)
    (hlow : low ≤ n) (hhigh : n ≤ high) :
    decodeFrom position (some ⟨first, start, 1, low, high, value⟩) (UInt8.ofNat n :: rest) =
      (decodeFrom (position + 1) none rest).map
        (Char.ofNat (value * 0x40 + (n - 0x80)) :: ·) := by
  rw [decodeFrom]
  simp only [toNat_ofNat_of_lt hn]
  rw [if_pos ⟨hlow, hhigh⟩, if_pos (Nat.le_refl 1)]

/-- The first byte of a character of several bytes tells how many follow, and what the next of
them is between. -/
theorem ofFirst?_two (h : 0xC2 ≤ n) (h' : n < 0xE0) :
    PartialChar.ofFirst? position n = some ⟨n, position, 1, 0x80, 0xBF, n - 0xC0⟩ := by
  simp only [PartialChar.ofFirst?]
  rw [if_neg (by omega), if_pos h']

theorem ofFirst?_three (h : 0xE0 ≤ n) (h' : n < 0xF0) :
    PartialChar.ofFirst? position n = some ⟨n, position, 2, if n = 0xE0 then 0xA0 else 0x80,
      if n = 0xED then 0x9F else 0xBF, n - 0xE0⟩ := by
  simp only [PartialChar.ofFirst?]
  rw [if_neg (by omega), if_neg (by omega)]
  by_cases hfirst : n = 0xE0
  · simp [hfirst]
  · by_cases hsurrogate : n = 0xED
    · simp [hsurrogate]
    · simp [hfirst, hsurrogate, h']

theorem ofFirst?_four (h : 0xF0 ≤ n) (h' : n ≤ 0xF4) :
    PartialChar.ofFirst? position n = some ⟨n, position, 3, if n = 0xF0 then 0x90 else 0x80,
      if n = 0xF4 then 0x8F else 0xBF, n - 0xF0⟩ := by
  simp only [PartialChar.ofFirst?]
  rw [if_neg (by omega), if_neg (by omega), if_neg (by omega), if_neg (by omega),
    if_neg (by omega)]
  by_cases hfirst : n = 0xF0
  · simp [hfirst]
  · by_cases hlast : n = 0xF4
    · simp [hlast]
    · have hless : n < 0xF4 := by omega
      simp [hfirst, hlast, hless]

/-- The bytes of a character are read as that character. -/
theorem decodeFrom_encodeChar (position : Nat) (c : Char) (rest : List UInt8) :
    ∃ next, decodeFrom position none (String.utf8EncodeChar c ++ rest) =
      (decodeFrom next none rest).map (c :: ·) := by
  have hrange : c.toNat < 0xD800 ∨ 0xDFFF < c.toNat ∧ c.toNat < 0x110000 := c.valid
  have hc : Char.ofNat c.toNat = c := Char.ofNat_toNat c
  have hval : c.val.toNat = c.toNat := rfl
  unfold String.utf8EncodeChar
  simp only [hval]
  generalize c.toNat = v at hrange hc ⊢
  subst hc
  split_ifs with hone htwo hthree
  · refine ⟨position + 1, ?_⟩
    rw [List.singleton_append, decodeFrom]
    simp only [toNat_ofNat_of_lt (show v < 0x100 by omega)]
    rw [if_pos (by omega)]
  · refine ⟨position + 2, ?_⟩
    have hsum : (v / 64 % 0x20 + 0xC0 - 0xC0) * 0x40 + (v % 0x40 + 0x80 - 0x80) = v := by omega
    rw [List.cons_append, List.singleton_append,
      decodeFrom_first (by omega) (by omega) (ofFirst?_two (by omega) (by omega)),
      decodeFrom_last (by omega) (by omega) (by omega), hsum]
  · refine ⟨position + 3, ?_⟩
    have hsum : ((v / 4096 % 0x10 + 0xE0 - 0xE0) * 0x40 + (v / 64 % 0x40 + 0x80 - 0x80)) * 0x40 +
        (v % 0x40 + 0x80 - 0x80) = v := by omega
    rw [List.cons_append, List.cons_append, List.singleton_append,
      decodeFrom_first (by omega) (by omega) (ofFirst?_three (by omega) (by omega)),
      decodeFrom_next (by omega) (by split_ifs <;> omega) (by split_ifs <;> omega),
      decodeFrom_last (by omega) (by omega) (by omega), hsum]
  · refine ⟨position + 4, ?_⟩
    have hsum : (((v / 262144 % 0x08 + 0xF0 - 0xF0) * 0x40 + (v / 4096 % 0x40 + 0x80 - 0x80)) *
        0x40 + (v / 64 % 0x40 + 0x80 - 0x80)) * 0x40 + (v % 0x40 + 0x80 - 0x80) = v := by omega
    rw [List.cons_append, List.cons_append, List.cons_append, List.singleton_append,
      decodeFrom_first (by omega) (by omega) (ofFirst?_four (by omega) (by omega)),
      decodeFrom_next (by omega) (by split_ifs <;> omega) (by split_ifs <;> omega),
      decodeFrom_next (by omega) (by omega) (by omega),
      decodeFrom_last (by omega) (by omega) (by omega), hsum]

theorem decodeFrom_flatMap (position : Nat) (chars : List Char) :
    decodeFrom position none (chars.flatMap String.utf8EncodeChar) = .ok chars := by
  induction chars generalizing position with
  | nil => rfl
  | cons c chars ih =>
      obtain ⟨next, hnext⟩ := decodeFrom_encodeChar position c (chars.flatMap String.utf8EncodeChar)
      rw [List.flatMap_cons, hnext, ih]
      rfl

theorem toList_loop (bytes : ByteArray) (i : Nat) (done : List UInt8) :
    ByteArray.toList.loop bytes i done = done.reverse ++ bytes.data.toList.drop i := by
  fun_induction ByteArray.toList.loop bytes i done with
  | case1 i done hi ih =>
      have hlength : i < bytes.data.toList.length := by simpa using hi
      have hbyte : bytes.get! i = bytes.data.toList[i] := by
        rw [Array.getElem_toList]
        exact getElem!_pos bytes.data i hi
      rw [ih, hbyte, List.drop_eq_getElem_cons hlength]
      simp
  | case2 i done hi =>
      rw [List.drop_eq_nil_of_le (by simpa using Nat.le_of_not_lt hi), List.append_nil]

theorem toList_toUTF8 (s : String) :
    s.toUTF8.toList = s.toList.flatMap String.utf8EncodeChar := by
  conv_lhs => rw [← String.ofList_toList (s := s)]
  rw [String.toUTF8_eq_toByteArray, String.toByteArray_ofList, List.utf8Encode, ByteArray.toList,
    toList_loop]
  simp

/-- The bytes of a text in UTF-8 are read as its characters. -/
theorem decodeBytes_toUTF8 (s : String) : decodeBytes s.toUTF8.toList = .ok s.toList := by
  rw [toList_toUTF8]
  exact decodeFrom_flatMap 0 s.toList

theorem unifyLines_of_no_return {cs : List Char} (h : '\r' ∉ cs) : unifyLines cs = cs := by
  induction cs with
  | nil => rfl
  | cons c cs ih =>
      rw [List.mem_cons, not_or] at h
      rw [unifyLines, ih h.2]
      · rintro rest rfl
        exact absurd rfl h.1
      · rintro rfl
        exact absurd rfl h.1

/-- A text without carriage returns is read from a file as it was written. -/
theorem readFileText_toUTF8 {s : String} (h : '\r' ∉ s.toList) :
    readFileText s.toUTF8.toList = .ok s.toList := by
  rw [readFileText, decodeBytes_toUTF8]
  exact congrArg Except.ok (unifyLines_of_no_return h)

end RefFilter.Text
