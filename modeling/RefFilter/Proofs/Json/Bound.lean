import RefFilter.Proofs.Json.Lines

/-! # The bound of the reader

The readers of values, members and fields spend one unit of a bound on each turn, and would stop
with a fault of their own when it is spent. A turn leaves fewer characters than it found, so a bound
of more than twice the number of characters is never spent: any larger one reads the same value or
finds the same fault, however deep a document opens lists and objects and whether or not it closes
them.
-/

namespace RefFilter.Json

/-! ## What a reader leaves -/

theorem length_skipGap_le (cs : List Char) : (skipGap cs).length ≤ cs.length :=
  (List.dropWhile_suffix isGap).length_le

theorem length_of_skipGap {c : Char} {cs rest : List Char} (h : skipGap cs = c :: rest) :
    rest.length < cs.length := by
  have hle := length_skipGap_le cs
  rw [h, List.length_cons] at hle
  exact hle

/-- A mark and the gap after it are read before the next member. -/
theorem length_skipGap_of_mark {c : Char} {cs next : List Char} (h : skipGap cs = c :: next) :
    (skipGap next).length < cs.length :=
  Nat.lt_of_le_of_lt (length_skipGap_le next) (length_of_skipGap h)

theorem length_of_joinUnits {high : Nat} {second rest : List Char} {c : Char}
    (h : joinUnits high second = .ok (c, rest)) : rest.length ≤ second.length + 2 := by
  unfold joinUnits at h
  split at h
  · split at h
    · cases h
    · rename_i low after hlow
      have hlength := length_of_unit? hlow
      split at h
      · obtain ⟨-, rfl⟩ := Prod.mk.inj (Except.ok.inj h)
        omega
      · obtain ⟨-, rfl⟩ := Prod.mk.inj (Except.ok.inj h)
        exact Nat.le_refl _
  · obtain ⟨-, rfl⟩ := Prod.mk.inj (Except.ok.inj h)
    exact Nat.le_refl _

theorem length_of_unicodeEscape {cs rest : List Char} {c : Char}
    (h : unicodeEscape cs = .ok (c, rest)) : rest.length < cs.length := by
  unfold unicodeEscape at h
  split at h
  · cases h
  · cases h
  · rename_i high second hunit
    have hjoin : joinUnits high second = .ok (c, rest) := h
    have hlength := length_of_unit? hunit
    have hle := length_of_joinUnits hjoin
    simp only [List.length_cons] at hlength
    omega
  · rename_i unit after _ _ hunit
    have hlength := length_of_unit? hunit
    obtain ⟨-, rfl⟩ := Prod.mk.inj (Except.ok.inj h)
    omega

theorem BeginsWith.length_lt {cs after : List Char} {c : Char} (h : BeginsWith cs c after) :
    after.length < cs.length := by
  cases h with
  | letter => simp only [List.length_cons]; omega
  | units hescape =>
      have hless := length_of_unicodeEscape hescape
      simp only [List.length_cons]
      omega
  | plain => exact Nat.lt_succ_self _

theorem length_of_textChars {left n : Nat} {cs chars rest : List Char}
    (h : textChars left n cs = .ok (chars, rest)) : rest.length < cs.length := by
  induction n generalizing cs chars with
  | zero => cases h
  | succ n ih =>
      rcases beginsWith_of_textChars h with ⟨rfl, -⟩ | ⟨c, after, others, hbegins, hothers, -⟩
      · exact Nat.lt_succ_self _
      · exact Nat.lt_trans (ih hothers) hbegins.length_lt

theorem length_of_readText {cs rest : List Char} {content : String}
    (h : readText cs = .ok (content, rest)) : rest.length < cs.length := by
  obtain ⟨⟨chars, left⟩, hchars, h⟩ := bind_eq_ok_iff.1 h
  obtain ⟨-, rfl⟩ := Prod.mk.inj (Except.ok.inj h)
  exact length_of_textChars hchars

theorem length_of_readAtom {cs rest : List Char} {value : Json}
    (h : readAtom cs = .ok (value, rest)) : rest.length < cs.length := by
  unfold readAtom at h
  split at h
  · rename_i found hword
    obtain rfl := Except.ok.inj h
    exact length_of_readWord? hword
  · split at h
    · obtain ⟨⟨content, left⟩, htext, h⟩ := bind_eq_ok_iff.1 h
      obtain ⟨-, rfl⟩ := Prod.mk.inj (Except.ok.inj h)
      exact Nat.lt_succ_of_lt (length_of_readText htext)
    · exact Nat.lt_succ_of_lt (length_of_readNumber h)
    · exact length_of_readNumber h

/-- What is read with a bound leaves fewer characters than there were. -/
structure LeavesLess (n : Nat) : Prop where
  value {cs rest : List Char} {value : Json} (h : readValue n cs = .ok (value, rest)) :
    rest.length < cs.length
  items {cs rest : List Char} {items : List Json} (h : readItems n cs = .ok (items, rest)) :
    rest.length < cs.length
  fields {cs rest : List Char} {fields : List (String × Json)}
    (h : readFields n cs = .ok (fields, rest)) : rest.length < cs.length

section Step

variable {n : Nat} {cs rest : List Char}

theorem ValueRead.length_lt {value : Json} (hbelow : LeavesLess n)
    (h : ValueRead n cs value rest) : rest.length < cs.length := by
  cases h with
  | emptyList hclose => exact Nat.lt_succ_of_lt (length_of_skipGap hclose)
  | list _ hitems =>
      exact Nat.lt_succ_of_lt (Nat.lt_of_lt_of_le (hbelow.items hitems) (length_skipGap_le _))
  | emptyObject hclose => exact Nat.lt_succ_of_lt (length_of_skipGap hclose)
  | object _ hfields =>
      exact Nat.lt_succ_of_lt (Nat.lt_of_lt_of_le (hbelow.fields hfields) (length_skipGap_le _))
  | atom _ _ hatom => exact length_of_readAtom hatom

theorem ItemsRead.length_lt {items : List Json} (hbelow : LeavesLess n)
    (h : ItemsRead n cs items rest) : rest.length < cs.length := by
  cases h with
  | last hitem hclose => exact Nat.lt_trans (length_of_skipGap hclose) (hbelow.value hitem)
  | more hitem hcomma hitems =>
      have hitem := hbelow.value hitem
      have hnext := length_skipGap_of_mark hcomma
      have hitems := hbelow.items hitems
      omega

theorem FieldRead.length_lt {name : String} {value : Json} (hbelow : LeavesLess n)
    (h : FieldRead n cs name value rest) : rest.length < cs.length := by
  obtain ⟨hname, hcolon, hvalue⟩ := h
  have hname := length_of_readText hname
  have hnext := length_skipGap_of_mark hcolon
  have hvalue := hbelow.value hvalue
  rw [List.length_cons]
  omega

theorem FieldsRead.length_lt {fields : List (String × Json)} (hbelow : LeavesLess n)
    (h : FieldsRead n cs fields rest) : rest.length < cs.length := by
  cases h with
  | last hfield hclose => exact Nat.lt_trans (length_of_skipGap hclose) (hfield.length_lt hbelow)
  | more hfield hcomma hfields =>
      have hfield := hfield.length_lt hbelow
      have hnext := length_skipGap_of_mark hcomma
      have hfields := hbelow.fields hfields
      omega

end Step

theorem leavesLess (n : Nat) : LeavesLess n := by
  induction n with
  | zero =>
      constructor
      · intro _ _ _ h
        cases h
      · intro _ _ _ h
        cases h
      · intro _ _ _ h
        cases h
  | succ n ih =>
      constructor
      · intro _ _ _ h
        exact (readValue_eq_ok_iff.1 h).length_lt ih
      · intro _ _ _ h
        exact (readItems_eq_ok_iff.1 h).length_lt ih
      · intro _ _ _ h
        exact (readFields_eq_ok_iff.1 h).length_lt ih

/-! ## Larger bounds -/

/-- One more unit than `n` changes nothing for a text that `n` is large enough for. The reader of
members goes on with the same text as the reader of values before it, so it needs one unit more. -/
structure EnoughFor (n : Nat) : Prop where
  value {cs : List Char} (hn : 2 * cs.length < n) : readValue (n + 1) cs = readValue n cs
  items {cs : List Char} (hn : 2 * cs.length + 1 < n) : readItems (n + 1) cs = readItems n cs
  fields {cs : List Char} (hn : 2 * cs.length + 1 < n) : readFields (n + 1) cs = readFields n cs

section Step

variable {n : Nat} {cs : List Char}

theorem readValue_succ (hbelow : EnoughFor n) (hn : 2 * cs.length < n + 1) :
    readValue (n + 1 + 1) cs = readValue (n + 1) cs := by
  by_cases hlist : cs.head? = some '['
  · obtain ⟨cs, rfl⟩ := List.head?_eq_some_iff.1 hlist
    have hgap := length_skipGap_le cs
    rw [List.length_cons] at hn
    rw [readValue, readValue]
    generalize skipGap cs = inner at hgap ⊢
    split
    · rfl
    · rw [hbelow.items (by omega)]
  · by_cases hobject : cs.head? = some '\x7b'
    · obtain ⟨cs, rfl⟩ := List.head?_eq_some_iff.1 hobject
      have hgap := length_skipGap_le cs
      rw [List.length_cons] at hn
      rw [readValue, readValue]
      generalize skipGap cs = inner at hgap ⊢
      split
      · rfl
      · rw [hbelow.fields (by omega)]
    · rw [readValue_atom hlist hobject, readValue_atom hlist hobject]

theorem readItems_succ (hbelow : EnoughFor n) (hn : 2 * cs.length + 1 < n + 1) :
    readItems (n + 1 + 1) cs = readItems (n + 1) cs := by
  rw [readItems, readItems, hbelow.value (by omega)]
  refine bind_congr_of_ok ?_
  rintro ⟨item, rest⟩ hitem
  have hless := (leavesLess n).value hitem
  dsimp only
  split
  · rfl
  · rename_i hcomma
    have hnext := length_skipGap_of_mark hcomma
    rw [hbelow.items (by omega)]
  · rfl

theorem readFields_succ (hbelow : EnoughFor n) (hn : 2 * cs.length + 1 < n + 1) :
    readFields (n + 1 + 1) cs = readFields (n + 1) cs := by
  rw [readFields.eq_def, readFields.eq_def (n + 1)]
  dsimp only
  split
  · rw [List.length_cons] at hn
    refine bind_congr_of_ok ?_
    rintro ⟨name, left⟩ hname
    have hname := length_of_readText hname
    dsimp only
    split
    · rename_i hcolon
      have hnext := length_skipGap_of_mark hcolon
      rw [hbelow.value (by omega)]
      refine bind_congr_of_ok ?_
      rintro ⟨value, rest⟩ hvalue
      have hvalue := (leavesLess n).value hvalue
      dsimp only
      split
      · rfl
      · rename_i hcomma
        have hnext' := length_skipGap_of_mark hcomma
        rw [hbelow.fields (by omega)]
      · rfl
    · rfl
  · rfl

end Step

theorem enoughFor (n : Nat) : EnoughFor n := by
  -- As the three readers call each other, no one of them can be followed without the others.
  induction n with
  | zero => constructor <;> intro cs hn <;> exact absurd hn (Nat.not_lt_zero _)
  | succ n ih => exact ⟨readValue_succ ih, readItems_succ ih, readFields_succ ih⟩

theorem readValue_of_le {cs : List Char} {n m : Nat} (hn : 2 * cs.length < n) (hm : n ≤ m) :
    readValue m cs = readValue n cs := by
  induction m, hm using Nat.le_induction with
  | base => rfl
  | succ m hm ih => rw [(enoughFor m).value (Nat.lt_of_lt_of_le hn hm), ih]

/-- A document is read as it is with any bound that is large enough for its characters: the same
value comes out, or the same fault at the same place. -/
theorem readCharsWithin_eq_readChars {cs : List Char} {n : Nat} (hn : 2 * cs.length < n) :
    readCharsWithin n cs = readChars cs := by
  have hgap := length_skipGap_le cs
  have hread {m : Nat} (hm : 2 * cs.length + 1 ≤ m) :
      readValue m (skipGap cs) = readValue (2 * cs.length + 1) (skipGap cs) :=
    readValue_of_le (by omega) hm
  rw [readChars, readCharsWithin, readCharsWithin, hread hn, hread (Nat.le_succ _)]

/-- Lists that are never closed are a fault at the end of the document, not at the bound. -/
example : readCharsWithin 9 "[[[1".toList = .error (.fault .expectedComma 0) := rfl

end RefFilter.Json
