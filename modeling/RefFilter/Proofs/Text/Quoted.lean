import Mathlib
import RefFilter.Text.Quoted

/-! # What a quoted text gives away

A quoted text starts with its mark. After that every character is written in a form that tells where
it ends and which character it stands for: as itself, or as a backslash with a tag and as many
digits as the tag calls for. No form starts with the mark, so the next mark is the end. What comes
after a quoted text is therefore told apart from it, whatever either of them holds, and no character
of it is one that is not printable.
-/

namespace RefFilter.Text

open Unicode

/-! ## Digits -/

theorem hexDigit_injective : ∀ m < 16, ∀ n < 16, hexDigit m = hexDigit n → m = n := by
  decide

/-- Digits of a given width tell the number that they are of, and what comes after them. -/
theorem hexDigits_append_inj {width m n : Nat} {xs ys : List Char} (hm : m < 16 ^ width)
    (hn : n < 16 ^ width) (h : hexDigits width m ++ xs = hexDigits width n ++ ys) :
    m = n ∧ xs = ys := by
  induction width generalizing m n xs ys with
  | zero =>
      rw [Nat.pow_zero, Nat.lt_one_iff] at hm hn
      exact ⟨hm.trans hn.symm, h⟩
  | succ width ih =>
      rw [Nat.pow_succ] at hm hn
      rw [hexDigits, hexDigits, List.append_assoc, List.append_assoc] at h
      obtain ⟨hdiv, hlast⟩ := ih (Nat.div_lt_of_lt_mul (Nat.mul_comm _ _ ▸ hm))
        (Nat.div_lt_of_lt_mul (Nat.mul_comm _ _ ▸ hn)) h
      obtain ⟨hdigit, hrest⟩ := List.cons.inj hlast
      have hmod := hexDigit_injective _ (Nat.mod_lt m (by decide)) _ (Nat.mod_lt n (by decide)) hdigit
      exact ⟨by omega, hrest⟩

/-! ## The form of a character -/

/-- The marks that a text can stand between. -/
def IsMark (q : Char) : Prop := q = '\'' ∨ q = '"'

theorem isMark_quoteMark (cs : List Char) : IsMark (quoteMark cs) := by
  unfold quoteMark
  split
  · exact Or.inr rfl
  · exact Or.inl rfl

/-- The number of digits that the tag of an escape calls for. -/
def digitsAfter (tag : Char) : Nat :=
  if tag = 'x' then 2 else if tag = 'u' then 4 else if tag = 'U' then 8 else 0

def escaped (tag : Char) (n : Nat) : Char :=
  if tag = 'n' then '\n' else if tag = 'r' then '\r' else if tag = 't' then '\t'
  else if digitsAfter tag = 0 then tag else Char.ofNat n

/-- A form that a character is written in between marks: as itself, or as an escape. -/
inductive Form (q c : Char) : List Char → Prop where
  | plain (hmark : c ≠ q) (hbackslash : c ≠ '\\') (hprintable : isPrintable c.toNat = true) :
      Form q c [c]
  | escape {tag : Char} {n : Nat} (htag : isPrintable tag.toNat = true)
      (hwidth : n < 16 ^ digitsAfter tag) (hmeans : escaped tag n = c) :
      Form q c ('\\' :: tag :: hexDigits (digitsAfter tag) n)

variable {q c d : Char} {form other xs ys : List Char}

/-- An escape without digits. -/
theorem Form.letter {tag : Char} (htag : isPrintable tag.toNat = true)
    (hdigits : digitsAfter tag = 0) (hmeans : escaped tag 0 = c) : Form q c ['\\', tag] := by
  have hform : Form q c ('\\' :: tag :: hexDigits (digitsAfter tag) 0) :=
    .escape htag (Nat.pow_pos (by decide)) hmeans
  rw [hdigits] at hform
  exact hform

theorem form_escapeCode (q c : Char) : Form q c (escapeCode c.toNat) := by
  have hbound : c.toNat < 16 ^ 8 := c.val.toNat_lt
  have hmeans : Char.ofNat c.toNat = c := Char.ofNat_toNat c
  unfold escapeCode
  split_ifs with hbyte hplane
  · exact @Form.escape q c 'x' c.toNat (by decide +kernel) hbyte hmeans
  · exact @Form.escape q c 'u' c.toNat (by decide +kernel) hplane hmeans
  · exact @Form.escape q c 'U' c.toNat (by decide +kernel) hbound hmeans

/-- Between marks, every character is written in a form. -/
theorem form_quoteChar (hq : IsMark q) (c : Char) : Form q c (quoteChar q c) := by
  unfold quoteChar
  split_ifs with hself hnewline hreturn htab hprintable
  · have hsimple : isPrintable c.toNat = true ∧ digitsAfter c = 0 ∧ escaped c 0 = c := by
      rcases hself with rfl | rfl
      · rcases hq with rfl | rfl <;> decide +kernel
      · decide +kernel
    exact .letter hsimple.1 hsimple.2.1 hsimple.2.2
  · exact .letter (by decide +kernel) rfl hnewline.symm
  · exact .letter (by decide +kernel) rfl hreturn.symm
  · exact .letter (by decide +kernel) rfl htab.symm
  · exact .plain (fun h => hself (Or.inl h)) (fun h => hself (Or.inr h)) hprintable
  · exact form_escapeCode q c

/-- The forms of two characters tell the characters, and what comes after them. -/
theorem Form.append_inj (h : Form q c form) (hother : Form q d other)
    (heq : form ++ xs = other ++ ys) : c = d ∧ xs = ys := by
  cases h with
  | plain hmark hbackslash =>
      cases hother with
      | plain => exact List.cons.inj heq
      | escape => exact absurd (List.cons.inj heq).1 hbackslash
  | escape _ hwidth hmeans =>
      cases hother with
      | plain hmark hbackslash => exact absurd (List.cons.inj heq).1.symm hbackslash
      | escape _ hwidth' hmeans' =>
          obtain ⟨rfl, hdigits⟩ := List.cons.inj (List.cons.inj heq).2
          obtain ⟨rfl, hrest⟩ := hexDigits_append_inj hwidth hwidth' hdigits
          exact ⟨hmeans.symm.trans hmeans', hrest⟩

/-- No form is taken for the end of the text. -/
theorem Form.append_ne (hq : IsMark q) (h : Form q c form) : form ++ xs ≠ q :: ys := by
  cases h with
  | plain hmark hbackslash => exact fun heq => hmark (List.cons.inj heq).1
  | escape =>
      intro heq
      rcases hq with rfl | rfl <;> exact absurd (List.cons.inj heq).1 (by decide)

/-! ## Whole texts -/

/-- Between marks, a text ends at the first place where no form starts. -/
theorem forms_append_inj (hq : IsMark q) {cs ds : List Char}
    (h : cs.flatMap (quoteChar q) ++ q :: xs = ds.flatMap (quoteChar q) ++ q :: ys) :
    cs = ds ∧ xs = ys := by
  induction cs generalizing ds with
  | nil =>
      cases ds with
      | nil => exact ⟨rfl, (List.cons.inj h).2⟩
      | cons d ds =>
          rw [List.flatMap_cons, List.append_assoc] at h
          exact absurd h.symm ((form_quoteChar hq d).append_ne hq)
  | cons c cs ih =>
      rw [List.flatMap_cons, List.append_assoc] at h
      cases ds with
      | nil => exact absurd h ((form_quoteChar hq c).append_ne hq)
      | cons d ds =>
          rw [List.flatMap_cons, List.append_assoc] at h
          obtain ⟨rfl, hrest⟩ := (form_quoteChar hq c).append_inj (form_quoteChar hq d) h
          obtain ⟨rfl, hafter⟩ := ih hrest
          exact ⟨rfl, hafter⟩

/-- A quoted text tells the text, and what comes after it. -/
theorem quote_append_inj {s t : String} (h : (quote s).toList ++ xs = (quote t).toList ++ ys) :
    s = t ∧ xs = ys := by
  simp only [quote, quoteChars, String.toList_ofList, List.cons_append, List.append_assoc,
    List.nil_append, List.cons.injEq] at h
  obtain ⟨hmark, hforms⟩ := h
  rw [← hmark] at hforms
  obtain ⟨hchars, hrest⟩ := forms_append_inj (isMark_quoteMark _) hforms
  exact ⟨String.toList_inj.1 hchars, hrest⟩

/-! ## Printable texts -/

def Printable (s : String) : Prop := ∀ c ∈ s.toList, isPrintable c.toNat = true

-- Named in full, because the search would find the one that goes through all characters.
instance (s : String) : Decidable (Printable s) := List.decidableBAll _ s.toList

theorem Printable.append {s t : String} (hs : Printable s) (ht : Printable t) :
    Printable (s ++ t) := by
  rw [Printable, String.toList_append, List.forall_mem_append]
  exact ⟨hs, ht⟩

theorem isPrintable_ascii : ∀ n < 0x7F, 0x20 ≤ n → isPrintable n = true := by
  decide +kernel

theorem printable_toString (n : Nat) : Printable (toString n) := by
  intro c hc
  rw [Nat.toString_eq_ofList_toDigits, String.toList_ofList] at hc
  have hdigit := Nat.isDigit_of_mem_toDigits (by decide) (Nat.le_refl 10) hc
  obtain ⟨hleast, hmost⟩ := Char.isDigit_iff_toNat.1 hdigit
  exact isPrintable_ascii _ (lt_of_le_of_lt hmost (by decide)) (le_trans (by decide) hleast)

theorem isPrintable_of_mem_hexDigits {width n : Nat} :
    ∀ c ∈ hexDigits width n, isPrintable c.toNat = true := by
  have hdigit : ∀ n < 16, isPrintable (hexDigit n).toNat = true := by decide +kernel
  induction width generalizing n with
  | zero => exact List.forall_mem_nil _
  | succ width ih =>
      rw [hexDigits, List.forall_mem_append, List.forall_mem_singleton]
      exact ⟨ih, hdigit _ (Nat.mod_lt _ (by decide))⟩

theorem Form.isPrintable (h : Form q c form) : ∀ d ∈ form, isPrintable d.toNat = true := by
  cases h with
  | plain _ _ hprintable => exact List.forall_mem_singleton.2 hprintable
  | escape htag =>
      rw [List.forall_mem_cons, List.forall_mem_cons]
      exact ⟨by decide +kernel, htag, isPrintable_of_mem_hexDigits⟩

/-- A quoted text is printable, whatever the text. -/
theorem printable_quote (s : String) : Printable (quote s) := by
  have hmark := isMark_quoteMark s.toList
  have hprintable : isPrintable (quoteMark s.toList).toNat = true := by
    rcases hmark with hmark | hmark <;> rw [hmark] <;> decide +kernel
  rw [Printable, quote, quoteChars, String.toList_ofList, List.forall_mem_append,
    List.forall_mem_cons, List.forall_mem_singleton]
  refine ⟨⟨hprintable, ?_⟩, hprintable⟩
  intro d hd
  obtain ⟨c, -, hd⟩ := List.mem_flatMap.1 hd
  exact (form_quoteChar hmark c).isPrintable d hd

end RefFilter.Text
