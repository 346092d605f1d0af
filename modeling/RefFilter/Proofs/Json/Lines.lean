import RefFilter.Proofs.Basic
import RefFilter.Proofs.Json.Indented
import RefFilter.Proofs.Text.Utf8

/-! # Documents and the ends of lines

In a document that can be read a carriage return stands in a gap, and a gap may as well hold a
newline. So what is read from a text is read as well after every line of the text is made to end in
a single newline. A reader is followed from one text to the other: it reads the same value, and what
is left of the one text is what is left of the other with its lines made to end so.
-/

namespace RefFilter.Json

open Text

/-! ## Lines -/

theorem unifyLines_cons {c : Char} (hc : c ≠ '\r') (cs : List Char) :
    unifyLines (c :: cs) = c :: unifyLines cs := by
  rw [unifyLines]
  · rintro rest rfl
    exact absurd rfl hc
  · rintro rfl
    exact absurd rfl hc

theorem unifyLines_return (cs : List Char) :
    ∃ rest, unifyLines ('\r' :: cs) = '\n' :: rest := by
  unfold unifyLines
  split
  · rename_i h
    cases h
  · exact ⟨_, rfl⟩
  · exact ⟨_, rfl⟩
  · rename_i c rest _ hc h
    obtain ⟨rfl, rfl⟩ := List.cons.inj h
    exact absurd rfl hc

/-- How a text begins: with nothing, with the end of a line, or with a character of a line. -/
theorem unifyLines_cases (cs : List Char) :
    cs = [] ∨ (∃ rest after, cs = '\r' :: rest ∧ unifyLines cs = '\n' :: after) ∨
      ∃ c rest, cs = c :: rest ∧ c ≠ '\r' ∧ unifyLines cs = c :: unifyLines rest := by
  cases cs with
  | nil => exact Or.inl rfl
  | cons c rest =>
      by_cases hc : c = '\r'
      · subst hc
        obtain ⟨after, hafter⟩ := unifyLines_return rest
        exact Or.inr (Or.inl ⟨rest, after, rfl, hafter⟩)
      · exact Or.inr (Or.inr ⟨c, rest, rfl, hc, unifyLines_cons hc rest⟩)

theorem head?_unifyLines (cs : List Char) :
    (unifyLines cs).head? = cs.head?.map fun c => if c = '\r' then '\n' else c := by
  rcases unifyLines_cases cs with rfl | ⟨rest, after, rfl, hafter⟩ | ⟨c, rest, rfl, hc, hcons⟩
  · rfl
  · rw [hafter]
    rfl
  · rw [hcons]
    simp [hc]

theorem unifyLines_eq_nil_iff {cs : List Char} : unifyLines cs = [] ↔ cs = [] := by
  rw [← List.head?_eq_none_iff, head?_unifyLines, Option.map_eq_none_iff, List.head?_eq_none_iff]

theorem unifyLines_eq_cons {c : Char} {cs left : List Char} (hc : c ≠ '\n')
    (h : unifyLines cs = c :: left) : ∃ rest, cs = c :: rest ∧ unifyLines rest = left := by
  rcases unifyLines_cases cs with rfl | ⟨rest, after, rfl, hafter⟩ | ⟨d, rest, rfl, -, hcons⟩
  · cases h
  · rw [hafter] at h
    exact absurd (List.cons.inj h).1.symm hc
  · rw [hcons] at h
    obtain ⟨rfl, hrest⟩ := List.cons.inj h
    exact ⟨rest, rfl, hrest⟩

theorem skipGap_unifyLines (cs : List Char) : skipGap (unifyLines cs) = unifyLines (skipGap cs) := by
  fun_induction unifyLines cs with
  | case1 => rfl
  | case2 rest ih => exact ih
  | case3 rest _ ih => exact ih
  | case4 c rest _ hc ih =>
      cases hgap : isGap c with
      | true =>
          have hskip (cs : List Char) : skipGap (c :: cs) = skipGap cs :=
            List.dropWhile_cons_of_pos hgap
          rw [hskip, hskip, ih]
      | false => rw [skipGap_of_not_gap hgap, skipGap_of_not_gap hgap, unifyLines_cons hc]

/-- A class of characters that holds no end of a line is read alike. -/
theorem takeWhile_unifyLines {member : Char → Bool} (hreturn : member '\r' = false)
    (hnewLine : member '\n' = false) (cs : List Char) :
    (unifyLines cs).takeWhile member = cs.takeWhile member ∧
      (unifyLines cs).dropWhile member = unifyLines (cs.dropWhile member) := by
  induction cs with
  | nil => exact ⟨rfl, rfl⟩
  | cons c rest ih =>
      by_cases hc : c = '\r'
      · subst hc
        obtain ⟨after, hafter⟩ := unifyLines_return rest
        rw [List.takeWhile_cons_of_neg (by simp [hreturn]),
          List.dropWhile_cons_of_neg (by simp [hreturn]), hafter]
        exact ⟨List.takeWhile_cons_of_neg (by simp [hnewLine]),
          List.dropWhile_cons_of_neg (by simp [hnewLine])⟩
      · rw [unifyLines_cons hc]
        cases hmember : member c with
        | true => simp [hmember, ih.1, ih.2]
        | false => simp [hmember, unifyLines_cons hc]

theorem isPrefixOf_unifyLines {word : List Char} (hreturn : '\r' ∉ word) (hnewLine : '\n' ∉ word)
    (cs : List Char) :
    word.isPrefixOf (unifyLines cs) = word.isPrefixOf cs ∧
      (word.isPrefixOf cs = true →
        (unifyLines cs).drop word.length = unifyLines (cs.drop word.length)) := by
  induction word generalizing cs with
  | nil => simp
  | cons letter word ih =>
      rw [List.mem_cons, not_or] at hreturn hnewLine
      rcases unifyLines_cases cs with rfl | ⟨rest, after, rfl, hafter⟩ | ⟨c, rest, rfl, -, hcons⟩
      · simp [unifyLines]
      · have hno (other : List Char) {end' : Char} (hend : ¬ end' = letter) :
            (letter :: word).isPrefixOf (end' :: other) = false := by
          rw [List.isPrefixOf_cons_cons, beq_false_of_ne (Ne.symm hend), Bool.false_and]
        rw [hafter, hno _ hnewLine.1, hno _ hreturn.1]
        simp
      · obtain ⟨hfront, hdrop⟩ := ih hreturn.2 hnewLine.2 rest
        rw [hcons]
        simp only [List.isPrefixOf_cons_cons, Bool.and_eq_true, List.length_cons,
          List.drop_succ_cons, hfront]
        exact ⟨trivial, fun h => hdrop h.2⟩

/-! ## Atoms -/

/-- What was read, with the lines of what is left made to end in single newlines. -/
def unifyLeft {α : Type} (found : α × List Char) : α × List Char := (found.1, unifyLines found.2)

theorem spanDigits_unifyLines (cs : List Char) :
    spanDigits (unifyLines cs) = unifyLeft (spanDigits cs) := by
  obtain ⟨htake, hdrop⟩ := @takeWhile_unifyLines Char.isDigit rfl rfl cs
  rw [spanDigits, spanDigits, List.span_eq_takeWhile_dropWhile, List.span_eq_takeWhile_dropWhile,
    htake, hdrop]
  rfl

theorem wholePart?_unifyLines (cs : List Char) :
    wholePart? (unifyLines cs) = (wholePart? cs).map unifyLeft := by
  rcases unifyLines_cases cs with rfl | ⟨rest, after, rfl, hafter⟩ | ⟨c, rest, rfl, -, hcons⟩
  · rfl
  · rw [hafter]
    rfl
  · have hspan := spanDigits_unifyLines (c :: rest)
    rw [hcons] at hspan ⊢
    by_cases hzero : c = '0'
    · subst hzero
      rfl
    · have hwhole (cs : List Char) : wholePart? (c :: cs) =
          if c.isDigit then some (spanDigits (c :: cs)) else none := by
        simp [wholePart?]
      rw [hwhole, hwhole, hspan]
      cases c.isDigit <;> rfl

theorem fractionPart_unifyLines (cs : List Char) :
    fractionPart (unifyLines cs) = unifyLeft (fractionPart cs) := by
  have hother {c : Char} (hpoint : c ≠ '.') (cs : List Char) :
      fractionPart (c :: cs) = ([], c :: cs) := by
    simp [fractionPart, hpoint]
  rcases unifyLines_cases cs with rfl | ⟨rest, after, rfl, hafter⟩ | ⟨c, rest, rfl, -, hcons⟩
  · rfl
  · rw [hother (by decide), unifyLeft, hafter, hother (by decide)]
  · rw [hcons]
    by_cases hpoint : c = '.'
    · subst hpoint
      simp only [fractionPart, spanDigits_unifyLines, unifyLeft]
      split
      · rw [hcons]
      · rfl
    · rw [hother hpoint, hother hpoint, unifyLeft, hcons]

def exponentSign (cs : List Char) : Bool × List Char :=
  match cs with
  | '-' :: rest => (true, rest)
  | '+' :: rest => (false, rest)
  | _ => (false, cs)

theorem exponentSign_unifyLines (cs : List Char) :
    exponentSign (unifyLines cs) = unifyLeft (exponentSign cs) := by
  have hother {c : Char} (hminus : c ≠ '-') (hplus : c ≠ '+') (cs : List Char) :
      exponentSign (c :: cs) = (false, c :: cs) := by
    simp [exponentSign, hminus, hplus]
  rcases unifyLines_cases cs with rfl | ⟨rest, after, rfl, hafter⟩ | ⟨c, rest, rfl, -, hcons⟩
  · rfl
  · rw [hother (by decide) (by decide), unifyLeft, hafter, hother (by decide) (by decide)]
  · rw [hcons]
    by_cases hminus : c = '-'
    · subst hminus
      rfl
    · by_cases hplus : c = '+'
      · subst hplus
        rfl
      · rw [hother hminus hplus, hother hminus hplus, unifyLeft, hcons]

/-- The exponent after its mark. -/
theorem exponentPart?_cons (c : Char) (rest : List Char) :
    exponentPart? (c :: rest) =
      if c = 'e' ∨ c = 'E' then
        let sign := exponentSign rest
        let found := spanDigits sign.2
        if found.1.isEmpty then none
        else some (if sign.1 then -(digitsValue found.1 : Int) else digitsValue found.1, found.2)
      else none := rfl

theorem exponentPart?_unifyLines (cs : List Char) :
    exponentPart? (unifyLines cs) = (exponentPart? cs).map unifyLeft := by
  rcases unifyLines_cases cs with rfl | ⟨rest, after, rfl, hafter⟩ | ⟨c, rest, rfl, -, hcons⟩
  · rfl
  · rw [hafter]
    rfl
  · rw [hcons, exponentPart?_cons, exponentPart?_cons, exponentSign_unifyLines]
    simp only [unifyLeft, spanDigits_unifyLines]
    split_ifs <;> rfl

theorem length_spanDigits_le (cs : List Char) : (spanDigits cs).2.length ≤ cs.length := by
  rw [spanDigits, List.span_eq_takeWhile_dropWhile]
  exact (List.dropWhile_suffix _).length_le

theorem length_of_wholePart? {cs whole rest : List Char} (h : wholePart? cs = some (whole, rest)) :
    rest.length < cs.length := by
  unfold wholePart? at h
  split at h
  · obtain ⟨-, rfl⟩ := Prod.mk.inj (Option.some.inj h)
    simp
  · rename_i c after _
    split at h
    · rename_i hdigit
      have hspan := congrArg Prod.snd (Option.some.inj h)
      rw [spanDigits, List.span_eq_takeWhile_dropWhile] at hspan
      dsimp only at hspan
      rw [List.dropWhile_cons_of_pos hdigit] at hspan
      have hle := (@List.dropWhile_suffix Char after Char.isDigit).length_le
      rw [← hspan, List.length_cons]
      omega
    · cases h
  · cases h

theorem length_fractionPart_le (cs : List Char) : (fractionPart cs).2.length ≤ cs.length := by
  unfold fractionPart
  split
  · rename_i rest
    have hle := length_spanDigits_le rest
    dsimp only
    split
    · exact Nat.le_refl _
    · dsimp only
      rw [List.length_cons]
      omega
  · exact Nat.le_refl _

theorem length_of_exponentPart? {cs rest : List Char} {exponent : Int}
    (h : exponentPart? cs = some (exponent, rest)) : rest.length ≤ cs.length := by
  cases cs with
  | nil => cases h
  | cons c cs =>
      have hsign : (exponentSign cs).2.length ≤ cs.length := by
        unfold exponentSign
        split <;> simp
      have hspan := length_spanDigits_le (exponentSign cs).2
      rw [exponentPart?_cons] at h
      split_ifs at h
      dsimp only at h
      split_ifs at h
      · obtain ⟨-, rfl⟩ := Prod.mk.inj (Option.some.inj h)
        rw [List.length_cons]
        omega
      · obtain ⟨-, rfl⟩ := Prod.mk.inj (Option.some.inj h)
        rw [List.length_cons]
        omega

theorem length_of_readNumber {negative : Bool} {start cs rest : List Char} {value : Json}
    (h : readNumber negative start cs = .ok (value, rest)) : rest.length < cs.length := by
  unfold readNumber at h
  split at h
  · cases h
  · rename_i whole after hwhole
    have hless := length_of_wholePart? hwhole
    have hle := length_fractionPart_le after
    dsimp only at h
    split at h
    · obtain ⟨number, -, h⟩ := bind_eq_ok_iff.1 h
      obtain ⟨-, rfl⟩ := Prod.mk.inj (Except.ok.inj h)
      omega
    · rename_i exponent left hexponent
      have hle' := length_of_exponentPart? hexponent
      obtain ⟨number, -, h⟩ := bind_eq_ok_iff.1 h
      obtain ⟨-, rfl⟩ := Prod.mk.inj (Except.ok.inj h)
      omega

theorem readNumber_unifyLines {negative : Bool} {start cs rest : List Char} {value : Json}
    (h : readNumber negative start cs = .ok (value, rest)) (start' : List Char) :
    readNumber negative start' (unifyLines cs) = .ok (value, unifyLines rest) := by
  unfold readNumber at h ⊢
  rw [wholePart?_unifyLines]
  cases hwhole : wholePart? cs with
  | none =>
      rw [hwhole] at h
      cases h
  | some found =>
      obtain ⟨whole, after⟩ := found
      simp only [hwhole, Option.map_some, unifyLeft, fractionPart_unifyLines,
        exponentPart?_unifyLines] at h ⊢
      cases hexponent : exponentPart? (fractionPart after).2 with
      | none =>
          simp only [hexponent, Option.map_none, bind_eq_ok_iff] at h ⊢
          obtain ⟨number, hnumber, h⟩ := h
          obtain ⟨rfl, rfl⟩ := Prod.mk.inj (Except.ok.inj h)
          exact ⟨_, hnumber, rfl⟩
      | some exponent =>
          simp only [hexponent, Option.map_some, unifyLeft, bind_eq_ok_iff] at h ⊢
          obtain ⟨number, hnumber, h⟩ := h
          obtain ⟨rfl, rfl⟩ := Prod.mk.inj (Except.ok.inj h)
          exact ⟨_, hnumber, rfl⟩

theorem readWord?_unifyLines (cs : List Char) :
    readWord? (unifyLines cs) = (readWord? cs).map unifyLeft := by
  have hwords : ∀ word ∈ words, '\r' ∉ word.1 ∧ '\n' ∉ word.1 := by
    simp [words]
  unfold readWord?
  generalize words = words at hwords
  induction words with
  | nil => rfl
  | cons word rest ih =>
      rw [List.forall_mem_cons] at hwords
      obtain ⟨hfront, hdrop⟩ := isPrefixOf_unifyLines hwords.1.1 hwords.1.2 cs
      rw [List.findSome?_cons, List.findSome?_cons, ih hwords.2]
      cases hword : word.1.isPrefixOf cs with
      | true => simp [hfront, hword, hdrop hword, unifyLeft]
      | false => simp [hfront, hword]

theorem length_of_readWord? {cs rest : List Char} {value : Json}
    (h : readWord? cs = some (value, rest)) : rest.length < cs.length := by
  have hwords : ∀ word ∈ words, word.1 ≠ [] := by
    simp [words]
  obtain ⟨⟨word, found⟩, hmem, hword⟩ := List.exists_of_findSome?_eq_some h
  dsimp only at hword
  split_ifs at hword with hfront
  obtain ⟨-, rfl⟩ := Prod.mk.inj (Option.some.inj hword)
  have hlength := (List.isPrefixOf_iff_prefix.1 hfront).length_le
  have hpos := List.length_pos_iff.2 (hwords _ hmem)
  dsimp only at hpos
  rw [List.length_drop]
  omega

/-! ## Texts -/

theorem ne_return_of_hexValue? {c : Char} {value : Nat} (h : hexValue? c = some value) :
    c ≠ '\r' := by
  rintro rfl
  cases h

theorem unit?_unifyLines {cs rest : List Char} {unit : Nat} (h : unit? cs = some (unit, rest)) :
    unit? (unifyLines cs) = some (unit, unifyLines rest) ∧
      (unifyLines cs).length = (unifyLines rest).length + 4 := by
  unfold unit? at h
  split at h
  · split at h
    · rename_i a b c d after _ _ _ _ ha hb hc hd
      obtain ⟨rfl, rfl⟩ := Prod.mk.inj (Option.some.inj h)
      rw [unifyLines_cons (ne_return_of_hexValue? ha), unifyLines_cons (ne_return_of_hexValue? hb),
        unifyLines_cons (ne_return_of_hexValue? hc), unifyLines_cons (ne_return_of_hexValue? hd)]
      exact ⟨by simp only [unit?, ha, hb, hc, hd], rfl⟩
    · cases h
  · cases h

theorem length_of_unit? {cs rest : List Char} {unit : Nat} (h : unit? cs = some (unit, rest)) :
    cs.length = rest.length + 4 := by
  unfold unit? at h
  split at h
  · split at h
    · obtain ⟨rfl, rfl⟩ := Prod.mk.inj (Option.some.inj h)
      rfl
    · cases h
  · cases h

theorem length_unifyLines_le (cs : List Char) : (unifyLines cs).length ≤ cs.length := by
  fun_induction unifyLines cs with
  | case1 => rfl
  | case2 rest ih => simp only [List.length_cons]; omega
  | case3 rest _ ih => simp only [List.length_cons]; omega
  | case4 c rest _ _ ih => simp only [List.length_cons]; omega

theorem unicodeEscape_of_unit {cs after : List Char} {unit : Nat}
    (hunit : unit? cs = some (unit, after)) (hsome : after ≠ [])
    (hpair : ∀ rest, after ≠ '\\' :: 'u' :: rest) :
    unicodeEscape cs = .ok (charOfUnit unit, after) := by
  unfold unicodeEscape
  rw [hunit]
  split
  · rename_i h
    cases h
  · rename_i h
    cases h
    exact absurd rfl hsome
  · rename_i h
    cases h
    exact absurd rfl (hpair _)
  · rename_i h
    cases h
    rfl

/-- What a unit is read as if the characters after it begin another escape by a unit. -/
def joinUnits (high : Nat) (second : List Char) : Except ReadStop (Char × List Char) :=
  if isHighUnit high && 4 < second.length then
    match unit? second with
    | none => .error (.fault .badUnicodeEscape (second.length + 1))
    | some (low, after) =>
      if isLowUnit low then .ok (charOfPair high low, after)
      else .ok (charOfUnit high, '\\' :: 'u' :: second)
  else .ok (charOfUnit high, '\\' :: 'u' :: second)

theorem unicodeEscape_of_pair {cs second : List Char} {high : Nat}
    (hunit : unit? cs = some (high, '\\' :: 'u' :: second)) :
    unicodeEscape cs = joinUnits high second := by
  unfold unicodeEscape
  rw [hunit]
  rfl

theorem unifyLines_escape (cs : List Char) :
    unifyLines ('\\' :: 'u' :: cs) = '\\' :: 'u' :: unifyLines cs := by
  rw [unifyLines_cons (by decide), unifyLines_cons (by decide)]

theorem joinUnits_unifyLines {high : Nat} {second rest : List Char} {c : Char}
    (h : joinUnits high second = .ok (c, rest)) :
    joinUnits high (unifyLines second) = .ok (c, unifyLines rest) ∧
      (unifyLines rest).length ≤ (unifyLines second).length + 2 := by
  have hshort := length_unifyLines_le second
  unfold joinUnits at h ⊢
  split at h
  · rename_i hlong
    simp only [Bool.and_eq_true, decide_eq_true_eq] at hlong
    split at h
    · cases h
    · rename_i low after hlow
      obtain ⟨hlow', hlength'⟩ := unit?_unifyLines hlow
      have hlength := length_of_unit? hlow
      -- There is more than the second unit, so there is with the lines made to end alike.
      have hafter : after ≠ [] := by
        rintro rfl
        rw [List.length_nil] at hlength
        omega
      have hpos := List.length_pos_iff.2 (mt unifyLines_eq_nil_iff.1 hafter)
      rw [if_pos (by simp only [hlong.1, Bool.true_and, decide_eq_true_eq]; omega), hlow']
      dsimp only
      split at h
      · rename_i hislow
        obtain ⟨rfl, rfl⟩ := Prod.mk.inj (Except.ok.inj h)
        rw [if_pos hislow]
        exact ⟨rfl, by omega⟩
      · rename_i hislow
        obtain ⟨rfl, rfl⟩ := Prod.mk.inj (Except.ok.inj h)
        rw [if_neg hislow, unifyLines_escape]
        exact ⟨rfl, Nat.le_refl _⟩
  · rename_i hlong
    obtain ⟨rfl, rfl⟩ := Prod.mk.inj (Except.ok.inj h)
    simp only [Bool.and_eq_true, decide_eq_true_eq, not_and] at hlong
    have hlong' : ¬ (isHighUnit high && 4 < (unifyLines second).length) = true := by
      simp only [Bool.and_eq_true, decide_eq_true_eq, not_and]
      intro hhigh
      have := hlong hhigh
      omega
    rw [if_neg hlong', unifyLines_escape]
    exact ⟨rfl, Nat.le_refl _⟩

theorem unicodeEscape_unifyLines {cs rest : List Char} {c : Char}
    (h : unicodeEscape cs = .ok (c, rest)) :
    unicodeEscape (unifyLines cs) = .ok (c, unifyLines rest) ∧
      (unifyLines rest).length < (unifyLines cs).length := by
  cases hunit : unit? cs with
  | none =>
      rw [unicodeEscape, hunit] at h
      cases h
  | some found =>
      obtain ⟨unit, after⟩ := found
      obtain ⟨hunit', hlength⟩ := unit?_unifyLines hunit
      by_cases hpair : ∃ second, after = '\\' :: 'u' :: second
      · obtain ⟨second, rfl⟩ := hpair
        rw [unicodeEscape_of_pair hunit] at h
        rw [unifyLines_escape] at hunit' hlength
        rw [unicodeEscape_of_pair hunit']
        obtain ⟨hjoin, hle⟩ := joinUnits_unifyLines h
        simp only [List.length_cons] at hlength
        exact ⟨hjoin, by omega⟩
      · have hnot : ∀ second, after ≠ '\\' :: 'u' :: second := fun second hafter =>
          hpair ⟨second, hafter⟩
        have hsome : after ≠ [] := by
          rintro rfl
          rw [unicodeEscape, hunit] at h
          cases h
        have hnot' : ∀ second, unifyLines after ≠ '\\' :: 'u' :: second := by
          intro second hafter
          obtain ⟨first, rfl, hfirst⟩ := unifyLines_eq_cons (by decide) hafter
          obtain ⟨left, rfl, -⟩ := unifyLines_eq_cons (by decide) hfirst
          exact hnot left rfl
        rw [unicodeEscape_of_unit hunit hsome hnot] at h
        obtain ⟨rfl, rfl⟩ := Prod.mk.inj (Except.ok.inj h)
        rw [unicodeEscape_of_unit hunit' (mt unifyLines_eq_nil_iff.1 hsome) hnot']
        exact ⟨rfl, by omega⟩

/-- The forms of a character in a text: an escape by a letter, an escape by units, or the character
itself. What is left after it is given with it. -/
inductive BeginsWith : List Char → Char → List Char → Prop where
  | letter {letter c : Char} (hletter : simpleEscape? letter = some c) (rest : List Char) :
      BeginsWith ('\\' :: letter :: rest) c rest
  | units {digits rest : List Char} {c : Char} (hescape : unicodeEscape digits = .ok (c, rest)) :
      BeginsWith ('\\' :: 'u' :: digits) c rest
  | plain {c : Char} (hprintable : 0x20 ≤ c.toNat) (hquote : c ≠ '"') (hbackslash : c ≠ '\\')
      (rest : List Char) : BeginsWith (c :: rest) c rest

theorem BeginsWith.textChars {cs after : List Char} {c : Char} (h : BeginsWith cs c after)
    (left n : Nat) :
    Json.textChars left (n + 1) cs = (Json.textChars left n after).map (consRead c) := by
  cases h with
  | letter hletter => exact textChars_simple hletter left n after
  | units hescape => exact textChars_unicode hescape left n
  | plain hprintable hquote hbackslash => exact textChars_plain hprintable hquote hbackslash left n _

theorem BeginsWith.unifyLines {cs after : List Char} {c : Char} (h : BeginsWith cs c after) :
    BeginsWith (unifyLines cs) c (unifyLines after) ∧
      (Text.unifyLines after).length < (Text.unifyLines cs).length := by
  cases h with
  | @letter letter _ hletter =>
      have hreturn : letter ≠ '\r' := by
        rintro rfl
        cases hletter
      rw [unifyLines_cons (by decide), unifyLines_cons hreturn]
      exact ⟨.letter hletter _, by simp only [List.length_cons]; omega⟩
  | @units digits _ _ hescape =>
      obtain ⟨hescape', hlength⟩ := unicodeEscape_unifyLines hescape
      rw [unifyLines_escape]
      exact ⟨.units hescape', by simp only [List.length_cons]; omega⟩
  | plain hprintable hquote hbackslash =>
      have hreturn : c ≠ '\r' := by
        rintro rfl
        exact absurd hprintable (by decide)
      rw [unifyLines_cons hreturn]
      exact ⟨.plain hprintable hquote hbackslash _, by simp only [List.length_cons]; omega⟩

/-- A text that is read ends here, or it begins with a character. -/
theorem beginsWith_of_textChars {left n : Nat} {cs chars rest : List Char}
    (h : textChars left (n + 1) cs = .ok (chars, rest)) :
    cs = '"' :: rest ∧ chars = [] ∨
      ∃ c after others, BeginsWith cs c after ∧ textChars left n after = .ok (others, rest) ∧
        chars = c :: others := by
  have hbegins {c : Char} {after : List Char} (hbegins : BeginsWith cs c after) :
      ∃ c after others, BeginsWith cs c after ∧ textChars left n after = .ok (others, rest) ∧
        chars = c :: others := by
    rw [hbegins.textChars, map_eq_ok_iff] at h
    obtain ⟨⟨others, left⟩, hothers, hfound⟩ := h
    obtain ⟨rfl, rfl⟩ := Prod.mk.inj hfound
    exact ⟨c, after, others, hbegins, hothers, rfl⟩
  cases cs with
  | nil => cases h
  | cons c cs =>
      by_cases hquote : c = '"'
      · subst hquote
        obtain ⟨rfl, rfl⟩ := Prod.mk.inj (Except.ok.inj h)
        exact Or.inl ⟨rfl, rfl⟩
      · refine Or.inr ?_
        by_cases hbackslash : c = '\\'
        · subst hbackslash
          cases cs with
          | nil => cases h
          | cons letter cs =>
              by_cases hu : letter = 'u'
              · subst hu
                cases hescape : unicodeEscape cs with
                | error stop =>
                    rw [textChars, hescape] at h
                    cases h
                | ok found => exact hbegins (.units hescape)
              · cases hletter : simpleEscape? letter with
                | none =>
                    rw [textChars] at h
                    · simp only [hletter] at h
                      cases h
                    · simpa using hu
                | some c => exact hbegins (.letter hletter _)
        · by_cases hcontrol : c.toNat ≤ 0x1F
          · rw [textChars] at h
            · rw [if_pos hcontrol] at h
              cases h
            · simpa using hquote
            · simpa using hbackslash
          · exact hbegins (.plain (by omega) hquote hbackslash _)

theorem textChars_unifyLines {left n : Nat} {cs chars rest : List Char}
    (h : textChars left n cs = .ok (chars, rest)) :
    (unifyLines rest).length < (unifyLines cs).length ∧
      ∀ left' m, (unifyLines cs).length ≤ m + (unifyLines rest).length →
        textChars left' m (unifyLines cs) = .ok (chars, unifyLines rest) := by
  -- The bounds on the two sides differ: what is read takes as many steps as it has characters, and
  -- with single newlines these are counted anew.
  induction n generalizing cs chars with
  | zero => cases h
  | succ n ih =>
      rcases beginsWith_of_textChars h with
        ⟨rfl, rfl⟩ | ⟨c, after, others, hbegins, hothers, rfl⟩
      · rw [unifyLines_cons (by decide), List.length_cons]
        refine ⟨by omega, ?_⟩
        intro left' m hm
        obtain ⟨m, rfl⟩ : ∃ k, m = k + 1 := ⟨m - 1, by omega⟩
        rfl
      · obtain ⟨hbegins', hlength⟩ := hbegins.unifyLines
        obtain ⟨hshorter, hread⟩ := ih hothers
        refine ⟨by omega, ?_⟩
        intro left' m hm
        obtain ⟨m, rfl⟩ : ∃ k, m = k + 1 := ⟨m - 1, by omega⟩
        rw [hbegins'.textChars, hread left' m (by omega)]
        rfl

theorem readText_unifyLines {cs rest : List Char} {content : String}
    (h : readText cs = .ok (content, rest)) :
    readText (unifyLines cs) = .ok (content, unifyLines rest) ∧
      (unifyLines rest).length < (unifyLines cs).length := by
  obtain ⟨⟨chars, left⟩, hchars, h⟩ := bind_eq_ok_iff.1 h
  obtain ⟨rfl, rfl⟩ := Prod.mk.inj (Except.ok.inj h)
  obtain ⟨hshorter, hread⟩ := textChars_unifyLines hchars
  refine ⟨?_, hshorter⟩
  rw [readText, hread _ _ (by omega)]
  rfl

/-! ## Values -/

theorem readAtom_number {c : Char} {cs : List Char} (hword : readWord? (c :: cs) = none)
    (hquote : c ≠ '"') (hminus : c ≠ '-') :
    readAtom (c :: cs) = readNumber false (c :: cs) (c :: cs) := by
  unfold readAtom
  simp [hword, hquote, hminus]

theorem readAtom_word {cs : List Char} {found : Json × List Char} (hword : readWord? cs = some found) :
    readAtom cs = .ok found := by
  rw [readAtom.eq_def, hword]

theorem readAtom_unifyLines {cs rest : List Char} {value : Json}
    (h : readAtom cs = .ok (value, rest)) :
    readAtom (unifyLines cs) = .ok (value, unifyLines rest) ∧
      (unifyLines rest).length < (unifyLines cs).length := by
  have hword' := readWord?_unifyLines cs
  cases hword : readWord? cs with
  | some found =>
      rw [readAtom_word hword] at h
      obtain rfl := Except.ok.inj h
      rw [hword] at hword'
      exact ⟨readAtom_word hword', length_of_readWord? hword'⟩
  | none =>
      rw [hword] at hword'
      cases cs with
      | nil => cases h
      | cons c cs =>
          by_cases hreturn : c = '\r'
          · subst hreturn
            rw [readAtom_number hword (by decide) (by decide)] at h
            cases h
          · rw [unifyLines_cons hreturn] at hword' ⊢
            by_cases hquote : c = '"'
            · subst hquote
              rw [readAtom, hword] at h
              obtain ⟨⟨content, left⟩, htext, h⟩ := bind_eq_ok_iff.1 h
              obtain ⟨rfl, rfl⟩ := Prod.mk.inj (Except.ok.inj h)
              obtain ⟨htext', hshorter⟩ := readText_unifyLines htext
              refine ⟨?_, by rw [List.length_cons]; omega⟩
              rw [readAtom, hword']
              dsimp only [Option.map_none]
              rw [htext']
              rfl
            · by_cases hminus : c = '-'
              · subst hminus
                rw [readAtom, hword] at h
                have hnumber := readNumber_unifyLines h ('-' :: unifyLines cs)
                have hshorter := length_of_readNumber hnumber
                refine ⟨?_, by rw [List.length_cons]; omega⟩
                rw [readAtom, hword']
                exact hnumber
              · rw [readAtom_number hword hquote hminus] at h
                have hnumber := readNumber_unifyLines h (c :: unifyLines cs)
                rw [unifyLines_cons hreturn] at hnumber
                rw [readAtom_number hword' hquote hminus]
                exact ⟨hnumber, length_of_readNumber hnumber⟩

/-- The ways to read a value: an empty list or object, one with members, or a value without any. -/
inductive ValueRead (n : Nat) : List Char → Json → List Char → Prop where
  | emptyList {cs rest : List Char} (hclose : skipGap cs = ']' :: rest) :
      ValueRead n ('[' :: cs) (.list []) rest
  | list {cs rest : List Char} {items : List Json} (hopen : ∀ after, skipGap cs ≠ ']' :: after)
      (hitems : readItems n (skipGap cs) = .ok (items, rest)) :
      ValueRead n ('[' :: cs) (.list items) rest
  | emptyObject {cs rest : List Char} (hclose : skipGap cs = '\x7d' :: rest) :
      ValueRead n ('\x7b' :: cs) (.object []) rest
  | object {cs rest : List Char} {fields : List (String × Json)}
      (hopen : ∀ after, skipGap cs ≠ '\x7d' :: after)
      (hfields : readFields n (skipGap cs) = .ok (fields, rest)) :
      ValueRead n ('\x7b' :: cs) (.ofFields fields) rest
  | atom {cs rest : List Char} {value : Json} (hlist : cs.head? ≠ some '[')
      (hobject : cs.head? ≠ some '\x7b') (hatom : readAtom cs = .ok (value, rest)) :
      ValueRead n cs value rest

theorem readValue_atom {cs : List Char} (hlist : cs.head? ≠ some '[')
    (hobject : cs.head? ≠ some '\x7b') (n : Nat) : readValue (n + 1) cs = readAtom cs := by
  rw [readValue]
  · rintro rest rfl
    exact hlist rfl
  · rintro rest rfl
    exact hobject rfl

theorem readValue_eq_ok_iff {n : Nat} {cs rest : List Char} {value : Json} :
    readValue (n + 1) cs = .ok (value, rest) ↔ ValueRead n cs value rest := by
  constructor
  · intro h
    by_cases hlist : cs.head? = some '['
    · obtain ⟨cs, rfl⟩ := List.head?_eq_some_iff.1 hlist
      by_cases hclose : ∃ after, skipGap cs = ']' :: after
      · obtain ⟨after, hclose⟩ := hclose
        rw [readValue, hclose] at h
        obtain ⟨rfl, rfl⟩ := Prod.mk.inj (Except.ok.inj h)
        exact .emptyList hclose
      · have hopen : ∀ after, skipGap cs ≠ ']' :: after := fun after h => hclose ⟨after, h⟩
        rw [readValue_list hopen, map_eq_ok_iff] at h
        obtain ⟨⟨items, left⟩, hitems, h⟩ := h
        obtain ⟨rfl, rfl⟩ := Prod.mk.inj h
        exact .list hopen hitems
    · by_cases hobject : cs.head? = some '\x7b'
      · obtain ⟨cs, rfl⟩ := List.head?_eq_some_iff.1 hobject
        by_cases hclose : ∃ after, skipGap cs = '\x7d' :: after
        · obtain ⟨after, hclose⟩ := hclose
          rw [readValue, hclose] at h
          obtain ⟨rfl, rfl⟩ := Prod.mk.inj (Except.ok.inj h)
          exact .emptyObject hclose
        · have hopen : ∀ after, skipGap cs ≠ '\x7d' :: after := fun after h => hclose ⟨after, h⟩
          rw [readValue_object hopen, map_eq_ok_iff] at h
          obtain ⟨⟨fields, left⟩, hfields, h⟩ := h
          obtain ⟨rfl, rfl⟩ := Prod.mk.inj h
          exact .object hopen hfields
      · rw [readValue_atom hlist hobject] at h
        exact .atom hlist hobject h
  · intro h
    cases h with
    | emptyList hclose =>
        rw [readValue, hclose]
        rfl
    | list hopen hitems =>
        rw [readValue_list hopen, hitems]
        rfl
    | emptyObject hclose =>
        rw [readValue, hclose]
        rfl
    | object hopen hfields =>
        rw [readValue_object hopen, hfields]
        rfl
    | atom hlist hobject hatom => rw [readValue_atom hlist hobject, hatom]

/-- The ways to read the members of a list: a last one, or one with others after a comma. -/
inductive ItemsRead (n : Nat) : List Char → List Json → List Char → Prop where
  | last {cs after rest : List Char} {item : Json} (hitem : readValue n cs = .ok (item, after))
      (hclose : skipGap after = ']' :: rest) : ItemsRead n cs [item] rest
  | more {cs after next rest : List Char} {item : Json} {items : List Json}
      (hitem : readValue n cs = .ok (item, after)) (hcomma : skipGap after = ',' :: next)
      (hitems : readItems n (skipGap next) = .ok (items, rest)) :
      ItemsRead n cs (item :: items) rest

theorem readItems_eq_ok_iff {n : Nat} {cs rest : List Char} {items : List Json} :
    readItems (n + 1) cs = .ok (items, rest) ↔ ItemsRead n cs items rest := by
  constructor
  · intro h
    rw [readItems] at h
    obtain ⟨⟨item, after⟩, hitem, h⟩ := bind_eq_ok_iff.1 h
    dsimp only at h
    split at h
    · rename_i hclose
      obtain ⟨rfl, rfl⟩ := Prod.mk.inj (Except.ok.inj h)
      exact .last hitem hclose
    · rename_i hcomma
      obtain ⟨⟨others, left⟩, hothers, h⟩ := bind_eq_ok_iff.1 h
      obtain ⟨rfl, rfl⟩ := Prod.mk.inj (Except.ok.inj h)
      exact .more hitem hcomma hothers
    · cases h
  · intro h
    cases h with
    | last hitem hclose => exact readItems_last hitem hclose
    | more hitem hcomma hitems =>
        rw [readItems_cons hitem hcomma, hitems]
        rfl

inductive FieldRead (n : Nat) : List Char → String → Json → List Char → Prop where
  | field {cs left valueChars after : List Char} {name : String} {value : Json}
      (hname : readText cs = .ok (name, left)) (hcolon : skipGap left = ':' :: valueChars)
      (hvalue : readValue n (skipGap valueChars) = .ok (value, after)) :
      FieldRead n ('"' :: cs) name value after

/-- The ways to read the fields of an object: a last one, or one with others after a comma. -/
inductive FieldsRead (n : Nat) : List Char → List (String × Json) → List Char → Prop where
  | last {cs after rest : List Char} {name : String} {value : Json}
      (hfield : FieldRead n cs name value after) (hclose : skipGap after = '\x7d' :: rest) :
      FieldsRead n cs [(name, value)] rest
  | more {cs after next rest : List Char} {name : String} {value : Json}
      {fields : List (String × Json)} (hfield : FieldRead n cs name value after)
      (hcomma : skipGap after = ',' :: next)
      (hfields : readFields n (skipGap next) = .ok (fields, rest)) :
      FieldsRead n cs ((name, value) :: fields) rest

theorem readFields_eq_ok_iff {n : Nat} {cs rest : List Char} {fields : List (String × Json)} :
    readFields (n + 1) cs = .ok (fields, rest) ↔ FieldsRead n cs fields rest := by
  constructor
  · intro h
    rw [readFields.eq_def] at h
    dsimp only at h
    split at h
    · obtain ⟨⟨name, left⟩, hname, h⟩ := bind_eq_ok_iff.1 h
      dsimp only at h
      split at h
      · rename_i hcolon
        obtain ⟨⟨value, after⟩, hvalue, h⟩ := bind_eq_ok_iff.1 h
        have hfield := FieldRead.field hname hcolon hvalue
        dsimp only at h
        split at h
        · rename_i hclose
          obtain ⟨rfl, rfl⟩ := Prod.mk.inj (Except.ok.inj h)
          exact .last hfield hclose
        · rename_i hcomma
          obtain ⟨⟨others, left⟩, hothers, h⟩ := bind_eq_ok_iff.1 h
          obtain ⟨rfl, rfl⟩ := Prod.mk.inj (Except.ok.inj h)
          exact .more hfield hcomma hothers
        · cases h
      · cases h
    · cases h
  · intro h
    cases h with
    | last hfield hclose =>
        obtain ⟨hname, hcolon, hvalue⟩ := hfield
        rw [readFields, hname]
        simp only [bind, Except.bind, hcolon, hvalue, hclose]
        rfl
    | more hfield hcomma hfields =>
        obtain ⟨hname, hcolon, hvalue⟩ := hfield
        rw [readFields, hname]
        simp only [bind, Except.bind, hcolon, hvalue, hcomma, hfields]
        rfl

/-! ## Lines of a value -/

theorem length_unifyLines_skipGap_le (cs : List Char) :
    (unifyLines (skipGap cs)).length ≤ (unifyLines cs).length := by
  rw [← skipGap_unifyLines]
  exact (List.dropWhile_suffix isGap).length_le

theorem skipGap_unifyLines_eq_cons {c : Char} (hc : c ≠ '\r') {cs rest : List Char}
    (h : skipGap cs = c :: rest) :
    skipGap (unifyLines cs) = c :: unifyLines rest ∧
      (unifyLines rest).length < (unifyLines cs).length := by
  have hle := length_unifyLines_skipGap_le cs
  rw [h, unifyLines_cons hc, List.length_cons] at hle
  exact ⟨by rw [skipGap_unifyLines, h, unifyLines_cons hc], by omega⟩

theorem skipGap_unifyLines_ne_cons {c : Char} (hc : c ≠ '\n') {cs : List Char}
    (h : ∀ after, skipGap cs ≠ c :: after) (after : List Char) :
    skipGap (unifyLines cs) ≠ c :: after := by
  rw [skipGap_unifyLines]
  intro hafter
  obtain ⟨rest, hrest, -⟩ := unifyLines_eq_cons hc hafter
  exact h rest hrest

/-- A reader whose depth is bounded by a number: from the text whose lines are made to end in single
newlines it reads a value as it was read from a text, if the bound is not less than the number of
characters read, of which there is at least one. -/
def ReadsLines {α : Type} (read : Nat → List Char → Except ReadStop (α × List Char))
    (cs : List Char) (value : α) (rest : List Char) : Prop :=
  (unifyLines rest).length < (unifyLines cs).length ∧
    ∀ m, (unifyLines cs).length ≤ m + (unifyLines rest).length →
      read m (unifyLines cs) = .ok (value, unifyLines rest)

/-- One member is read before the bound is spent on the next ones. -/
theorem ReadsLines.intro {α : Type} {read : Nat → List Char → Except ReadStop (α × List Char)}
    {cs rest : List Char} {value : α}
    (hshorter : (unifyLines rest).length < (unifyLines cs).length)
    (hread : ∀ m, (unifyLines cs).length ≤ m + 1 + (unifyLines rest).length →
      read (m + 1) (unifyLines cs) = .ok (value, unifyLines rest)) :
    ReadsLines read cs value rest := by
  refine ⟨hshorter, ?_⟩
  intro m hm
  obtain ⟨m, rfl⟩ : ∃ k, m = k + 1 := ⟨m - 1, by omega⟩
  exact hread m hm

/-- What was read with a bound is read from the text with single newlines too. -/
structure ReadsLinesBelow (n : Nat) : Prop where
  value {cs rest : List Char} {value : Json} (h : readValue n cs = .ok (value, rest)) :
    ReadsLines readValue cs value rest
  items {cs rest : List Char} {items : List Json} (h : readItems n cs = .ok (items, rest)) :
    ReadsLines readItems cs items rest
  fields {cs rest : List Char} {fields : List (String × Json)}
    (h : readFields n cs = .ok (fields, rest)) : ReadsLines readFields cs fields rest

section Step

variable {n : Nat} {cs rest : List Char}

theorem ValueRead.readsLines {value : Json} (hbelow : ReadsLinesBelow n)
    (h : ValueRead n cs value rest) : ReadsLines readValue cs value rest := by
  cases h with
  | emptyList hclose =>
      obtain ⟨hclose', hshorter⟩ := skipGap_unifyLines_eq_cons (by decide) hclose
      refine .intro ?_ ?_
      · rw [unifyLines_cons (by decide), List.length_cons]
        omega
      · intro m hm
        rw [unifyLines_cons (by decide)]
        exact readValue_eq_ok_iff.2 (.emptyList hclose')
  | @list cs _ items hopen hitems =>
      obtain ⟨hshorter, hread⟩ := hbelow.items hitems
      have hle := length_unifyLines_skipGap_le cs
      refine .intro ?_ ?_
      · rw [unifyLines_cons (by decide), List.length_cons]
        omega
      · intro m hm
        rw [unifyLines_cons (by decide), List.length_cons] at hm
        rw [unifyLines_cons (by decide)]
        refine readValue_eq_ok_iff.2 (.list (skipGap_unifyLines_ne_cons (by decide) hopen) ?_)
        rw [skipGap_unifyLines]
        exact hread m (by omega)
  | emptyObject hclose =>
      obtain ⟨hclose', hshorter⟩ := skipGap_unifyLines_eq_cons (by decide) hclose
      refine .intro ?_ ?_
      · rw [unifyLines_cons (by decide), List.length_cons]
        omega
      · intro m hm
        rw [unifyLines_cons (by decide)]
        exact readValue_eq_ok_iff.2 (.emptyObject hclose')
  | @object cs _ fields hopen hfields =>
      obtain ⟨hshorter, hread⟩ := hbelow.fields hfields
      have hle := length_unifyLines_skipGap_le cs
      refine .intro ?_ ?_
      · rw [unifyLines_cons (by decide), List.length_cons]
        omega
      · intro m hm
        rw [unifyLines_cons (by decide), List.length_cons] at hm
        rw [unifyLines_cons (by decide)]
        refine readValue_eq_ok_iff.2 (.object (skipGap_unifyLines_ne_cons (by decide) hopen) ?_)
        rw [skipGap_unifyLines]
        exact hread m (by omega)
  | atom hlist hobject hatom =>
      obtain ⟨hatom', hshorter⟩ := readAtom_unifyLines hatom
      have hhead {c : Char} (hc : c ≠ '\n') (h : cs.head? ≠ some c) :
          (unifyLines cs).head? ≠ some c := by
        intro hother
        obtain ⟨left, hleft⟩ := List.head?_eq_some_iff.1 hother
        obtain ⟨after, rfl, -⟩ := unifyLines_eq_cons hc hleft
        exact h rfl
      refine .intro hshorter ?_
      intro m hm
      exact readValue_eq_ok_iff.2
        (.atom (hhead (by decide) hlist) (hhead (by decide) hobject) hatom')

theorem ItemsRead.readsLines {items : List Json} (hbelow : ReadsLinesBelow n)
    (h : ItemsRead n cs items rest) : ReadsLines readItems cs items rest := by
  cases h with
  | last hitem hclose =>
      obtain ⟨hshorter, hread⟩ := hbelow.value hitem
      obtain ⟨hclose', hless⟩ := skipGap_unifyLines_eq_cons (by decide) hclose
      refine .intro (by omega) ?_
      intro m hm
      exact readItems_eq_ok_iff.2 (.last (hread m (by omega)) hclose')
  | @more after next _ item items hitem hcomma hitems =>
      obtain ⟨hshorter, hread⟩ := hbelow.value hitem
      obtain ⟨hcomma', hless⟩ := skipGap_unifyLines_eq_cons (by decide) hcomma
      obtain ⟨hshorter', hread'⟩ := hbelow.items hitems
      have hle := length_unifyLines_skipGap_le next
      refine .intro (by omega) ?_
      intro m hm
      refine readItems_eq_ok_iff.2 (.more (hread m (by omega)) hcomma' ?_)
      rw [skipGap_unifyLines]
      exact hread' m (by omega)

theorem FieldRead.readsLines {name : String} {value : Json} (hbelow : ReadsLinesBelow n)
    (h : FieldRead n cs name value rest) :
    (unifyLines rest).length < (unifyLines cs).length ∧
      ∀ m, (unifyLines cs).length ≤ m + 1 + (unifyLines rest).length →
        FieldRead m (unifyLines cs) name value (unifyLines rest) := by
  obtain @⟨cs, left, valueChars, _, _, _, hname, hcolon, hvalue⟩ := h
  obtain ⟨hname', hshort⟩ := readText_unifyLines hname
  obtain ⟨hcolon', hless⟩ := skipGap_unifyLines_eq_cons (by decide) hcolon
  obtain ⟨hshorter, hread⟩ := hbelow.value hvalue
  have hle := length_unifyLines_skipGap_le valueChars
  rw [unifyLines_cons (by decide), List.length_cons]
  refine ⟨by omega, ?_⟩
  intro m hm
  refine .field hname' hcolon' ?_
  rw [skipGap_unifyLines]
  exact hread m (by omega)

theorem FieldsRead.readsLines {fields : List (String × Json)} (hbelow : ReadsLinesBelow n)
    (h : FieldsRead n cs fields rest) : ReadsLines readFields cs fields rest := by
  cases h with
  | last hfield hclose =>
      obtain ⟨hshorter, hread⟩ := hfield.readsLines hbelow
      obtain ⟨hclose', hless⟩ := skipGap_unifyLines_eq_cons (by decide) hclose
      refine .intro (by omega) ?_
      intro m hm
      exact readFields_eq_ok_iff.2 (.last (hread m (by omega)) hclose')
  | @more after next _ name value fields hfield hcomma hfields =>
      obtain ⟨hshorter, hread⟩ := hfield.readsLines hbelow
      obtain ⟨hcomma', hless⟩ := skipGap_unifyLines_eq_cons (by decide) hcomma
      obtain ⟨hshorter', hread'⟩ := hbelow.fields hfields
      have hle := length_unifyLines_skipGap_le next
      refine .intro (by omega) ?_
      intro m hm
      refine readFields_eq_ok_iff.2 (.more (hread m (by omega)) hcomma' ?_)
      rw [skipGap_unifyLines]
      exact hread' m (by omega)

end Step

theorem readsLinesBelow (n : Nat) : ReadsLinesBelow n := by
  -- The readers of values, members and fields call each other with a smaller bound, so all three
  -- are followed at once.
  induction n with
  | zero =>
      constructor
      · intro _ _ _ h
        cases h
      · intro _ _ _ h
        cases h
      · intro _ _ _ h
        cases h
  | succ n ih =>
      constructor
      · intro _ _ _ h
        exact (readValue_eq_ok_iff.1 h).readsLines ih
      · intro _ _ _ h
        exact (readItems_eq_ok_iff.1 h).readsLines ih
      · intro _ _ _ h
        exact (readFields_eq_ok_iff.1 h).readsLines ih

/-- A document that is read is read as well after its lines are made to end in single newlines. -/
theorem readChars_unifyLines {cs : List Char} {value : Json} (h : readChars cs = .ok value) :
    readChars (unifyLines cs) = .ok value := by
  unfold readChars readCharsWithin at h ⊢
  have hmark : (unifyLines cs).head? = some '\uFEFF' → cs.head? = some '\uFEFF' := by
    intro hhead
    obtain ⟨left, hleft⟩ := List.head?_eq_some_iff.1 hhead
    obtain ⟨rest, rfl, -⟩ := unifyLines_eq_cons (by decide) hleft
    rfl
  split_ifs at h with hmarked
  rw [if_neg (mt hmark hmarked)]
  obtain ⟨⟨found, rest⟩, hfound, h⟩ := bind_eq_ok_iff.1 h
  obtain ⟨-, hread⟩ := (readsLinesBelow _).value hfound
  have hle := length_unifyLines_skipGap_le cs
  rw [skipGap_unifyLines, hread _ (by omega)]
  dsimp only at h
  split at h
  · rename_i hend
    simp only [bind, Except.bind, skipGap_unifyLines, hend]
    exact h
  · cases h

end RefFilter.Json
