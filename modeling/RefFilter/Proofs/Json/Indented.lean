import RefFilter.Proofs.Json.Text

/-! # Written documents are read back

A document of texts, lists and objects is written on several lines. The reader skips the end of a
line and the indentation after it, and every member begins with a character that is no gap and
closes nothing, so the members come back one by one. What is written holds printable ASCII and ends
of lines only.
-/

namespace RefFilter.Json

open Text

/-! ## Gaps -/

theorem skipGap_of_not_gap {c : Char} (hc : isGap c = false) (cs : List Char) :
    skipGap (c :: cs) = c :: cs := by
  rw [skipGap, List.dropWhile_cons_of_neg (by simp [hc])]

theorem skipGap_newLine (depth : Nat) {c : Char} (hc : isGap c = false) (cs : List Char) :
    skipGap (newLine depth ++ c :: cs) = c :: cs := by
  have hgap : ∀ d ∈ newLine depth, isGap d = true := by
    intro d hd
    rcases List.mem_cons.1 hd with rfl | hd
    · decide
    · rw [List.eq_of_mem_replicate hd]
      decide
  rw [skipGap, List.dropWhile_append_of_pos hgap]
  exact skipGap_of_not_gap hc cs

/-! ## Members -/

theorem readValue_list {cs : List Char} (hopen : ∀ after, skipGap cs ≠ ']' :: after) (n : Nat) :
    readValue (n + 1) ('[' :: cs) =
      (readItems n (skipGap cs)).map fun found => (.list found.1, found.2) := by
  rw [readValue]
  split
  · rename_i after h
    exact absurd h (hopen after)
  · cases readItems n (skipGap cs) <;> rfl

theorem readValue_object {cs : List Char} (hopen : ∀ after, skipGap cs ≠ '\x7d' :: after)
    (n : Nat) :
    readValue (n + 1) ('\x7b' :: cs) =
      (readFields n (skipGap cs)).map fun found => (.ofFields found.1, found.2) := by
  rw [readValue]
  split
  · rename_i after h
    exact absurd h (hopen after)
  · cases readFields n (skipGap cs) <;> rfl

theorem readItems_last {n : Nat} {cs rest after : List Char} {item : Json}
    (hitem : readValue n cs = .ok (item, rest)) (hrest : skipGap rest = ']' :: after) :
    readItems (n + 1) cs = .ok ([item], after) := by
  rw [readItems, hitem]
  simp only [bind, Except.bind, hrest]
  rfl

theorem readItems_cons {n : Nat} {cs rest after : List Char} {item : Json}
    (hitem : readValue n cs = .ok (item, rest)) (hrest : skipGap rest = ',' :: after) :
    readItems (n + 1) cs =
      (readItems n (skipGap after)).map fun found => (item :: found.1, found.2) := by
  rw [readItems, hitem]
  simp only [bind, Except.bind, hrest]
  cases readItems n (skipGap after) <;> rfl

theorem readFields_last {n : Nat} {cs rest after : List Char} (name : String) {value : Json}
    (hvalue : readValue n (skipGap cs) = .ok (value, rest))
    (hrest : skipGap rest = '\x7d' :: after) :
    readFields (n + 1) (writeText name ++ ':' :: ' ' :: cs) = .ok ([(name, value)], after) := by
  have hcolon : skipGap (':' :: ' ' :: cs) = ':' :: ' ' :: cs := skipGap_of_not_gap (by decide) _
  have hblank : skipGap (' ' :: cs) = skipGap cs := rfl
  have htext : writeText name ++ ':' :: ' ' :: cs =
      '"' :: (name.toList.flatMap escapeChar ++ '"' :: ':' :: ' ' :: cs) := by simp [writeText]
  rw [htext, readFields, readText_flatMap]
  simp only [bind, Except.bind, hcolon, hblank, hvalue, hrest]
  rfl

theorem readFields_cons {n : Nat} {cs rest after : List Char} (name : String) {value : Json}
    (hvalue : readValue n (skipGap cs) = .ok (value, rest))
    (hrest : skipGap rest = ',' :: after) :
    readFields (n + 1) (writeText name ++ ':' :: ' ' :: cs) =
      (readFields n (skipGap after)).map fun found => ((name, value) :: found.1, found.2) := by
  have hcolon : skipGap (':' :: ' ' :: cs) = ':' :: ' ' :: cs := skipGap_of_not_gap (by decide) _
  have hblank : skipGap (' ' :: cs) = skipGap cs := rfl
  have htext : writeText name ++ ':' :: ' ' :: cs =
      '"' :: (name.toList.flatMap escapeChar ++ '"' :: ':' :: ' ' :: cs) := by simp [writeText]
  rw [htext, readFields, readText_flatMap]
  simp only [bind, Except.bind, hcolon, hblank, hvalue, hrest]
  cases readFields n (skipGap after) <;> rfl

/-! ## Objects -/

theorem put_of_new {fields : List (String × Json)} {name : String} (value : Json)
    (hnew : name ∉ fields.map Prod.fst) : put fields name value = fields ++ [(name, value)] := by
  induction fields with
  | nil => rfl
  | cons field rest ih =>
      rw [List.map_cons, List.mem_cons, not_or] at hnew
      rw [put, if_neg (Ne.symm hnew.1), ih hnew.2, List.cons_append]

private theorem foldl_put_of_distinct (fields done : List (String × Json))
    (hdistinct : ((done ++ fields).map Prod.fst).Nodup) :
    fields.foldl (fun done field => put done field.1 field.2) done = done ++ fields := by
  induction fields generalizing done with
  | nil => exact (List.append_nil done).symm
  | cons field rest ih =>
      have hnew : field.1 ∉ done.map Prod.fst := by
        rw [List.map_append, List.map_cons, List.nodup_append] at hdistinct
        exact fun hmem => hdistinct.2.2 _ hmem _ List.mem_cons_self rfl
      rw [List.foldl_cons, put_of_new _ hnew, ih _ (by simpa using hdistinct)]
      simp

/-- Fields with distinct names stay as they are. -/
theorem ofFields_of_distinct {fields : List (String × Json)}
    (hdistinct : (fields.map Prod.fst).Nodup) : ofFields fields = .object fields :=
  congrArg Json.object (foldl_put_of_distinct fields [] hdistinct)

/-! ## Values -/

/-- A document of texts, lists, and objects in which no name comes twice. -/
inductive Textual : Json → Prop where
  | text (s : String) : Textual (.text s)
  | list {items : List Json} (hitems : ∀ item ∈ items, Textual item) : Textual (.list items)
  | object {fields : List (String × Json)} (hdistinct : (fields.map Prod.fst).Nodup)
      (hfields : ∀ field ∈ fields, Textual field.2) : Textual (.object fields)

/-- A value is read back from its written form at every depth, whatever follows. The written form
begins with a character that neither fills a gap nor closes a list. -/
structure Readable (value : Json) : Prop where
  head : ∀ depth, ∃ c cs, indentChars depth value = c :: cs ∧ isGap c = false ∧ c ≠ ']'
  read : ∀ depth n rest, (indentChars depth value).length ≤ n →
    readValue n (indentChars depth value ++ rest) = .ok (value, rest)

theorem Readable.skipGap_newLine {value : Json} (h : Readable value) (outer depth : Nat)
    (rest : List Char) :
    skipGap (newLine outer ++ (indentChars depth value ++ rest)) =
      indentChars depth value ++ rest := by
  obtain ⟨c, cs, hchars, hgap, -⟩ := h.head depth
  rw [hchars, List.cons_append]
  exact Json.skipGap_newLine outer hgap _

theorem Readable.skipGap {value : Json} (h : Readable value) (depth : Nat) (rest : List Char) :
    skipGap (indentChars depth value ++ rest) = indentChars depth value ++ rest := by
  obtain ⟨c, cs, hchars, hgap, -⟩ := h.head depth
  rw [hchars, List.cons_append]
  exact skipGap_of_not_gap hgap _

theorem length_newLine_pos (depth : Nat) : 0 < (newLine depth).length := by
  rw [newLine, List.length_cons]
  omega

theorem indentItems_cons (depth : Nat) (item next : Json) (rest : List Json) :
    indentItems depth (item :: next :: rest) =
      newLine depth ++ (indentChars depth item ++ ',' :: indentItems depth (next :: rest)) := by
  rw [indentItems, List.append_assoc]
  simp

theorem indentFields_cons (depth : Nat) (name : String) (value : Json)
    (next : String × Json) (rest : List (String × Json)) :
    indentFields depth ((name, value) :: next :: rest) =
      newLine depth ++ (writeText name ++ ':' :: ' ' ::
        (indentChars depth value ++ ',' :: indentFields depth (next :: rest))) := by
  rw [indentFields]
  · simp
  · simp

theorem skipGap_writeText (outer : Nat) (name : String) (rest : List Char) :
    skipGap (newLine outer ++ (writeText name ++ rest)) = writeText name ++ rest :=
  skipGap_newLine outer (by decide) _

theorem skipGap_indentItems {item : Json} (hitem : Readable item) (others : List Json)
    (depth : Nat) (rest : List Char) :
    ∃ left, skipGap (indentItems depth (item :: others) ++ rest) =
      indentChars depth item ++ left := by
  cases others with
  | nil =>
      rw [indentItems, List.append_assoc, hitem.skipGap_newLine]
      exact ⟨rest, rfl⟩
  | cons next others =>
      rw [indentItems_cons, List.append_assoc, List.append_assoc, hitem.skipGap_newLine]
      exact ⟨_, rfl⟩

theorem skipGap_indentFields (name : String) (value : Json) (others : List (String × Json))
    (depth : Nat) (rest : List Char) :
    ∃ left, skipGap (indentFields depth ((name, value) :: others) ++ rest) =
      writeText name ++ left := by
  cases others with
  | nil =>
      rw [indentFields, List.append_assoc, List.append_assoc, skipGap_writeText]
      exact ⟨_, rfl⟩
  | cons next others =>
      rw [indentFields_cons, List.append_assoc, List.append_assoc, skipGap_writeText]
      exact ⟨_, rfl⟩

theorem readItems_indentItems {items : List Json} (hitems : ∀ item ∈ items, Readable item)
    (hsome : items ≠ []) {n : Nat} (depth : Nat) (hn : (indentItems depth items).length ≤ n)
    (outer : Nat) (rest : List Char) :
    readItems n (skipGap (indentItems depth items ++ (newLine outer ++ ']' :: rest))) =
      .ok (items, rest) := by
  have hline := length_newLine_pos depth
  induction items generalizing n with
  | nil => exact absurd rfl hsome
  | cons item others ih =>
      rw [List.forall_mem_cons] at hitems
      obtain ⟨hitem, hothers⟩ := hitems
      cases others with
      | nil =>
          rw [indentItems, List.length_append] at hn
          obtain ⟨m, rfl⟩ : ∃ m, n = m + 1 := ⟨n - 1, by omega⟩
          rw [indentItems, List.append_assoc, hitem.skipGap_newLine]
          refine readItems_last (hitem.read depth m _ (by omega)) ?_
          exact skipGap_newLine outer (by decide) rest
      | cons next others =>
          rw [indentItems_cons, List.length_append, List.length_append, List.length_cons] at hn
          obtain ⟨m, rfl⟩ : ∃ m, n = m + 1 := ⟨n - 1, by omega⟩
          rw [indentItems_cons, List.append_assoc, List.append_assoc, hitem.skipGap_newLine,
            List.cons_append,
            readItems_cons (hitem.read depth m _ (by omega)) (skipGap_of_not_gap (by decide) _),
            ih hothers (by simp) (by omega)]
          rfl

theorem readFields_indentFields {fields : List (String × Json)}
    (hfields : ∀ field ∈ fields, Readable field.2) (hsome : fields ≠ []) {n : Nat} (depth : Nat)
    (hn : (indentFields depth fields).length ≤ n) (outer : Nat) (rest : List Char) :
    readFields n (skipGap (indentFields depth fields ++ (newLine outer ++ '\x7d' :: rest))) =
      .ok (fields, rest) := by
  have hline := length_newLine_pos depth
  induction fields generalizing n with
  | nil => exact absurd rfl hsome
  | cons field others ih =>
      rw [List.forall_mem_cons] at hfields
      obtain ⟨hvalue, hothers⟩ := hfields
      obtain ⟨name, value⟩ := field
      cases others with
      | nil =>
          rw [indentFields, List.length_append, List.length_append, List.length_cons,
            List.length_cons] at hn
          obtain ⟨m, rfl⟩ : ∃ m, n = m + 1 := ⟨n - 1, by omega⟩
          rw [indentFields, List.append_assoc, List.append_assoc, skipGap_writeText,
            List.cons_append, List.cons_append]
          have hlength : (indentChars depth value).length ≤ m := by omega
          refine readFields_last name ?_ (skipGap_newLine outer (by decide) rest)
          rw [hvalue.skipGap]
          exact hvalue.read depth m _ hlength
      | cons next others =>
          rw [indentFields_cons, List.length_append, List.length_append, List.length_cons,
            List.length_cons, List.length_append, List.length_cons] at hn
          obtain ⟨m, rfl⟩ : ∃ m, n = m + 1 := ⟨n - 1, by omega⟩
          have hlength : (indentChars depth value).length ≤ m := by omega
          have hread (after : List Char) :
              readValue m (skipGap (indentChars depth value ++ after)) = .ok (value, after) := by
            rw [hvalue.skipGap]
            exact hvalue.read depth m after hlength
          rw [indentFields_cons, List.append_assoc, List.append_assoc, skipGap_writeText,
            List.cons_append, List.cons_append, List.append_assoc, List.cons_append,
            readFields_cons name (hread _) (skipGap_of_not_gap (by decide) _),
            ih hothers (by simp) (by omega)]
          rfl

theorem readable_text (s : String) : Readable (.text s) := by
  constructor
  · intro depth
    exact ⟨'"', s.toList.flatMap escapeChar ++ ['"'], rfl, by decide, by decide⟩
  · intro depth n rest hn
    have hchars : indentChars depth (.text s) ++ rest =
        '"' :: (s.toList.flatMap escapeChar ++ '"' :: rest) := by
      simp [indentChars, writeAtom, writeText]
    obtain ⟨m, rfl⟩ : ∃ m, n = m + 1 :=
      ⟨n - 1, by simp [indentChars, writeAtom, writeText] at hn; omega⟩
    have hword : readWord? ('"' :: (s.toList.flatMap escapeChar ++ '"' :: rest)) = none := rfl
    rw [hchars, readValue, readAtom, hword]
    · simp only [readText_flatMap]
      rfl
    · simp
    · simp

theorem readable_list {items : List Json} (hitems : ∀ item ∈ items, Readable item) :
    Readable (.list items) := by
  cases items with
  | nil =>
      constructor
      · intro depth
        exact ⟨'[', [']'], rfl, by decide, by decide⟩
      · intro depth n rest hn
        obtain ⟨m, rfl⟩ : ∃ m, n = m + 1 := ⟨n - 1, by simp [indentChars] at hn; omega⟩
        rfl
  | cons item others =>
      have hchars (depth : Nat) : indentChars depth (.list (item :: others)) =
          '[' :: (indentItems (depth + 1) (item :: others) ++ (newLine depth ++ [']'])) := by
        rw [indentChars, List.append_assoc, List.cons_append]
        simp
      constructor
      · intro depth
        exact ⟨'[', _, hchars depth, by decide, by decide⟩
      · intro depth n rest hn
        rw [hchars, List.length_cons, List.length_append] at hn
        obtain ⟨m, rfl⟩ : ∃ m, n = m + 1 := ⟨n - 1, by omega⟩
        have hread := readItems_indentItems hitems (by simp) (n := m) (depth + 1) (by omega)
          depth rest
        rw [hchars, List.cons_append, List.append_assoc, List.append_assoc, List.singleton_append,
          readValue_list, hread]
        · rfl
        · intro after hclose
          obtain ⟨left, hleft⟩ := skipGap_indentItems (hitems item List.mem_cons_self) others
            (depth + 1) (newLine depth ++ ']' :: rest)
          obtain ⟨c, cs, hhead, -, hopen⟩ := (hitems item List.mem_cons_self).head (depth + 1)
          rw [hleft, hhead, List.cons_append, List.cons.injEq] at hclose
          exact hopen hclose.1

theorem readable_object {fields : List (String × Json)}
    (hdistinct : (fields.map Prod.fst).Nodup) (hfields : ∀ field ∈ fields, Readable field.2) :
    Readable (.object fields) := by
  cases fields with
  | nil =>
      constructor
      · intro depth
        exact ⟨'\x7b', ['\x7d'], rfl, by decide, by decide⟩
      · intro depth n rest hn
        obtain ⟨m, rfl⟩ : ∃ m, n = m + 1 := ⟨n - 1, by simp [indentChars] at hn; omega⟩
        rfl
  | cons field others =>
      obtain ⟨name, value⟩ := field
      have hchars (depth : Nat) : indentChars depth (.object ((name, value) :: others)) =
          '\x7b' :: (indentFields (depth + 1) ((name, value) :: others) ++
            (newLine depth ++ ['\x7d'])) := by
        rw [indentChars, List.append_assoc, List.cons_append]
        simp
      constructor
      · intro depth
        exact ⟨'\x7b', _, hchars depth, by decide, by decide⟩
      · intro depth n rest hn
        rw [hchars, List.length_cons, List.length_append] at hn
        obtain ⟨m, rfl⟩ : ∃ m, n = m + 1 := ⟨n - 1, by omega⟩
        have hread := readFields_indentFields hfields (by simp) (n := m) (depth + 1) (by omega)
          depth rest
        rw [hchars, List.cons_append, List.append_assoc, List.append_assoc, List.singleton_append,
          readValue_object, hread]
        · exact congrArg (fun value => Except.ok (value, rest)) (ofFields_of_distinct hdistinct)
        · intro after hclose
          obtain ⟨left, hleft⟩ := skipGap_indentFields name value others (depth + 1)
            (newLine depth ++ '\x7d' :: rest)
          rw [hleft] at hclose
          cases hclose

theorem Textual.readable {value : Json} (h : Textual value) : Readable value := by
  induction h with
  | text s => exact readable_text s
  | list _ ih => exact readable_list ih
  | object hdistinct _ ih => exact readable_object hdistinct ih

/-! ## Characters of written documents -/

/-- A character of a written document: printable ASCII, or the end of a line. -/
def IsWritten (c : Char) : Prop := c = '\n' ∨ 0x20 ≤ c.toNat ∧ c.toNat < 0x7F

instance (c : Char) : Decidable (IsWritten c) := inferInstanceAs (Decidable (_ ∨ _))

theorem isWritten_hexDigits (n width : Nat) : ∀ c ∈ hexDigits width n, IsWritten c := by
  have hdigit : ∀ n < 16, IsWritten (hexDigit n) := by decide
  induction width generalizing n with
  | zero => simp [hexDigits]
  | succ width ih =>
      rw [hexDigits, List.forall_mem_append]
      exact ⟨ih _, List.forall_mem_singleton.2 (hdigit _ (Nat.mod_lt _ (by decide)))⟩

theorem isWritten_escapeUnit (n : Nat) : ∀ c ∈ escapeUnit n, IsWritten c := by
  rw [escapeUnit, List.forall_mem_cons, List.forall_mem_cons]
  exact ⟨by decide, by decide, isWritten_hexDigits n 4⟩

theorem isWritten_escapeChar (d : Char) : ∀ c ∈ escapeChar d, IsWritten c := by
  have hsimple {letter : Char} (hletter : IsWritten letter) :
      ∀ c ∈ ['\\', letter], IsWritten c :=
    List.forall_mem_cons.2 ⟨by decide, List.forall_mem_singleton.2 hletter⟩
  unfold escapeChar
  split_ifs with hquote hbackslash hnewline hreturn htab hback hfeed hprintable hunit
  · exact hsimple (by decide)
  · exact hsimple (by decide)
  · exact hsimple (by decide)
  · exact hsimple (by decide)
  · exact hsimple (by decide)
  · exact hsimple (by decide)
  · exact hsimple (by decide)
  · exact List.forall_mem_singleton.2 (Or.inr hprintable)
  · exact isWritten_escapeUnit _
  · exact List.forall_mem_append.2 ⟨isWritten_escapeUnit _, isWritten_escapeUnit _⟩

theorem isWritten_writeText (s : String) : ∀ c ∈ writeText s, IsWritten c := by
  rw [writeText, List.forall_mem_append, List.forall_mem_cons]
  refine ⟨⟨by decide, ?_⟩, List.forall_mem_singleton.2 (by decide)⟩
  intro c hc
  obtain ⟨d, -, hd⟩ := List.mem_flatMap.1 hc
  exact isWritten_escapeChar d c hd

theorem isWritten_newLine (depth : Nat) : ∀ c ∈ newLine depth, IsWritten c := by
  rw [newLine, List.forall_mem_cons]
  refine ⟨by decide, ?_⟩
  intro c hc
  rw [List.eq_of_mem_replicate hc]
  decide

theorem isWritten_indentItems {items : List Json}
    (hitems : ∀ item ∈ items, ∀ depth, ∀ c ∈ indentChars depth item, IsWritten c) (depth : Nat) :
    ∀ c ∈ indentItems depth items, IsWritten c := by
  induction items with
  | nil => simp [indentItems]
  | cons item others ih =>
      rw [List.forall_mem_cons] at hitems
      cases others with
      | nil =>
          rw [indentItems, List.forall_mem_append]
          exact ⟨isWritten_newLine depth, hitems.1 depth⟩
      | cons next others =>
          rw [indentItems_cons, List.forall_mem_append, List.forall_mem_append,
            List.forall_mem_cons]
          exact ⟨isWritten_newLine depth, hitems.1 depth, by decide, ih hitems.2⟩

theorem isWritten_indentFields {fields : List (String × Json)}
    (hfields : ∀ field ∈ fields, ∀ depth, ∀ c ∈ indentChars depth field.2, IsWritten c)
    (depth : Nat) : ∀ c ∈ indentFields depth fields, IsWritten c := by
  induction fields with
  | nil => simp [indentFields]
  | cons field others ih =>
      rw [List.forall_mem_cons] at hfields
      obtain ⟨name, value⟩ := field
      cases others with
      | nil =>
          rw [indentFields, List.forall_mem_append, List.forall_mem_append, List.forall_mem_cons,
            List.forall_mem_cons]
          exact ⟨⟨isWritten_newLine depth, isWritten_writeText name⟩, by decide, by decide,
            hfields.1 depth⟩
      | cons next others =>
          rw [indentFields_cons, List.forall_mem_append, List.forall_mem_append,
            List.forall_mem_cons, List.forall_mem_cons, List.forall_mem_append,
            List.forall_mem_cons]
          exact ⟨isWritten_newLine depth, isWritten_writeText name, by decide, by decide,
            hfields.1 depth, by decide, ih hfields.2⟩

theorem Textual.isWritten {value : Json} (h : Textual value) :
    ∀ depth, ∀ c ∈ indentChars depth value, IsWritten c := by
  induction h with
  | text s =>
      intro depth
      exact isWritten_writeText s
  | @list items _ ih =>
      intro depth
      cases items with
      | nil =>
          rw [indentChars, List.forall_mem_cons]
          exact ⟨by decide, List.forall_mem_singleton.2 (by decide)⟩
      | cons item others =>
          rw [indentChars, List.forall_mem_append, List.forall_mem_append, List.forall_mem_cons]
          · exact ⟨⟨⟨by decide, isWritten_indentItems ih (depth + 1)⟩, isWritten_newLine depth⟩,
              List.forall_mem_singleton.2 (by decide)⟩
          · simp
  | @object fields _ _ ih =>
      intro depth
      cases fields with
      | nil =>
          rw [indentChars, List.forall_mem_cons]
          exact ⟨by decide, List.forall_mem_singleton.2 (by decide)⟩
      | cons field others =>
          rw [indentChars, List.forall_mem_append, List.forall_mem_append, List.forall_mem_cons]
          · exact ⟨⟨⟨by decide, isWritten_indentFields ih (depth + 1)⟩, isWritten_newLine depth⟩,
              List.forall_mem_singleton.2 (by decide)⟩
          · simp

/-! ## Documents -/

/-- A document is read back from its written form. -/
theorem readChars_writeIndented {value : Json} (h : Textual value) :
    readChars value.writeIndented.toList = .ok value := by
  obtain ⟨c, cs, hchars, hgap, -⟩ := h.readable.head 0
  have hread := h.readable.read 0 (2 * (indentChars 0 value).length + 2) [] (by omega)
  have hmark : (indentChars 0 value).head? ≠ some '\uFEFF' := by
    intro hhead
    have hmem : '\uFEFF' ∈ indentChars 0 value := List.mem_of_mem_head? hhead
    exact absurd (h.isWritten 0 _ hmem) (by decide)
  rw [List.append_nil] at hread
  have hskip : skipGap (indentChars 0 value) = indentChars 0 value := by
    rw [hchars]
    exact skipGap_of_not_gap hgap cs
  rw [writeIndented, String.toList_ofList, readChars, readCharsWithin, if_neg hmark, hskip, hread]
  rfl

end RefFilter.Json
