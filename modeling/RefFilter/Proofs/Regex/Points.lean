import RefFilter.Proofs.Regex.Reading

/-! # What a point stands for

A point stands for any character, or for any but the newline. A flag group in front of an expression
chooses the first, and the expression is then read as if the flag had been on from the start. Which
of the two is chosen is seen in words with a newline only.
-/

namespace RefFilter.Regex

namespace Reader

/-! ## The flag group -/

theorem run_dotAll (position : Nat) (rest : List Token) (hrest : rest.head? ≠ some .loneBackslash) :
    (plain (.start []) '(').run
        ⟨position + 1, .plain '?' :: .plain 's' :: .plain ')' :: rest⟩ =
      .ok (.start [.dotAll], ⟨position + 4, rest⟩) := by
  have hget (cursor : Cursor) : (get : Reader Cursor).run cursor = .ok (cursor, cursor) := rfl
  have hplain (cursor : Cursor) :
      (plain (.start []) '(').run cursor = (openParenthesis (.start [])).run cursor := rfl
  have hremaining (cursor : Cursor) :
      remaining.run cursor = .ok (cursor.tokens.length, cursor) := rfl
  have hon (n : Nat) : (flagsOn (n + 1) .dotAll []).run ⟨position + 3, .plain ')' :: rest⟩ =
      .ok (([.dotAll], ')'), ⟨position + 4, rest⟩) := by
    rw [flagsOn, if_neg (by decide), if_neg (by simp), run_bind_ok (run_take _ _ _ hrest)]
    rfl
  have hedit : (flagEdit (some .dotAll)).run ⟨position + 3, .plain ')' :: rest⟩ =
      .ok (.whole [.dotAll], ⟨position + 4, rest⟩) := by
    unfold flagEdit
    dsimp only
    rw [run_bind_ok (hremaining _), run_bind_ok (hon _)]
    rfl
  rw [hplain, openParenthesis, run_bind_ok (hget _), run_bind_ok (run_accept _ _ _ (by simp)),
    if_pos rfl, extension, run_bind_ok (run_take _ _ _ (by simp))]
  show (flagGroup (.start []) position (some .dotAll)).run ⟨position + 3, .plain ')' :: rest⟩ = _
  rw [flagGroup, run_bind_ok hedit]
  rfl

/-- After the group the reader is where it would have begun with the flag on. -/
theorem readsText_dotAll {cs : List Char} (hcs : cs ≠ ['\\']) :
    ReadsText (.start []) ('(' :: '?' :: 's' :: ')' :: cs) (.start [.dotAll]) cs := by
  intro position
  refine ⟨position + 4, ?_⟩
  rw [ofChars_plain (by decide), ofChars_plain (by decide), ofChars_plain (by decide),
    ofChars_plain (by decide)]
  have hstart : Simple (.start []) := ⟨by simp [Outline.start], by simp [Outline.start]⟩
  refine Reads.of_step ?_ (by simp only [List.length_cons]; omega) fun hparen => by cases hparen
  rw [step_plain hstart _ _ _ (by simp), run_dotAll _ _ (mt (head?_ofChars cs) hcs)]

end Reader

/-- An expression behind the flag group is read with the flag on. -/
theorem parse_dotAll (whole : Regular .whole) :
    parse [] (String.ofList ('(' :: '?' :: 's' :: ')' :: whole.text)) =
      .ok (whole.tree [.dotAll]) :=
  (Reader.readsText_dotAll (Reader.text_ne_loneBackslash whole)).parse_whole (by simp) (by simp)

/-! ## Words without a newline -/

namespace Regular

/-- A word without a newline that is in the language is there whatever a point stands for. -/
theorem mem_language_of_mem {grade : Grade} (regular : Regular grade) {newline : Bool}
    (newline' : Bool) {word : List Char} (hword : '\n' ∉ word)
    (h : word ∈ regular.language newline) : word ∈ regular.language newline' := by
  induction regular generalizing word with
  | char c => exact h
  | point =>
      obtain ⟨c, rfl, -⟩ := h
      have hc : c ≠ '\n' := fun hc => hword (hc ▸ List.mem_singleton_self c)
      exact ⟨c, rfl, .inr hc⟩
  | group body ih => exact ih hword h
  | once atom ih => exact ih hword h
  | star atom ih =>
      -- The turns of a loop are words without a newline, as the whole is.
      obtain ⟨turns, rfl, hturns⟩ := Language.mem_kstar.1 h
      refine Language.mem_kstar.2 ⟨turns, rfl, fun turn hturn => ih ?_ (hturns turn hturn)⟩
      exact fun hmem => hword (List.mem_flatten.2 ⟨turn, hturn, hmem⟩)
  | nil => exact h
  | cons item rest ihItem ihRest =>
      obtain ⟨first, hfirst, second, hsecond, rfl⟩ := Language.mem_mul.1 h
      rw [List.mem_append, not_or] at hword
      exact Language.append_mem_mul (ihItem hword.1 hfirst) (ihRest hword.2 hsecond)
  | last branch ih => exact ih hword h
  | bar branch rest ihBranch ihRest => exact h.imp (ihBranch hword) (ihRest hword)

theorem mem_language_congr {grade : Grade} (regular : Regular grade) (newline newline' : Bool)
    {word : List Char} (hword : '\n' ∉ word) :
    word ∈ regular.language newline ↔ word ∈ regular.language newline' :=
  ⟨regular.mem_language_of_mem newline' hword, regular.mem_language_of_mem newline hword⟩

end Regular

end RefFilter.Regex
