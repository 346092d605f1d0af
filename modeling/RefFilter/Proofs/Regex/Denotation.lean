import Mathlib
import RefFilter.Regex.Matcher

/-! # Languages of expressions

A part denotes a language if it succeeds at a spot exactly when a word of the language comes next
and what follows succeeds after that word. Nothing else of the spot plays a role, and the order in
which the matcher tries the words is invisible. The statements below give the language of a
sequence, of alternatives and of an unbounded greedy loop from those of their parts; a full match
is then membership in the language.
-/

namespace RefFilter.Regex

open scoped Computability

def Spot.advance (spot : Spot) (word left : List Char) : Spot :=
  { spot with
    position := spot.position + word.length
    before := word.reverse ++ spot.before
    after := left }

theorem Spot.advance_nil {spot : Spot} {left : List Char} (h : spot.after = left) :
    spot.advance [] left = spot := by
  subst h
  rfl

@[simp] theorem Spot.advance_after (spot : Spot) (word left : List Char) :
    (spot.advance word left).after = left := rfl

theorem Spot.advance_advance (spot : Spot) (word more middle left : List Char) :
    (spot.advance word middle).advance more left = spot.advance (word ++ more) left := by
  simp [Spot.advance, Nat.add_assoc]

theorem Spot.advance_position_eq_iff (spot : Spot) (word left : List Char) :
    (spot.advance word left).position = spot.position ↔ word = [] := by
  simp [Spot.advance]

/-- The words that lead a part from a spot to what follows are those of a language. -/
def Part.Denotes (part : Part) (language : Language Char) : Prop :=
  ∀ (spot : Spot) (rest : Rest), (part spot rest).isSome ↔
    ∃ word left, spot.after = word ++ left ∧ word ∈ language ∧
      (rest (spot.advance word left)).isSome

namespace Part

variable {part first second : Part} {language more : Language Char}

/-! ## Parts of parts -/

theorem denotes_empty : Denotes (fun spot rest => rest spot) 1 := by
  intro spot rest
  constructor
  · intro h
    exact ⟨[], spot.after, rfl, Language.nil_mem_one, h⟩
  · intro h
    rcases h with ⟨word, left, hafter, hword, h⟩
    rw [Language.mem_one] at hword
    subst hword
    have hstay : spot.after = left := hafter
    rwa [Spot.advance_nil hstay] at h

theorem Denotes.seq (hfirst : first.Denotes language) (hsecond : second.Denotes more) :
    Denotes (fun spot rest => first spot fun next => second next rest) (language * more) := by
  intro spot rest
  dsimp only
  rw [hfirst spot]
  constructor
  · intro h
    rcases h with ⟨word, left, hafter, hword, h⟩
    obtain ⟨word', left', hafter', hword', h'⟩ := (hsecond _ rest).1 h
    rw [Spot.advance_after] at hafter'
    rw [Spot.advance_advance] at h'
    refine ⟨word ++ word', left', ?_, Language.append_mem_mul hword hword', h'⟩
    rw [hafter, hafter', List.append_assoc]
  · intro h
    rcases h with ⟨whole, left, hafter, hwhole, h⟩
    obtain ⟨word, hword, word', hword', rfl⟩ := Language.mem_mul.1 hwhole
    refine ⟨word, word' ++ left, by rw [hafter, List.append_assoc], hword, ?_⟩
    refine (hsecond _ rest).2 ⟨word', left, rfl, hword', ?_⟩
    rwa [Spot.advance_advance]

theorem Denotes.alt (hfirst : first.Denotes language) (hsecond : second.Denotes more) :
    Denotes (fun spot rest => (first spot rest).or (second spot rest)) (language + more) := by
  intro spot rest
  dsimp only
  rw [Option.isSome_or, Bool.or_eq_true, hfirst spot, hsecond spot]
  constructor
  · rintro (⟨word, left, hafter, hword, h⟩ | ⟨word, left, hafter, hword, h⟩)
    · exact ⟨word, left, hafter, Or.inl hword, h⟩
    · exact ⟨word, left, hafter, Or.inr hword, h⟩
  · intro h
    rcases h with ⟨word, left, hafter, hword | hword, h⟩
    · exact Or.inl ⟨word, left, hafter, hword, h⟩
    · exact Or.inr ⟨word, left, hafter, hword, h⟩

/-! ## Loops -/

/-- A turn that reads a word leaves less than there was, so the bound on the turns is never what
ends them. -/
theorem Denotes.greedyTurns (hpart : part.Denotes language) (turns : Nat) (spot : Spot)
    (rest : Rest) (hturns : spot.after.length ≤ turns) :
    (part.greedyTurns turns spot rest).isSome ↔
      ∃ word left, spot.after = word ++ left ∧ word ∈ language∗ ∧
        (rest (spot.advance word left)).isSome := by
  induction turns generalizing spot with
  | zero =>
      have hnil : spot.after = [] := List.length_eq_zero_iff.1 (by omega)
      constructor
      · intro h
        exact ⟨[], spot.after, rfl, Language.nil_mem_kstar _, h⟩
      · intro h
        rcases h with ⟨word, left, hafter, -, h⟩
        obtain ⟨rfl, rfl⟩ := List.append_eq_nil_iff.1 (hafter.symm.trans hnil)
        rwa [Spot.advance_nil hnil] at h
  | succ turns ih =>
      rw [Part.greedyTurns, Option.isSome_or, Bool.or_eq_true, hpart spot]
      constructor
      · rintro (⟨word, left, hafter, hword, h⟩ | h)
        · by_cases hnil : word = []
          · subst hnil
            rw [if_pos ((Spot.advance_position_eq_iff _ _ _).2 rfl)] at h
            exact ⟨[], left, hafter, Language.nil_mem_kstar _, h⟩
          · rw [if_neg (mt (Spot.advance_position_eq_iff _ _ _).1 hnil)] at h
            have hlength : left.length ≤ turns := by
              have hpos := List.length_pos_iff.2 hnil
              rw [hafter, List.length_append] at hturns
              omega
            obtain ⟨word', left', hafter', hword', h'⟩ := (ih _ hlength).1 h
            rw [Spot.advance_after] at hafter'
            rw [Spot.advance_advance] at h'
            refine ⟨word ++ word', left', ?_, ?_, h'⟩
            · rw [hafter, hafter', List.append_assoc]
            · rw [← Language.one_add_self_mul_kstar_eq_kstar]
              exact Or.inr (Language.append_mem_mul hword hword')
        · exact ⟨[], spot.after, rfl, Language.nil_mem_kstar _, h⟩
      · intro h
        rcases h with ⟨whole, left, hafter, hwhole, h⟩
        obtain ⟨words, rfl, hwords⟩ := Language.mem_kstar_iff_exists_nonempty.1 hwhole
        cases words with
        | nil =>
            right
            have hstay : spot.after = left := hafter
            rwa [List.flatten_nil, Spot.advance_nil hstay] at h
        | cons word words =>
            left
            obtain ⟨hword, hne⟩ := hwords word List.mem_cons_self
            rw [List.flatten_cons, List.append_assoc] at hafter
            refine ⟨word, words.flatten ++ left, hafter, hword, ?_⟩
            rw [if_neg (mt (Spot.advance_position_eq_iff _ _ _).1 hne)]
            have hlength : (words.flatten ++ left).length ≤ turns := by
              have hpos := List.length_pos_iff.2 hne
              rw [hafter, List.length_append] at hturns
              omega
            refine (ih _ hlength).2 ⟨words.flatten, left, rfl, ?_, ?_⟩
            · exact Language.join_mem_kstar fun w hw => (hwords w (List.mem_cons_of_mem _ hw)).1
            · rwa [Spot.advance_advance]

theorem Denotes.star (hpart : part.Denotes language) :
    Denotes (part.looped .greedy 0 none) language∗ := fun spot rest =>
  hpart.greedyTurns _ spot rest (Nat.le_succ _)

end Part

/-! ## Expressions -/

variable {text : List Char} {regex first second : Regex} {language more : Language Char}

/-- Where it runs does not matter for what an expression denotes. -/
def Denotes (regex : Regex) (language : Language Char) : Prop :=
  ∀ text, (run text regex).Denotes language

theorem denotes_empty : Denotes .empty 1 := fun _ => Part.denotes_empty

theorem denotes_char (test : CharTest) :
    Denotes (.char test) {word | ∃ c, word = [c] ∧ test.accepts c = true} := by
  intro text spot rest
  constructor
  · intro h
    cases hafter : spot.after with
    | nil => simp [run, Spot.next?, hafter] at h
    | cons c after =>
        by_cases hc : test.accepts c = true
        · refine ⟨[c], after, rfl, ⟨c, rfl, hc⟩, ?_⟩
          simpa [run, Spot.next?, Spot.advance, hafter, hc] using h
        · simp [run, Spot.next?, hafter, hc] at h
  · intro h
    rcases h with ⟨word, left, hafter, ⟨c, rfl, hc⟩, h⟩
    simpa [run, Spot.next?, Spot.advance, hafter, hc] using h

theorem Denotes.seq (hfirst : first.Denotes language) (hsecond : second.Denotes more) :
    Denotes (.seq first second) (language * more) := fun text =>
  (hfirst text).seq (hsecond text)

theorem Denotes.alt (hfirst : first.Denotes language) (hsecond : second.Denotes more) :
    Denotes (.alt first second) (language + more) := fun text =>
  (hfirst text).alt (hsecond text)

theorem Denotes.star (hregex : regex.Denotes language) :
    Denotes (.loop .greedy 0 none regex) language∗ := fun text => (hregex text).star

/-- A full match is membership in the language. -/
theorem Denotes.fullMatch_iff (hregex : regex.Denotes language) (text : List Char) :
    regex.fullMatch text = true ↔ text ∈ language := by
  rw [fullMatch, hregex text]
  constructor
  · intro h
    rcases h with ⟨word, left, hafter, hword, h⟩
    have hleft : left = [] := by
      by_contra hne
      simp [List.isEmpty_iff, hne] at h
    have htext : text = word := by rwa [hleft, List.append_nil] at hafter
    rwa [htext]
  · intro h
    exact ⟨text, [], (List.append_nil text).symm, h, by simp⟩

end RefFilter.Regex
