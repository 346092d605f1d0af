import RefFilter.Proofs.Regex.Denotation
import RefFilter.Regex.Outline
import RefFilter.Regex.Parse
import RefFilter.Wildcard

/-! # Regular expressions

The expressions that stand for regular languages: characters, points, groups that capture nothing,
unbounded greedy loops, sequences and alternatives. An expression has a text, a language in the
usual sense, and the parts that reading it makes. The main statement is that the parts denote the
language, whatever the order of the alternatives and however the loops are nested.
-/

namespace RefFilter.Regex

open scoped Computability

/-- Where an expression may stand: under a loop, in a sequence, as a sequence, or as a whole. -/
inductive Grade where
  | atom
  | item
  | branch
  | whole

/-- How the parts of an expression are put together: those of a whole are its branches. -/
def Grade.assemble : Grade → List Regex → Regex
  | .whole => alternation
  | .atom | .item | .branch => sequence

/-- A regular expression. Only a group lets alternatives stand in a sequence or under a loop, so
the text needs no other parentheses. -/
inductive Regular : Grade → Type where
  | char (c : Char) : Regular .atom
  | point : Regular .atom
  | group (body : Regular .whole) : Regular .atom
  | once (atom : Regular .atom) : Regular .item
  | star (atom : Regular .atom) : Regular .item
  | nil : Regular .branch
  | cons (item : Regular .item) (rest : Regular .branch) : Regular .branch
  | last (branch : Regular .branch) : Regular .whole
  | bar (branch : Regular .branch) (rest : Regular .whole) : Regular .whole

namespace Regular

variable {grade : Grade}

def text : {grade : Grade} → Regular grade → List Char
  | _, char c => Wildcard.escapeChar c
  | _, point => ['.']
  | _, group body => '(' :: '?' :: ':' :: (text body ++ [')'])
  | _, once atom => text atom
  | _, star atom => text atom ++ ['*']
  | _, nil => []
  | _, cons item rest => text item ++ text rest
  | _, last branch => text branch
  | _, bar branch rest => text branch ++ '|' :: text rest

/-- The words that a point stands for: one character, the newline only where `newline` holds. -/
def pointWords (newline : Bool) : Language Char :=
  {word | ∃ c, word = [c] ∧ (newline = true ∨ c ≠ '\n')}

def language (newline : Bool) : {grade : Grade} → Regular grade → Language Char
  | _, char c => {[c]}
  | _, point => pointWords newline
  | _, group body => language newline body
  | _, once atom => language newline atom
  | _, star atom => (language newline atom)∗
  | _, nil => 1
  | _, cons item rest => language newline item * language newline rest
  | _, last branch => language newline branch
  | _, bar branch rest => language newline branch + language newline rest

/-- The parts of an expression under given flags; a whole has a part for each branch. -/
def pieces (flags : Flags) : {grade : Grade} → Regular grade → List Piece
  | _, char c => [⟨Reader.literal flags c.toNat, false⟩]
  | _, point => [⟨.char (.any (flags.contains .dotAll)), false⟩]
  | _, group body => [⟨alternation ((pieces flags body).map Piece.regex), true⟩]
  | _, once atom => pieces flags atom
  | _, star atom =>
    (pieces flags atom).map fun piece => ⟨.loop .greedy 0 none piece.regex, false⟩
  | _, nil => []
  | _, cons item rest => pieces flags item ++ pieces flags rest
  | _, last branch => [⟨sequence ((pieces flags branch).map Piece.regex), false⟩]
  | _, bar branch rest =>
    ⟨sequence ((pieces flags branch).map Piece.regex), false⟩ :: pieces flags rest

def tree (flags : Flags) (regular : Regular grade) : Regex :=
  grade.assemble ((regular.pieces flags).map Piece.regex)

/-! ## Parts -/

theorem pieces_atom (flags : Flags) (atom : Regular .atom) :
    ∃ closed, atom.pieces flags = [⟨atom.tree flags, closed⟩] ∧
      (closed = false → ∃ test, atom.tree flags = .char test) := by
  cases atom with
  | char c => exact ⟨false, rfl, fun _ => ⟨_, rfl⟩⟩
  | point => exact ⟨false, rfl, fun _ => ⟨_, rfl⟩⟩
  | group body => exact ⟨true, rfl, fun h => by cases h⟩

theorem tree_star (flags : Flags) (atom : Regular .atom) :
    (star atom).tree flags = .loop .greedy 0 none (atom.tree flags) := by
  obtain ⟨closed, hatom, -⟩ := atom.pieces_atom flags
  rw [tree, pieces, hatom]
  rfl

theorem pieces_item (flags : Flags) (item : Regular .item) :
    (item.pieces flags).map Piece.regex = [item.tree flags] := by
  cases item with
  | once atom =>
      obtain ⟨closed, hatom, -⟩ := atom.pieces_atom flags
      rw [pieces, hatom]
      rfl
  | star atom =>
      obtain ⟨closed, hatom, -⟩ := atom.pieces_atom flags
      rw [tree_star, pieces, hatom]
      rfl

theorem pieces_whole_ne_nil (flags : Flags) (whole : Regular .whole) :
    whole.pieces flags ≠ [] := by
  cases whole <;> simp [pieces]

end Regular

/-! ## Languages of sequences and alternatives -/

variable {regex : Regex} {rest : List Regex} {language more : Language Char}

theorem Denotes.sequence_cons (hregex : regex.Denotes language)
    (hrest : (sequence rest).Denotes more) :
    (sequence (regex :: rest)).Denotes (language * more) := by
  cases rest with
  | nil =>
      intro text
      exact (hregex text).seq (hrest text)
  | cons next rest => exact hregex.seq hrest

theorem Denotes.alternation_cons (hregex : regex.Denotes language)
    (hrest : (alternation rest).Denotes more) (hne : rest ≠ []) :
    (alternation (regex :: rest)).Denotes (language + more) := by
  cases rest with
  | nil => exact absurd rfl hne
  | cons next rest => exact hregex.alt hrest

/-- With case in force a literal stands for its own character only. -/
theorem denotes_literal {flags : Flags} (hcase : Flag.ignoreCase ∉ flags) (c : Char) :
    (Reader.literal flags c.toNat).Denotes {[c]} := by
  have hword : ({[c]} : Language Char) = {word | ∃ d, word = [d] ∧
      (CharTest.one c.toNat false flags.reading).accepts d = true} := by
    ext word
    have haccepts (d : Char) :
        (CharTest.one c.toNat false flags.reading).accepts d = true ↔ d = c := by
      simp [CharTest.accepts, CharTest.acceptsCode, Flags.reading, hcase, Char.toNat_inj]
    simp only [haccepts]
    constructor
    · intro h
      exact ⟨c, h, rfl⟩
    · intro h
      rcases h with ⟨d, h, rfl⟩
      exact h
  rw [hword]
  exact denotes_char _

theorem denotes_point (newline : Bool) :
    Denotes (.char (.any newline)) (Regular.pointWords newline) := by
  have hword : Regular.pointWords newline =
      {word | ∃ c, word = [c] ∧ (CharTest.any newline).accepts c = true} := by
    have hcode (c : Char) : c.toNat ≠ 0x0A ↔ c ≠ '\n' := by
      rw [Ne, Ne, ← Char.toNat_inj]
      rfl
    ext word
    simp [Regular.pointWords, CharTest.accepts, CharTest.acceptsCode, hcode]
  rw [hword]
  exact denotes_char _

/-- What reading an expression makes denotes its language. -/
theorem Regular.denotes_tree {flags : Flags} (hcase : Flag.ignoreCase ∉ flags)
    {grade : Grade} (regular : Regular grade) :
    (regular.tree flags).Denotes (regular.language (flags.contains .dotAll)) := by
  induction regular with
  | char c => exact denotes_literal hcase c
  | point => exact denotes_point _
  | group body ih => exact ih
  | once atom ih => exact ih
  | star atom ih =>
      rw [tree_star]
      exact ih.star
  | nil => exact denotes_empty
  | cons item rest ihItem ihRest =>
      have hparts : ((cons item rest).pieces flags).map Piece.regex =
          item.tree flags :: (rest.pieces flags).map Piece.regex := by
        rw [pieces, List.map_append, pieces_item, List.singleton_append]
      rw [tree, hparts]
      exact ihItem.sequence_cons ihRest
  | last branch ih => exact ih
  | bar branch rest ihBranch ihRest =>
      exact ihBranch.alternation_cons ihRest (by simp [pieces_whole_ne_nil])

end RefFilter.Regex
