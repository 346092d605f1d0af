import RefFilter.Proofs.Regex.Reading
import RefFilter.Text.Trim

/-! # Texts without operators

A text in which no character is an operator is read as its characters one after another, whatever
else they are. White space holds no operator, so a blank text is an expression like any other.
-/

namespace RefFilter.Regex

namespace Reader

variable {outline : Outline}

def literalPiece (flags : Flags) (c : Char) : Piece := ⟨literal flags c.toNat, false⟩

theorem readsText_literals (h : Simple outline) {text : List Char}
    (htext : ∀ c ∈ text, c ∉ operators) :
    ReadsText outline text (extend outline (text.map (literalPiece outline.flags))) [] := by
  induction text generalizing outline with
  | nil => exact .refl outline []
  | cons c rest ih =>
      rw [List.forall_mem_cons] at htext
      have hbackslash : c ≠ '\\' := by
        rintro rfl
        exact htext.1 (by decide)
      have hparenthesis : c ≠ ')' := by
        rintro rfl
        exact htext.1 (by decide)
      have hrest : rest ≠ ['\\'] := by
        rintro rfl
        exact htext.2 '\\' (List.mem_singleton_self _) (by decide)
      have hfirst : ReadsText outline (c :: rest) (extend outline [literalPiece outline.flags c])
          rest :=
        .of_plain h hbackslash hrest (fun hclose => absurd hclose hparenthesis) fun _ =>
          plain_literal htext.1 _
      have hsecond := ih (h.extend [literalPiece outline.flags c]) htext.2
      have hextend : extend (extend outline [literalPiece outline.flags c])
          (rest.map (literalPiece outline.flags)) =
            extend outline ((c :: rest).map (literalPiece outline.flags)) := by
        simp [extend]
      rw [← hextend]
      exact hfirst.trans hsecond

end Reader

/-- A text without operators is read as its characters. -/
theorem parse_literals {flags : Flags} (hflags : ∀ flag ∈ flags, flag = .dotAll) {text : String}
    (htext : ∀ c ∈ text.toList, c ∉ Reader.operators) :
    parse flags text =
      .ok (sequence (text.toList.map fun c => Reader.literal flags c.toNat)) := by
  have hstart : Reader.Simple (.start flags) := ⟨hflags, fun _ h => absurd h List.not_mem_nil⟩
  have hlone : text.toList ≠ ['\\'] := by
    intro hback
    rw [hback] at htext
    exact htext '\\' (List.mem_singleton_self _) (by decide)
  let outline := Reader.extend (.start flags) (text.toList.map (Reader.literalPiece flags))
  have hread : Reader.ReadsText (.start flags) text.toList outline [] :=
    Reader.readsText_literals hstart htext
  have hsimple : Reader.Simple outline := hstart.extend _
  have hbody : outline.body =
      sequence (text.toList.map fun c => Reader.literal flags c.toNat) := by
    rw [Reader.body_eq (hsimple.not_mem_flags (by decide))]
    simp [outline, Reader.extend, Outline.start, Outline.branch, alternation, Reader.literalPiece,
      Function.comp_def]
  have hdefect : defect? false outline.body = none := by
    rw [hbody]
    apply defect?_sequence
    intro part hpart
    obtain ⟨c, -, rfl⟩ := List.mem_map.1 hpart
    rfl
  have hparse := hread.parse_eq hlone hsimple rfl rfl hdefect
  rwa [String.ofList_toList, hbody] at hparse

/-- White space is no operator, so a blank text is an expression. -/
theorem exists_parse_of_blank {text : String} (hblank : Text.isBlankText text = true) :
    ∃ regex, parse [] text = .ok regex := by
  have hoperators : Reader.operators.all (fun c => !Text.isSpace c) = true := by decide
  have htext : ∀ c ∈ text.toList, c ∉ Reader.operators := by
    intro c hmem hoperator
    have hspace : Text.isSpace c = true := List.all_eq_true.1 hblank c hmem
    have hnone := List.all_eq_true.1 hoperators c hoperator
    rw [hspace] at hnone
    cases hnone
  exact ⟨_, parse_literals (by simp) htext⟩

end RefFilter.Regex
