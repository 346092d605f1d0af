import RefFilter.Proofs.Regex.Regular

/-! # Reading regular expressions

The text of a regular expression is read without a fault, and what is read is the tree of the
expression. A run of the reader is followed place by place: reading goes on from an outline at one
place to an outline at a later one, whatever bound on the steps is left, and such stretches
compose. Each constructor of a regular expression is one stretch.
-/

namespace RefFilter.Regex

namespace Reader

variable {α β : Type}

/-! ## Tokens -/

theorem ofChars_plain {c : Char} (hc : c ≠ '\\') (cs : List Char) :
    Token.ofChars (c :: cs) = .plain c :: Token.ofChars cs := by
  cases cs <;> simp [Token.ofChars, hc]

theorem ofChars_escape (c : Char) (cs : List Char) :
    Token.ofChars ('\\' :: c :: cs) = .escape c :: Token.ofChars cs := by
  simp [Token.ofChars]

theorem head?_ofChars (cs : List Char) :
    (Token.ofChars cs).head? = some .loneBackslash → cs = ['\\'] := by
  intro h
  match cs with
  | [] => simp [Token.ofChars] at h
  | [c] =>
      by_cases hc : c = '\\'
      · rw [hc]
      · simp [Token.ofChars, hc] at h
  | c :: d :: rest =>
      by_cases hc : c = '\\' <;> simp [Token.ofChars, hc] at h

theorem plain_of_head?_ofChars {cs : List Char} {c : Char}
    (h : (Token.ofChars cs).head? = some (.plain c)) : cs.head? = some c := by
  match cs with
  | [] => simp [Token.ofChars] at h
  | [d] =>
      by_cases hd : d = '\\' <;> simp [Token.ofChars, hd] at h
      simp [h]
  | d :: e :: rest =>
      by_cases hd : d = '\\' <;> simp [Token.ofChars, hd] at h
      simp [h]

/-! ## Single readers -/

theorem run_bind_ok {first : Reader α} {next : α → Reader β} {cursor cursor' : Cursor} {value : α}
    (h : first.run cursor = .ok (value, cursor')) :
    (first >>= next).run cursor = (next value).run cursor' := by
  rw [StateT.run_bind, h]
  rfl

theorem run_peek (cursor : Cursor) : peek.run cursor = .ok (cursor.tokens.head?, cursor) := rfl

theorem run_take (position : Nat) (token : Token) (rest : List Token)
    (hrest : rest.head? ≠ some .loneBackslash) :
    take.run ⟨position, token :: rest⟩ = .ok (some token, ⟨position + token.width, rest⟩) := by
  cases rest with
  | nil => rfl
  | cons next rest =>
      cases next with
      | plain c => rfl
      | escape c => rfl
      | loneBackslash => exact absurd rfl hrest

theorem run_accept_other {c : Char} {cursor : Cursor}
    (h : cursor.tokens.head? ≠ some (.plain c)) : (accept c).run cursor = .ok (false, cursor) := by
  rw [accept, run_bind_ok (run_peek cursor), if_neg h]
  rfl

theorem run_accept (position : Nat) (c : Char) (rest : List Token)
    (hrest : rest.head? ≠ some .loneBackslash) :
    (accept c).run ⟨position, .plain c :: rest⟩ = .ok (true, ⟨position + 1, rest⟩) := by
  rw [accept, run_bind_ok (run_peek _), List.head?_cons, if_pos rfl,
    run_bind_ok (run_take _ _ _ hrest)]
  rfl

/-! ## Steps

Only two things of an outline matter to how the text of a regular expression is read: the flags,
of which none but the one of the point is on, and that every open parenthesis groups and does
nothing else. -/

/-- No flag is on but that of the point, and every open parenthesis only groups. -/
structure Simple (outline : Outline) : Prop where
  flags : ∀ flag ∈ outline.flags, flag = .dotAll
  frames : ∀ frame ∈ outline.frames, frame.opening = .plain

variable {outline : Outline}

theorem Simple.not_mem_flags (h : Simple outline) {flag : Flag} (hflag : flag ≠ .dotAll) :
    flag ∉ outline.flags := fun hmem => hflag (h.flags flag hmem)

theorem Simple.choiceComplete (h : Simple outline) : choiceComplete outline = false := by
  unfold Reader.choiceComplete
  split
  · rename_i hframes
    have hopening := h.frames _ (hframes ▸ List.mem_cons_self)
    cases hopening
  · rfl

theorem step_plain (h : Simple outline) (position : Nat) (c : Char) (rest : List Token)
    (hrest : rest.head? ≠ some .loneBackslash) :
    (step outline).run ⟨position, .plain c :: rest⟩ =
      (plain outline c).run ⟨position + 1, rest⟩ := by
  have hverbose : Flag.verbose ∉ outline.flags := h.not_mem_flags (by decide)
  rw [step, run_bind_ok (run_peek _), if_neg (by simp [h.choiceComplete]),
    run_bind_ok (run_take _ _ _ hrest)]
  simp [hverbose, Token.width]

theorem step_escape (h : Simple outline) (position : Nat) (c : Char) (rest : List Token)
    (hrest : rest.head? ≠ some .loneBackslash) :
    (step outline).run ⟨position, .escape c :: rest⟩ =
      (outline.add <$> escape outline c).run ⟨position + 2, rest⟩ := by
  rw [step, run_bind_ok (run_peek _), if_neg (by simp [h.choiceComplete]),
    run_bind_ok (run_take _ _ _ hrest)]
  rfl

/-- A special character after a backslash stands for itself. -/
theorem escape_special {c : Char} (hc : c ∈ Wildcard.specialChars) (cursor : Cursor) :
    (escape outline c).run cursor = .ok (literal outline.flags c.toNat, cursor) := by
  fin_cases hc <;> rfl

/-- The characters that do not stand for themselves where no escape is before them. -/
def operators : List Char :=
  ['[', '*', '+', '?', '\x7b', '.', '(', ')', '|', '^', '$', '\\']

/-- A character that is no operator stands for itself. -/
theorem plain_literal {c : Char} (hc : c ∉ operators) (cursor : Cursor) :
    (plain outline c).run cursor =
      .ok (outline.add (literal outline.flags c.toNat), cursor) := by
  unfold plain
  rw [run_bind_ok (show (get : Reader Cursor).run cursor = .ok (cursor, cursor) from rfl)]
  split
  case h_12 => rfl
  all_goals exact absurd (by decide) hc

theorem operators_subset : operators ⊆ Wildcard.specialChars := by
  decide

/-- A part in parentheses or a single character may be repeated. Without a mark after it the star
takes as many turns as possible. -/
theorem run_quantify_star {regex : Regex} {closed : Bool} {parts : List Piece} (here : Nat)
    (cursor : Cursor) (hpieces : outline.pieces = ⟨regex, closed⟩ :: parts)
    (hregex : closed = false → ∃ test, regex = .char test)
    (hlazy : cursor.tokens.head? ≠ some (.plain '?'))
    (hkept : cursor.tokens.head? ≠ some (.plain '+')) :
    (quantify outline here 0 none).run cursor =
      .ok ({ outline with pieces := ⟨.loop .greedy 0 none regex, false⟩ :: parts }, cursor) := by
  have hgreed : greed.run cursor = .ok (.greedy, cursor) := by
    rw [greed, run_bind_ok (run_accept_other hlazy), if_neg (by decide),
      run_bind_ok (run_accept_other hkept)]
    rfl
  unfold quantify
  rw [hpieces]
  cases closed with
  | true =>
      dsimp only
      rw [run_bind_ok hgreed]
      rfl
  | false =>
      obtain ⟨test, rfl⟩ := hregex rfl
      dsimp only
      rw [run_bind_ok hgreed]
      rfl

theorem run_bar (h : Simple outline) (cursor : Cursor) :
    (bar outline).run cursor = .ok (outline.nextBranch, cursor) := by
  unfold bar
  split
  · rename_i frame frames hframes
    have hopening : frame.opening = .plain := h.frames _ (hframes ▸ List.mem_cons_self)
    rw [hopening]
    rfl
  · rfl

/-! ## Stretches -/

/-- Reading goes on from an outline at one place to an outline at a later place, whatever bound on
the steps there is after it. -/
def Reads (outline : Outline) (cursor : Cursor) (outline' : Outline) (cursor' : Cursor) : Prop :=
  ∃ count, count + cursor'.tokens.length ≤ cursor.tokens.length ∧
    ∀ n, (steps (n + count) outline).run cursor = (steps n outline').run cursor'

variable {outline' outline'' : Outline} {cursor cursor' cursor'' : Cursor}

theorem Reads.refl (outline : Outline) (cursor : Cursor) :
    Reads outline cursor outline cursor := ⟨0, by omega, fun _ => rfl⟩

theorem Reads.trans (hfirst : Reads outline cursor outline' cursor')
    (hsecond : Reads outline' cursor' outline'' cursor'') :
    Reads outline cursor outline'' cursor'' := by
  obtain ⟨first, hlength, hfirst⟩ := hfirst
  obtain ⟨second, hlength', hsecond⟩ := hsecond
  refine ⟨second + first, by omega, fun n => ?_⟩
  rw [← Nat.add_assoc, hfirst, hsecond]

/-- One step is a stretch, unless it would close a parenthesis that was not opened. -/
theorem Reads.of_step {position : Nat} {token : Token} {rest : List Token}
    (hstep : (step outline).run ⟨position, token :: rest⟩ = .ok (outline', cursor'))
    (hlength : cursor'.tokens.length ≤ rest.length)
    (hclose : token = .plain ')' → outline.frames ≠ []) :
    Reads outline ⟨position, token :: rest⟩ outline' cursor' := by
  refine ⟨1, by simp only [List.length_cons]; omega, fun n => ?_⟩
  have hgo : ¬(token = .plain ')' ∧ outline.frames = []) := fun h => hclose h.1 h.2
  have hget : (get : Reader Cursor).run ⟨position, token :: rest⟩ =
      .ok (⟨position, token :: rest⟩, ⟨position, token :: rest⟩) := rfl
  rw [steps, run_bind_ok hget]
  dsimp only
  rw [if_neg hgo, run_bind_ok hstep]

/-- A stretch up to the end of the pattern is what reading the pattern does. -/
theorem Reads.steps_eq {position : Nat} (h : Reads outline cursor outline' ⟨position, []⟩) :
    (steps cursor.tokens.length outline).run cursor = .ok (outline', ⟨position, []⟩) := by
  obtain ⟨count, hlength, h⟩ := h
  have hcount : cursor.tokens.length = (cursor.tokens.length - count) + count := by
    simp only [List.length_nil] at hlength
    omega
  rw [hcount, h]
  cases cursor.tokens.length - count <;> rfl

/-- Reading a text goes on up to where another one is left, wherever in the pattern it stands. -/
def ReadsText (outline : Outline) (cs : List Char) (outline' : Outline) (cs' : List Char) : Prop :=
  ∀ position, ∃ position',
    Reads outline ⟨position, Token.ofChars cs⟩ outline' ⟨position', Token.ofChars cs'⟩

variable {cs cs' cs'' : List Char} {c : Char}

theorem ReadsText.refl (outline : Outline) (cs : List Char) : ReadsText outline cs outline cs :=
  fun position => ⟨position, Reads.refl _ _⟩

theorem ReadsText.trans (hfirst : ReadsText outline cs outline' cs')
    (hsecond : ReadsText outline' cs' outline'' cs'') :
    ReadsText outline cs outline'' cs'' := by
  intro position
  obtain ⟨position', hfirst⟩ := hfirst position
  obtain ⟨position'', hsecond⟩ := hsecond position'
  exact ⟨position'', hfirst.trans hsecond⟩

/-- A character that takes no further tokens is a stretch of its own. -/
theorem ReadsText.of_plain (h : Simple outline) (hc : c ≠ '\\') (hcs : cs ≠ ['\\'])
    (hclose : c = ')' → outline.frames ≠ [])
    (hplain : ∀ position, (plain outline c).run ⟨position, Token.ofChars cs⟩ =
      .ok (outline', ⟨position, Token.ofChars cs⟩)) :
    ReadsText outline (c :: cs) outline' cs := by
  intro position
  refine ⟨position + 1, ?_⟩
  rw [ofChars_plain hc]
  refine Reads.of_step ?_ (Nat.le_refl _) fun hparen => hclose (Token.plain.inj hparen)
  rw [step_plain h _ _ _ (mt (head?_ofChars cs) hcs), hplain]

/-! ## Texts of regular expressions -/

/-- A text that may come after any part: no mark of greed begins it, and it is no lone
backslash. -/
structure Follows (cs : List Char) : Prop where
  notLone : cs ≠ ['\\']
  notLazy : cs.head? ≠ some '?'
  notKept : cs.head? ≠ some '+'

theorem follows_nil : Follows [] := ⟨by simp, by simp, by simp⟩

theorem follows_cons (hback : c ≠ '\\') (hlazy : c ≠ '?') (hkept : c ≠ '+') (cs : List Char) :
    Follows (c :: cs) := ⟨by simp [hback], by simp [hlazy], by simp [hkept]⟩

theorem follows_escapeChar (c : Char) (cs : List Char) :
    Follows (Wildcard.escapeChar c ++ cs) := by
  by_cases hc : c ∈ Wildcard.specialChars
  · simp only [Wildcard.escapeChar, List.contains_iff_mem, hc, if_true]
    exact ⟨by simp, by simp, by simp⟩
  · simp only [Wildcard.escapeChar, List.contains_iff_mem, hc, if_false, List.singleton_append]
    refine follows_cons ?_ ?_ ?_ cs <;> rintro rfl <;> exact hc (by decide)

theorem follows_text {grade : Grade} (regular : Regular grade) (hcs : Follows cs) :
    Follows (regular.text ++ cs) := by
  induction regular generalizing cs with
  | char c => exact follows_escapeChar c cs
  | point => exact follows_cons (by decide) (by decide) (by decide) cs
  | group body _ => exact follows_cons (by decide) (by decide) (by decide) _
  | once atom ih => exact ih hcs
  | star atom ih =>
      rw [Regular.text, List.append_assoc]
      exact ih (follows_cons (by decide) (by decide) (by decide) cs)
  | nil => exact hcs
  | cons item rest ihItem ihRest =>
      rw [Regular.text, List.append_assoc]
      exact ihItem (ihRest hcs)
  | last branch ih => exact ih hcs
  | bar branch rest ihBranch _ =>
      rw [Regular.text, List.append_assoc]
      exact ihBranch (follows_cons (by decide) (by decide) (by decide) _)

theorem readsText_char (h : Simple outline) (c : Char) (hcs : cs ≠ ['\\']) :
    ReadsText outline (Wildcard.escapeChar c ++ cs)
      (outline.add (literal outline.flags c.toNat)) cs := by
  by_cases hc : c ∈ Wildcard.specialChars
  · simp only [Wildcard.escapeChar, List.contains_iff_mem, hc, if_true, List.cons_append,
      List.nil_append]
    intro position
    refine ⟨position + 2, ?_⟩
    rw [ofChars_escape]
    refine Reads.of_step ?_ (Nat.le_refl _) fun hparen => by cases hparen
    rw [step_escape h _ _ _ (mt (head?_ofChars cs) hcs), StateT.run_map, escape_special hc]
    rfl
  · simp only [Wildcard.escapeChar, List.contains_iff_mem, hc, if_false, List.singleton_append]
    refine .of_plain h ?_ hcs ?_ fun position => plain_literal (mt (@operators_subset c) hc) _
    · rintro rfl
      exact hc (by decide)
    · rintro rfl
      exact absurd (by decide) hc

def extend (outline : Outline) (parts : List Piece) : Outline :=
  { outline with pieces := parts.reverse ++ outline.pieces }

/-- What reading an expression does to an outline: its parts join the current branch, or, for a
whole that begins a branch, its branches join the branches. -/
def Extends (outline outline' : Outline) : {grade : Grade} → Regular grade → Prop
  | .whole, regular => outline.pieces = [] → ∃ parts branches,
      outline' = { outline with pieces := parts, branches := branches } ∧
        (outline'.branch :: outline'.branches).reverse =
          outline.branches.reverse ++ (regular.pieces outline.flags).map Piece.regex
  | .atom, regular | .item, regular | .branch, regular =>
      outline' = extend outline (regular.pieces outline.flags)

theorem Simple.extend (h : Simple outline) (parts : List Piece) :
    Simple (extend outline parts) := ⟨h.flags, h.frames⟩

theorem Simple.openFrame (h : Simple outline) (start : Nat) :
    Simple (outline.openFrame .plain start outline.flags) := by
  refine ⟨h.flags, fun frame hframe => ?_⟩
  rcases List.mem_cons.1 hframe with rfl | hframe
  · rfl
  · exact h.frames frame hframe

/-- With case in force the branches are tried as they were written. -/
theorem body_eq (hcase : Flag.ignoreCase ∉ outline.flags) :
    outline.body = alternation (outline.branch :: outline.branches).reverse := by
  simp [Outline.body, choose, hcase]

theorem run_openGroup (position : Nat) (rest : List Token)
    (hrest : rest.head? ≠ some .loneBackslash) :
    (plain outline '(').run ⟨position + 1, .plain '?' :: .plain ':' :: rest⟩ =
      .ok (outline.openFrame .plain position outline.flags, ⟨position + 3, rest⟩) := by
  have hget (cursor : Cursor) : (get : Reader Cursor).run cursor = .ok (cursor, cursor) := rfl
  have hplain (cursor : Cursor) :
      (plain outline '(').run cursor = (openParenthesis outline).run cursor := rfl
  rw [hplain, openParenthesis, run_bind_ok (hget _), run_bind_ok (run_accept _ _ _ (by simp)),
    if_pos rfl, extension, run_bind_ok (run_take _ _ _ hrest)]
  rfl

theorem readsText_open (h : Simple outline) (position : Nat) {text : List Char}
    (htext : text ≠ ['\\']) :
    ∃ position', Reads outline ⟨position, Token.ofChars ('(' :: '?' :: ':' :: text)⟩
      (outline.openFrame .plain position outline.flags) ⟨position', Token.ofChars text⟩ := by
  refine ⟨position + 3, ?_⟩
  rw [ofChars_plain (by decide), ofChars_plain (by decide), ofChars_plain (by decide)]
  refine Reads.of_step ?_ (by simp only [List.length_cons]; omega) fun hparen => by cases hparen
  rw [step_plain h _ _ _ (by simp), run_openGroup _ _ (mt (head?_ofChars text) htext)]

/-- Closing a group makes one part of the branches in it. -/
theorem closeFrame_eq {start : Nat} {parts : List Piece} {branches : List Regex}
    {body : Regular .whole} (hcase : Flag.ignoreCase ∉ outline.flags)
    (hinner : outline' = { outline.openFrame .plain start outline.flags with
      pieces := parts, branches := branches })
    (hbranches : (outline'.branch :: outline'.branches).reverse =
      (body.pieces outline.flags).map Piece.regex) :
    outline'.closeFrame ⟨.plain, start, outline.flags, outline.pieces, outline.branches⟩
      outline.frames = extend outline ((Regular.group body).pieces outline.flags) := by
  have hflags : outline'.flags = outline.flags := by rw [hinner]; rfl
  have hbody : outline'.body = alternation ((body.pieces outline.flags).map Piece.regex) := by
    rw [body_eq (by rwa [hflags]), hbranches]
  rw [Outline.closeFrame, Outline.closedPart, hbody, hinner]
  rfl

theorem readsText_close {frame : Frame} {frames : List Frame} (h : Simple outline)
    (hframes : outline.frames = frame :: frames) (hcs : cs ≠ ['\\']) :
    ReadsText outline (')' :: cs) (outline.closeFrame frame frames) cs := by
  refine .of_plain h (by decide) hcs (fun _ => by simp [hframes]) fun position => ?_
  have hplain (cursor : Cursor) :
      (plain outline ')').run cursor = (closeParenthesis outline).run cursor := rfl
  rw [hplain, closeParenthesis, hframes]
  rfl

theorem exists_readsText {grade : Grade} (regular : Regular grade) :
    ∀ {outline : Outline} {cs : List Char}, Simple outline → Follows cs →
      ∃ outline', ReadsText outline (regular.text ++ cs) outline' cs ∧
        Extends outline outline' regular := by
  induction regular with
  | char c =>
      intro outline cs h hcs
      exact ⟨_, readsText_char h c hcs.notLone, rfl⟩
  | point =>
      intro outline cs h hcs
      refine ⟨_, ?_, rfl⟩
      exact .of_plain h (by decide) hcs.notLone (fun hparen => by cases hparen) fun _ => rfl
  | group body ih =>
      intro outline cs h hcs
      refine ⟨extend outline ((Regular.group body).pieces outline.flags), ?_, rfl⟩
      intro position
      have htext : (Regular.group body).text ++ cs =
          '(' :: '?' :: ':' :: (body.text ++ ')' :: cs) := by simp [Regular.text]
      have hclosed : Follows (')' :: cs) :=
        follows_cons (by decide) (by decide) (by decide) cs
      have hopen := h.openFrame position
      obtain ⟨opened, hfirst⟩ := readsText_open h position (follows_text body hclosed).notLone
      obtain ⟨outline', hbody, hinner⟩ := ih hopen hclosed
      obtain ⟨parts, branches, hshape, hbranches⟩ := hinner rfl
      have hsimple : Simple outline' := by
        rw [hshape]
        exact ⟨hopen.flags, hopen.frames⟩
      have hframes : outline'.frames =
          ⟨.plain, position, outline.flags, outline.pieces, outline.branches⟩ ::
            outline.frames := by rw [hshape]; rfl
      have hclose := readsText_close hsimple hframes hcs.notLone
      rw [closeFrame_eq (h.not_mem_flags (by decide)) hshape hbranches] at hclose
      obtain ⟨middle, hmiddle⟩ := hbody opened
      obtain ⟨position', hlast⟩ := hclose middle
      rw [htext]
      exact ⟨position', (hfirst.trans hmiddle).trans hlast⟩
  | once atom ih =>
      intro outline cs h hcs
      exact ih h hcs
  | star atom ih =>
      intro outline cs h hcs
      obtain ⟨closed, hatom, hchar⟩ := atom.pieces_atom outline.flags
      have hstar : Follows ('*' :: cs) := follows_cons (by decide) (by decide) (by decide) cs
      obtain ⟨outline', hfirst, rfl⟩ := ih h hstar
      refine ⟨extend outline ((Regular.star atom).pieces outline.flags), ?_, rfl⟩
      rw [Regular.text, List.append_assoc]
      refine hfirst.trans (.of_plain (h.extend _) (by decide) hcs.notLone
        (fun hparen => by cases hparen) fun position => ?_)
      have hpieces : (extend outline (atom.pieces outline.flags)).pieces =
          ⟨atom.tree outline.flags, closed⟩ :: outline.pieces := by
        rw [hatom]
        rfl
      have hrun := run_quantify_star position ⟨position, Token.ofChars cs⟩ hpieces hchar
        (mt plain_of_head?_ofChars hcs.notLazy) (mt plain_of_head?_ofChars hcs.notKept)
      have hlooped : extend outline ((Regular.star atom).pieces outline.flags) =
          { extend outline (atom.pieces outline.flags) with
            pieces := ⟨.loop .greedy 0 none (atom.tree outline.flags), false⟩ ::
              outline.pieces } := by
        rw [Regular.pieces, hatom]
        rfl
      rw [hlooped]
      exact hrun
  | nil =>
      intro outline cs h hcs
      exact ⟨outline, .refl _ _, rfl⟩
  | cons item rest ihItem ihRest =>
      intro outline cs h hcs
      obtain ⟨middle, hfirst, hitem⟩ := ihItem h (follows_text rest hcs)
      have hmiddle : middle = extend outline (item.pieces outline.flags) := hitem
      subst hmiddle
      obtain ⟨outline', hsecond, hrest⟩ := ihRest (h.extend _) hcs
      refine ⟨outline', ?_, ?_⟩
      · rw [Regular.text, List.append_assoc]
        exact hfirst.trans hsecond
      · have hlast : outline' = extend (extend outline (item.pieces outline.flags))
            (rest.pieces outline.flags) := hrest
        rw [hlast]
        simp [Extends, Reader.extend, Regular.pieces]
  | last branch ih =>
      intro outline cs h hcs
      obtain ⟨outline', hread, hbranch⟩ := ih h hcs
      have hshape : outline' = extend outline (branch.pieces outline.flags) := hbranch
      refine ⟨outline', hread, fun hempty => ⟨outline'.pieces, outline'.branches, ?_, ?_⟩⟩
      · rw [hshape]
        rfl
      · simp [hshape, Reader.extend, hempty, Outline.branch, Regular.pieces]
  | bar branch rest ihBranch ihRest =>
      intro outline cs h hcs
      have hbar : Follows ('|' :: (rest.text ++ cs)) :=
        follows_cons (by decide) (by decide) (by decide) _
      obtain ⟨middle, hfirst, hbranch⟩ := ihBranch h hbar
      have hmiddle : middle = extend outline (branch.pieces outline.flags) := hbranch
      subst hmiddle
      have hnext : Simple (extend outline (branch.pieces outline.flags)).nextBranch :=
        ⟨h.flags, h.frames⟩
      have hsecond : ReadsText (extend outline (branch.pieces outline.flags))
          ('|' :: (rest.text ++ cs))
          (extend outline (branch.pieces outline.flags)).nextBranch (rest.text ++ cs) :=
        .of_plain (h.extend _) (by decide) (follows_text rest hcs).notLone
          (fun hparen => by cases hparen) fun _ => run_bar (h.extend _) _
      obtain ⟨outline', hthird, hrest⟩ := ihRest hnext hcs
      refine ⟨outline', ?_, fun hempty => ?_⟩
      · rw [Regular.text, List.append_assoc]
        exact hfirst.trans (hsecond.trans hthird)
      · obtain ⟨parts, branches, hshape, hbranches⟩ := hrest rfl
        refine ⟨parts, branches, ?_, ?_⟩
        · rw [hshape]
          rfl
        · rw [hbranches]
          simp [Outline.nextBranch, Reader.extend, hempty, Outline.branch, Regular.pieces]

/-! ## Whole patterns -/

/-- The text of a whole is read to its end, and what is read is its tree. -/
theorem readsText_whole (h : Simple outline) (hpieces : outline.pieces = [])
    (hbranches : outline.branches = []) (whole : Regular .whole) :
    ∃ parts branches,
      ReadsText outline whole.text { outline with pieces := parts, branches := branches } [] ∧
      { outline with pieces := parts, branches := branches }.body = whole.tree outline.flags := by
  obtain ⟨outline', hread, hextends⟩ := exists_readsText whole h follows_nil
  obtain ⟨parts, branches, rfl, hlist⟩ := hextends hpieces
  rw [List.append_nil] at hread
  refine ⟨parts, branches, hread, (body_eq ?_).trans ?_⟩
  · exact h.not_mem_flags (by decide)
  · rw [hlist, hbranches]
    rfl

theorem finish_ok (h : Simple outline) (hframes : outline.frames = [])
    (hchoices : outline.choices = []) (position : Nat) :
    (finish outline).run ⟨position, []⟩ = .ok (outline.body, ⟨position, []⟩) := by
  have hascii : Flag.ascii ∉ outline.flags := h.not_mem_flags (by decide)
  unfold finish
  rw [hframes]
  dsimp only
  rw [if_neg (by simp [hascii]), run_bind_ok (run_peek _), if_neg (by simp), hchoices]
  rfl

theorem text_ne_loneBackslash (whole : Regular .whole) : whole.text ≠ ['\\'] := by
  have hfollows := follows_text whole follows_nil
  rw [List.append_nil] at hfollows
  exact hfollows.notLone

theorem run_checkNext {cursor : Cursor} (h : cursor.tokens.head? ≠ some .loneBackslash) :
    checkNext.run cursor = .ok ((), cursor) := by
  obtain ⟨position, tokens⟩ := cursor
  cases tokens with
  | nil => rfl
  | cons token rest =>
      cases token with
      | plain c => rfl
      | escape c => rfl
      | loneBackslash => exact absurd rfl h

/-- A text that is read to its end, with no parenthesis left open, is a whole pattern. -/
theorem ReadsText.run_pattern {flags : Flags} {text : List Char}
    (hread : ReadsText (.start flags) text outline []) (htext : text ≠ ['\\']) (h : Simple outline)
    (hframes : outline.frames = []) (hchoices : outline.choices = []) :
    ∃ position, (pattern flags).run ⟨0, Token.ofChars text⟩ =
      .ok ((outline.body, outline.flags), ⟨position, []⟩) := by
  obtain ⟨position, hreads⟩ := hread 0
  have hremaining (cursor : Cursor) :
      remaining.run cursor = .ok (cursor.tokens.length, cursor) := rfl
  refine ⟨position, ?_⟩
  rw [pattern, run_bind_ok (run_checkNext (mt (head?_ofChars text) htext)),
    run_bind_ok (hremaining _), run_bind_ok hreads.steps_eq,
    run_bind_ok (finish_ok h hframes hchoices position)]
  rfl

end Reader

/-! ## Checks on the tree -/

theorem defect?_sequence {parts : List Regex} (h : ∀ part ∈ parts, defect? false part = none) :
    defect? false (sequence parts) = none := by
  induction parts with
  | nil => rfl
  | cons first rest ih =>
      have hrest := ih fun part hpart => h part (List.mem_cons_of_mem _ hpart)
      cases rest with
      | nil => exact h first List.mem_cons_self
      | cons second rest => simp [sequence, defect?, h first List.mem_cons_self, hrest]

theorem defect?_alternation {parts : List Regex}
    (h : ∀ part ∈ parts, defect? false part = none) :
    defect? false (alternation parts) = none := by
  induction parts with
  | nil => rfl
  | cons first rest ih =>
      have hrest := ih fun part hpart => h part (List.mem_cons_of_mem _ hpart)
      cases rest with
      | nil => exact h first List.mem_cons_self
      | cons second rest => simp [alternation, defect?, h first List.mem_cons_self, hrest]

theorem defect?_pieces (flags : Flags) {grade : Grade} (regular : Regular grade) :
    ∀ part ∈ (regular.pieces flags).map Piece.regex, defect? false part = none := by
  induction regular with
  | char c => simp [Regular.pieces, Reader.literal, defect?]
  | point => simp [Regular.pieces, defect?]
  | group body ih => simpa [Regular.pieces] using defect?_alternation ih
  | once atom ih => exact ih
  | star atom ih => simpa [Regular.pieces, defect?] using ih
  | nil => simp [Regular.pieces]
  | cons item rest ihItem ihRest =>
      intro part hpart
      rw [Regular.pieces, List.map_append, List.mem_append] at hpart
      exact hpart.elim (ihItem part) (ihRest part)
  | last branch ih => simpa [Regular.pieces] using defect?_sequence ih
  | bar branch rest ihBranch ihRest =>
      intro part hpart
      rw [Regular.pieces, List.map_cons, List.mem_cons] at hpart
      rcases hpart with rfl | hpart
      · exact defect?_sequence ihBranch
      · exact ihRest part hpart

theorem defect?_tree (flags : Flags) (whole : Regular .whole) :
    defect? false (whole.tree flags) = none := defect?_alternation (defect?_pieces flags whole)

/-- A text that is read to its end gives the expression that was read, if that has no defect. -/
theorem Reader.ReadsText.parse_eq {flags : Flags} {text : List Char} {outline : Outline}
    (hread : ReadsText (.start flags) text outline []) (htext : text ≠ ['\\']) (h : Simple outline)
    (hframes : outline.frames = []) (hchoices : outline.choices = [])
    (hdefect : defect? false outline.body = none) :
    parse flags (String.ofList text) = .ok outline.body := by
  obtain ⟨position, hrun⟩ := hread.run_pattern htext h hframes hchoices
  have hrepeat : outline.flags.contains .noRepeat = false := by
    rw [List.contains_eq_mem, decide_eq_false_iff_not]
    exact h.not_mem_flags (by decide)
  rw [parse, String.toList_ofList, hrun]
  dsimp only
  rw [hrepeat, hdefect]

/-- A text that leads to the text of a whole, with nothing read yet but flags, is read as the tree
of the whole. -/
theorem Reader.ReadsText.parse_whole {flags flags' : Flags} {text : List Char}
    {whole : Regular .whole} (hread : ReadsText (.start flags) text (.start flags') whole.text)
    (htext : text ≠ ['\\']) (hflags : ∀ flag ∈ flags', flag = .dotAll) :
    parse flags (String.ofList text) = .ok (whole.tree flags') := by
  have hstart : Simple (.start flags') := ⟨hflags, fun _ h => absurd h List.not_mem_nil⟩
  obtain ⟨parts, branches, hwhole, hbody⟩ := readsText_whole hstart rfl rfl whole
  have hsimple : Simple { Outline.start flags' with pieces := parts, branches := branches } :=
    ⟨hstart.flags, hstart.frames⟩
  have hdefect := defect?_tree flags' whole
  rw [← show _ = whole.tree flags' from hbody] at hdefect ⊢
  exact (hread.trans hwhole).parse_eq htext hsimple rfl rfl hdefect

/-- The text of a regular expression is read as its tree. -/
theorem parse_text {flags : Flags} (hflags : ∀ flag ∈ flags, flag = .dotAll)
    (whole : Regular .whole) :
    parse flags (String.ofList whole.text) = .ok (whole.tree flags) :=
  (Reader.ReadsText.refl _ _).parse_whole (Reader.text_ne_loneBackslash whole) hflags

end RefFilter.Regex
