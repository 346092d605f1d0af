import RefFilter.Proofs.Basic
import RefFilter.Regex.Parse

/-! # The limits of reading an expression

Besides faults of an expression there are limits at which reading stops without one: a repeat count
that is too large, one with too many digits, and an expression that asks for both alphabets. A
reader never leaves the pattern it started in, so where it stops at a limit the pattern accounts for
it: it has a brace and the digits of the count, or the letters of both flags. All other patterns are
read or have a fault.
-/

namespace RefFilter.Regex

/-! ## Tokens -/

theorem Token.chars_ofChars (cs : List Char) : (ofChars cs).flatMap chars = cs := by
  fun_induction ofChars cs with
  | case1 => rfl
  | case2 c =>
      by_cases hc : c = '\\'
      · rw [if_pos hc, hc]
        rfl
      · rw [if_neg hc]
        rfl
  | case3 d rest ih =>
      rw [List.flatMap_cons, ih]
      rfl
  | case4 c d rest _ ih =>
      rw [List.flatMap_cons, ih]
      rfl

variable {text : List Char}

/-- Characters that are tokens one after another stand in the text one after another. -/
theorem infix_of_tokens {cs : List Char} (h : cs.map Token.plain <:+: Token.ofChars text) :
    cs <:+: text := by
  have hchars : (cs.map Token.plain).flatMap Token.chars = cs := by
    induction cs with
    | nil => rfl
    | cons c cs ih =>
        rw [List.map_cons, List.flatMap_cons, ih]
        · rfl
        · exact (List.suffix_cons _ _).isInfix.trans h
  obtain ⟨before, after, htext⟩ := h
  refine ⟨before.flatMap Token.chars, after.flatMap Token.chars, ?_⟩
  conv_lhs => rw [← hchars]
  rw [← List.flatMap_append, ← List.flatMap_append, htext, Token.chars_ofChars]

theorem mem_of_token {c : Char} (h : Token.plain c ∈ Token.ofChars text) : c ∈ text := by
  rw [← Token.chars_ofChars text]
  exact List.mem_flatMap.2 ⟨_, h, List.mem_singleton_self c⟩

/-! ## Limits -/

/-- A flag is on from the start, or the text has its letter. -/
def Asked (flags : Flags) (text : List Char) (flag : Flag) : Prop :=
  flag ∈ flags ∨ ∃ c ∈ text, Flag.ofChar? c = some flag

/-- A count that stands in a text with a brace. -/
structure CountIn (text digits : List Char) : Prop where
  brace : '\x7b' ∈ text
  stands : digits <:+: text
  digits : ∀ c ∈ digits, c.isDigit = true

/-- A text accounts for where its reading stops. -/
def ReadError.Explained (flags : Flags) (text : List Char) : ReadError → Prop
  | .fault _ => True
  | .repeatTooLarge =>
    ∃ digits, CountIn text digits ∧ Reader.repeatLimit ≤ valueOf 10 digits
  | .tooManyDigits count =>
    ∃ digits, CountIn text digits ∧ digits.length = count ∧ maxDigits < count
  | .alphabetConflict => Asked flags text .ascii ∧ Asked flags text .unicode

namespace Reader

/-- Inside a pattern a reader stays inside it, what it reads has a property, and the pattern
accounts for where it stops. -/
def Keeps {α : Type} (flags : Flags) (text : List Char) (reader : Reader α) (post : α → Prop) :
    Prop :=
  ∀ cursor : Cursor, cursor.tokens <:+ Token.ofChars text →
    (∀ value cursor', reader.run cursor = .ok (value, cursor') →
      cursor'.tokens <:+ Token.ofChars text ∧ post value) ∧
    ∀ error, reader.run cursor = .error error → error.Explained flags text

/-- Whatever is read, the reader stays inside a pattern that accounts for where it stops. -/
abbrev Stays {α : Type} (flags : Flags) (text : List Char) (reader : Reader α) : Prop :=
  Keeps flags text reader fun _ => True

variable {flags : Flags} {α β : Type} {reader first : Reader α} {next : α → Reader β}
  {post : α → Prop} {post' : β → Prop}

/-! ## Composition -/

theorem keeps_pure {value : α} (h : post value) : Keeps flags text (pure value) post := by
  intro cursor hcursor
  refine ⟨?_, fun error herror => nomatch herror⟩
  intro found cursor' hrun
  obtain ⟨rfl, rfl⟩ := Prod.mk.inj (Except.ok.inj hrun)
  exact ⟨hcursor, h⟩

theorem stays_pure (value : α) : Stays flags text (pure value) := keeps_pure trivial

theorem keeps_throw {error : ReadError} (h : error.Explained flags text) :
    Keeps flags text (throw error : Reader α) post := by
  intro cursor _
  refine ⟨(fun value cursor' hrun => nomatch hrun), ?_⟩
  intro found hrun
  obtain rfl := Except.error.inj hrun
  exact h

theorem Keeps.bind (hfirst : Keeps flags text first post)
    (hnext : ∀ value, post value → Keeps flags text (next value) post') :
    Keeps flags text (first >>= next) post' := by
  intro cursor hcursor
  obtain ⟨hok, herror⟩ := hfirst cursor hcursor
  rw [StateT.run_bind]
  cases hrun : first.run cursor with
  | error error =>
      refine ⟨(fun value cursor' h => nomatch h), ?_⟩
      intro found h
      obtain rfl := Except.error.inj h
      exact herror error hrun
  | ok found =>
      obtain ⟨hcursor', hvalue⟩ := hok found.1 found.2 hrun
      exact hnext found.1 hvalue found.2 hcursor'

theorem Stays.bind (hfirst : Stays flags text first)
    (hnext : ∀ value, Keeps flags text (next value) post') :
    Keeps flags text (first >>= next) post' := Keeps.bind hfirst fun value _ => hnext value

theorem Keeps.map {f : α → β} (h : Keeps flags text reader post)
    (hmap : ∀ value, post value → post' (f value)) : Keeps flags text (f <$> reader) post' := by
  rw [map_eq_pure_bind]
  exact h.bind fun value hvalue => keeps_pure (hmap value hvalue)

/-- What is known of every run that succeeds holds of what is read. -/
theorem Stays.keeps (h : Stays flags text reader)
    (hrun : ∀ cursor value cursor', cursor.tokens <:+ Token.ofChars text →
      reader.run cursor = .ok (value, cursor') → post value) :
    Keeps flags text reader post := by
  intro cursor hcursor
  obtain ⟨hok, herror⟩ := h cursor hcursor
  exact ⟨fun value cursor' h => ⟨(hok value cursor' h).1, hrun cursor value cursor' hcursor h⟩,
    herror⟩

theorem keeps_get :
    Keeps flags text get fun cursor : Cursor => cursor.tokens <:+ Token.ofChars text := by
  intro cursor hcursor
  refine ⟨?_, fun error herror => nomatch herror⟩
  intro found cursor' hrun
  obtain ⟨rfl, rfl⟩ := Prod.mk.inj (Except.ok.inj hrun)
  exact ⟨hcursor, hcursor⟩

theorem stays_set {cursor : Cursor} (h : cursor.tokens <:+ Token.ofChars text) :
    Stays flags text (set cursor) := by
  intro _ _
  refine ⟨?_, fun error herror => nomatch herror⟩
  intro found cursor' hrun
  obtain ⟨-, rfl⟩ := Prod.mk.inj (Except.ok.inj hrun)
  exact ⟨h, trivial⟩

theorem keeps_failAt (position : Nat) (cause : Cause) :
    Keeps flags text (failAt position cause : Reader α) post := keeps_throw trivial

theorem keeps_fail (cause : Cause) (back : Nat) :
    Keeps flags text (fail cause back : Reader α) post :=
  keeps_get.bind fun _ _ => keeps_failAt _ _

/-- Nothing is read after a fault. -/
theorem keeps_fail_bind (cause : Cause) (back : Nat) :
    Keeps flags text (fail cause back >>= next) post' := by
  have hfail : Keeps flags text (fail cause back : Reader α) fun _ => False := keeps_fail cause back
  exact hfail.bind fun _ hfalse => hfalse.elim

/-! ## Tokens that are read -/

theorem stays_checkNext : Stays flags text checkNext := by
  refine keeps_get.bind fun cursor _ => ?_
  split
  · exact keeps_fail _ _
  · exact stays_pure ()

theorem keeps_peek :
    Keeps flags text peek fun token? => ∀ token ∈ token?, token ∈ Token.ofChars text := by
  refine keeps_get.bind fun cursor hcursor => keeps_pure ?_
  intro token htoken
  exact hcursor.subset (List.mem_of_mem_head? htoken)

theorem keeps_take :
    Keeps flags text take fun token? => ∀ token ∈ token?, token ∈ Token.ofChars text := by
  refine keeps_get.bind fun cursor hcursor => ?_
  split
  · exact keeps_pure (by simp)
  · rename_i token rest htokens
    rw [htokens] at hcursor
    refine keeps_get.bind fun _ _ => ?_
    refine (stays_set ((List.suffix_cons _ _).trans hcursor)).bind fun _ => ?_
    refine stays_checkNext.bind fun _ => keeps_pure ?_
    simpa using hcursor.subset List.mem_cons_self

theorem stays_accept (c : Char) : Stays flags text (accept c) := by
  refine keeps_peek.bind fun token? _ => ?_
  split
  · exact keeps_take.bind fun _ _ => stays_pure true
  · exact stays_pure false

theorem stays_remaining : Stays flags text remaining :=
  keeps_get.bind fun cursor _ => stays_pure cursor.tokens.length

theorem stays_takeWhile (member : Char → Bool) (n : Nat) :
    Stays flags text (takeWhile member n) := by
  induction n with
  | zero => exact stays_pure []
  | succ n ih =>
      refine keeps_peek.bind fun token? _ => ?_
      split
      · split
        · exact keeps_take.bind fun _ _ => ih.bind fun cs => stays_pure _
        · exact stays_pure []
      · exact stays_pure []

theorem run_bind_eq_ok_iff {cursor : Cursor} {found : β × Cursor} :
    (first >>= next).run cursor = .ok found ↔
      ∃ value cursor', first.run cursor = .ok (value, cursor') ∧
        (next value).run cursor' = .ok found := by
  rw [StateT.run_bind, bind_eq_ok_iff, Prod.exists]

theorem tokens_of_take {cursor cursor' : Cursor} {token : Token} {rest : List Token}
    {token? : Option Token} (htokens : cursor.tokens = token :: rest)
    (h : take.run cursor = .ok (token?, cursor')) : cursor'.tokens = rest := by
  obtain ⟨position, tokens⟩ := cursor
  obtain rfl : tokens = token :: rest := htokens
  have hrun : (checkNext >>= fun _ => pure (some token) : Reader (Option Token)).run
      ⟨position + token.width, rest⟩ = .ok (token?, cursor') := h
  obtain ⟨_, checked, hcheck, hfound⟩ := run_bind_eq_ok_iff.1 hrun
  obtain ⟨-, rfl⟩ := Prod.mk.inj (Except.ok.inj hfound)
  obtain ⟨current, same, hget, hcheck⟩ := run_bind_eq_ok_iff.1 hcheck
  obtain ⟨rfl, rfl⟩ := Prod.mk.inj (Except.ok.inj hget)
  split at hcheck
  · cases hcheck
  · obtain ⟨-, rfl⟩ := Prod.mk.inj (Except.ok.inj hcheck)
    rfl

/-- The characters of a class that are read stand at the front, one after another. -/
theorem tokens_of_takeWhile {member : Char → Bool} {n : Nat} {cursor cursor' : Cursor}
    {cs : List Char} (h : (takeWhile member n).run cursor = .ok (cs, cursor')) :
    cursor.tokens = cs.map Token.plain ++ cursor'.tokens ∧ ∀ c ∈ cs, member c = true := by
  induction n generalizing cursor cs with
  | zero =>
      obtain ⟨rfl, rfl⟩ := Prod.mk.inj (Except.ok.inj h)
      simp
  | succ n ih =>
      obtain ⟨token?, same, hpeek, h⟩ := run_bind_eq_ok_iff.1 h
      obtain ⟨rfl, rfl⟩ := Prod.mk.inj (Except.ok.inj hpeek)
      split at h
      · rename_i c hhead
        obtain ⟨rest, htokens⟩ := List.head?_eq_some_iff.1 hhead
        split at h
        · rename_i hmember
          obtain ⟨taken, after, htake, h⟩ := run_bind_eq_ok_iff.1 h
          obtain ⟨others, last, hothers, h⟩ := run_bind_eq_ok_iff.1 h
          obtain ⟨rfl, rfl⟩ := Prod.mk.inj (Except.ok.inj h)
          obtain ⟨hafter, hmembers⟩ := ih hothers
          rw [tokens_of_take htokens htake] at hafter
          rw [htokens, hafter]
          exact ⟨rfl, List.forall_mem_cons.2 ⟨hmember, hmembers⟩⟩
        · obtain ⟨rfl, rfl⟩ := Prod.mk.inj (Except.ok.inj h)
          simp
      · obtain ⟨rfl, rfl⟩ := Prod.mk.inj (Except.ok.inj h)
        simp

theorem infix_of_takeWhile {member : Char → Bool} {n : Nat} {cursor cursor' : Cursor}
    {cs : List Char} (hcursor : cursor.tokens <:+ Token.ofChars text)
    (h : (takeWhile member n).run cursor = .ok (cs, cursor')) :
    cs <:+: text ∧ ∀ c ∈ cs, member c = true := by
  obtain ⟨htokens, hmember⟩ := tokens_of_takeWhile h
  have hfront : cs.map Token.plain <+: cursor.tokens := by
    rw [htokens]
    exact List.prefix_append _ _
  exact ⟨infix_of_tokens (hfront.isInfix.trans hcursor.isInfix), hmember⟩

theorem stays_takeUntil (close : Char) (what : String) (n : Nat) (read : List Char) :
    Stays flags text (takeUntil close what n read) := by
  have hunfinished (read : List Char) :
      Stays flags text (takeUntil.unfinished close what read) := by
    unfold takeUntil.unfinished
    split <;> exact keeps_fail _ _
  induction n generalizing read with
  | zero => exact hunfinished read
  | succ n ih =>
      refine keeps_take.bind fun token? _ => ?_
      split
      · exact hunfinished read
      · split
        · split
          · exact keeps_fail _ _
          · exact stays_pure _
        · exact ih _

theorem stays_name (close : Char) (what : String) : Stays flags text (name close what) :=
  stays_remaining.bind fun _ => stays_takeUntil close what _ _

/-! ## Escapes and sets -/

theorem keeps_failEscape (chars : List Char) :
    Keeps flags text (failEscape chars : Reader α) post := keeps_fail _ _

theorem stays_hexCode (letter : Char) (count : Nat) : Stays flags text (hexCode letter count) := by
  refine (stays_takeWhile _ _).bind fun digits => ?_
  split
  · exact keeps_fail _ _
  · split
    · exact stays_pure _
    · exact keeps_failEscape _

theorem stays_namedCode : Stays flags text namedCode := by
  refine (stays_accept _).bind fun opened => ?_
  split
  · exact (stays_name _ _).bind fun _ => keeps_fail _ _
  · exact keeps_fail _ _

theorem stays_octalCode (digits : List Char) : Stays flags text (octalCode digits) := by
  unfold octalCode
  split
  · exact stays_pure _
  · exact keeps_fail _ _

theorem stays_charCode (c : Char) : Stays flags text (charCode c) := by
  unfold charCode
  split
  · exact stays_hexCode _ _
  · exact stays_hexCode _ _
  · exact stays_hexCode _ _
  · exact stays_namedCode
  · unfold selfCode
    split
    · exact keeps_failEscape _
    · exact stays_pure _

theorem stays_setEscape (c : Char) : Stays flags text (setEscape c) := by
  unfold setEscape
  split
  · exact stays_pure _
  · exact stays_pure _
  · split
    · refine (stays_takeWhile _ _).bind fun digits => ?_
      exact (stays_octalCode _).bind fun _ => stays_pure _
    · exact (stays_charCode _).bind fun _ => stays_pure _

theorem stays_setItem (token : Token) : Stays flags text (setItem token) := by
  cases token with
  | plain c => exact stays_pure _
  | escape c => exact stays_setEscape c
  | loneBackslash => exact keeps_fail _ _

theorem stays_setSpan (first last : Token) (lo hi : SetItem) :
    Stays flags text (setSpan first last lo hi) := by
  unfold setSpan
  split
  · split
    · exact keeps_fail _ _
    · exact stays_pure _
  · exact keeps_fail _ _

theorem stays_setItems (start n : Nat) (items : List SetItem) :
    Stays flags text (setItems start n items) := by
  induction n generalizing items with
  | zero => exact keeps_failAt _ _
  | succ n ih =>
      refine keeps_take.bind fun first? _ => ?_
      split
      · exact keeps_failAt _ _
      · split
        · exact stays_pure _
        · refine (stays_setItem _).bind fun lo => ?_
          refine (stays_accept _).bind fun hyphen => ?_
          split
          · refine keeps_take.bind fun last? _ => ?_
            split
            · exact keeps_failAt _ _
            · split
              · exact stays_pure _
              · refine (stays_setItem _).bind fun hi => ?_
                exact (stays_setSpan _ _ _ _).bind fun _ => ih _
          · exact ih _

theorem stays_charSet (current : Flags) : Stays flags text (charSet current) := by
  refine keeps_get.bind fun cursor _ => ?_
  refine (stays_accept _).bind fun negated => ?_
  refine stays_remaining.bind fun n => ?_
  exact (stays_setItems _ _ _).bind fun _ => stays_pure _

/-! ## Flags -/

theorem keeps_failFlag (token : Token) (cause : Cause) :
    Keeps flags text (failFlag token cause : Reader α) post := keeps_fail _ _

theorem asked_of_flagOf? {token : Token} {flag : Flag} (htoken : token ∈ Token.ofChars text)
    (hflag : flagOf? token = some flag) : Asked flags text flag := by
  cases token with
  | plain c => exact Or.inr ⟨c, mem_of_token htoken, hflag⟩
  | escape c => cases hflag
  | loneBackslash => cases hflag

theorem keeps_flagsOn (n : Nat) {flag : Flag} {on : Flags} (hflag : Asked flags text flag)
    (hon : ∀ flag ∈ on, Asked flags text flag) :
    Keeps flags text (flagsOn n flag on) fun found => ∀ flag ∈ found.1, Asked flags text flag := by
  induction n generalizing flag on with
  | zero => exact keeps_fail _ _
  | succ n ih =>
      have hmore : ∀ other ∈ on ++ [flag], Asked flags text other :=
        List.forall_mem_append.2 ⟨hon, List.forall_mem_singleton.2 hflag⟩
      unfold flagsOn
      split
      · exact keeps_fail _ _
      · split
        · exact keeps_fail _ _
        · refine keeps_take.bind fun token? htoken => ?_
          split
          · exact keeps_fail _ _
          · split
            · exact keeps_pure hmore
            · exact keeps_pure hmore
            · exact keeps_pure hmore
            · split
              · rename_i hnext
                exact ih (asked_of_flagOf? (htoken _ rfl) hnext) hmore
              · exact keeps_failFlag _ _

theorem stays_flagsOff (n : Nat) (flag : Flag) (off : Flags) :
    Stays flags text (flagsOff n flag off) := by
  induction n generalizing flag off with
  | zero => exact keeps_fail _ _
  | succ n ih =>
      unfold flagsOff
      split
      · exact keeps_fail _ _
      · refine keeps_take.bind fun token? _ => ?_
        split
        · exact keeps_fail _ _
        · split
          · exact stays_pure _
          · split
            · exact ih _ _
            · exact keeps_failFlag _ _

theorem stays_flagsAfterHyphen : Stays flags text flagsAfterHyphen := by
  refine keeps_take.bind fun token? _ => ?_
  split
  · exact keeps_fail _ _
  · split
    · exact stays_remaining.bind fun _ => stays_flagsOff _ _ _
    · exact keeps_failFlag _ _

def EditAsked (flags : Flags) (text : List Char) : FlagEdit → Prop
  | .whole on => ∀ flag ∈ on, Asked flags text flag
  | .scope on _ => ∀ flag ∈ on, Asked flags text flag

theorem keeps_flagScope {on : Flags} (hon : ∀ flag ∈ on, Asked flags text flag) (off : Flags) :
    Keeps flags text (flagScope on off) (EditAsked flags text) := by
  unfold flagScope
  split
  · exact keeps_fail _ _
  · split
    · exact keeps_fail _ _
    · exact keeps_pure hon

theorem keeps_flagEdit {first : Option Flag} (hfirst : ∀ flag ∈ first, Asked flags text flag) :
    Keeps flags text (flagEdit first) (EditAsked flags text) := by
  unfold flagEdit
  split
  · exact stays_flagsAfterHyphen.bind fun off => keeps_flagScope (by simp) off
  · rename_i flag
    refine stays_remaining.bind fun n => ?_
    refine (keeps_flagsOn _ (hfirst flag rfl) (by simp)).bind fun found hon => ?_
    dsimp only
    split
    · exact keeps_pure hon
    · split
      · exact keeps_fail _ _
      · split
        · exact stays_flagsAfterHyphen.bind fun off => keeps_flagScope hon off
        · exact keeps_flagScope hon []

/-! ## Parentheses -/

/-- The flags in force, and those around every open parenthesis, were asked for. -/
structure FlagsAsked (flags : Flags) (text : List Char) (outline : Outline) : Prop where
  inside : ∀ flag ∈ outline.flags, Asked flags text flag
  around : ∀ frame ∈ outline.frames, ∀ flag ∈ frame.flags, Asked flags text flag

section Outlines

variable {outline : Outline}

theorem FlagsAsked.openFrame (h : FlagsAsked flags text outline) (opening : Opening) (start : Nat)
    {inner : Flags} (hinner : ∀ flag ∈ inner, Asked flags text flag) :
    FlagsAsked flags text (outline.openFrame opening start inner) :=
  ⟨hinner, List.forall_mem_cons.2 ⟨h.inside, h.around⟩⟩

theorem FlagsAsked.openGroup (h : FlagsAsked flags text outline) (name : Option String)
    (start : Nat) : FlagsAsked flags text (outline.openGroup name start) :=
  ⟨h.inside, List.forall_mem_cons.2 ⟨h.inside, h.around⟩⟩

theorem FlagsAsked.lookAround (h : FlagsAsked flags text outline) (start : Nat)
    (behind negated : Bool) :
    FlagsAsked flags text (Reader.lookAround outline start behind negated) := by
  cases behind <;> exact ⟨h.inside, List.forall_mem_cons.2 ⟨h.inside, h.around⟩⟩

theorem FlagsAsked.closeFrame {frame : Frame} {frames : List Frame}
    (h : FlagsAsked flags text outline) (hframes : outline.frames = frame :: frames) :
    FlagsAsked flags text (outline.closeFrame frame frames) := by
  have haround := h.around
  rw [hframes, List.forall_mem_cons] at haround
  exact ⟨haround.1, haround.2⟩

theorem stays_checkBehind (index : Nat) : Stays flags text (checkBehind outline index) := by
  unfold checkBehind
  split
  · exact stays_pure ()
  · split
    · exact keeps_fail _ _
    · split
      · exact keeps_fail _ _
      · exact stays_pure ()

theorem stays_backref (index width : Nat) : Stays flags text (backref outline index width) := by
  unfold backref
  split
  · exact keeps_fail _ _
  · exact (stays_checkBehind index).bind fun _ => stays_pure _

theorem stays_checkName (name : String) : Stays flags text (checkName name) := by
  unfold checkName
  split
  · exact stays_pure ()
  · exact keeps_fail _ _

theorem stays_groupNamed (name : String) : Stays flags text (groupNamed outline name) := by
  unfold groupNamed
  split
  · exact keeps_fail _ _
  · exact stays_pure _

theorem stays_namedBackref : Stays flags text (namedBackref outline) := by
  refine (stays_name _ _).bind fun name => ?_
  refine (stays_checkName _).bind fun _ => ?_
  exact (stays_groupNamed _).bind fun _ => stays_backref _ _

theorem keeps_namedGroup (h : FlagsAsked flags text outline) (start : Nat) :
    Keeps flags text (namedGroup outline start) (FlagsAsked flags text) := by
  refine (stays_name _ _).bind fun name => ?_
  refine (stays_checkName _).bind fun _ => ?_
  split
  · exact keeps_fail _ _
  · exact keeps_pure (h.openGroup _ _)

theorem stays_skipComment (start n : Nat) : Stays flags text (skipComment start n) := by
  induction n with
  | zero => exact keeps_failAt _ _
  | succ n ih =>
      refine keeps_take.bind fun token? _ => ?_
      split
      · exact keeps_failAt _ _
      · split
        · exact stays_pure ()
        · exact ih

theorem stays_skipLine (n : Nat) : Stays flags text (skipLine n) := by
  induction n with
  | zero => exact stays_pure ()
  | succ n ih =>
      refine keeps_take.bind fun token? _ => ?_
      split
      · exact stays_pure ()
      · split
        · exact stays_pure ()
        · exact ih

theorem stays_choiceGroup : Stays flags text (choiceGroup outline) := by
  refine (stays_name _ _).bind fun name => ?_
  split
  · exact (stays_groupNamed _).bind fun _ => stays_pure _
  · split
    · exact keeps_fail _ _
    · exact keeps_fail _ _
    · split
      · exact keeps_fail _ _
      · split
        · exact stays_pure _
        · exact keeps_get.bind fun _ _ => stays_pure _

theorem keeps_choice (h : FlagsAsked flags text outline) (start : Nat) :
    Keeps flags text (choice outline start) (FlagsAsked flags text) := by
  refine stays_choiceGroup.bind fun found => ?_
  refine (stays_checkBehind _).bind fun _ => ?_
  exact keeps_pure ⟨h.inside, List.forall_mem_cons.2 ⟨h.inside, h.around⟩⟩

theorem asked_within {current on : Flags} (hcurrent : ∀ flag ∈ current, Asked flags text flag)
    (hon : ∀ flag ∈ on, Asked flags text flag) (off : Flags) :
    ∀ flag ∈ current.within on off, Asked flags text flag := by
  intro flag hflag
  rcases List.mem_append.1 (List.mem_of_mem_filter hflag) with hkept | hmem
  · split at hkept
    · exact hcurrent flag (List.mem_of_mem_filter hkept)
    · exact hcurrent flag hkept
  · exact hon flag hmem

theorem keeps_flagGroup (h : FlagsAsked flags text outline) (start : Nat) {first : Option Flag}
    (hfirst : ∀ flag ∈ first, Asked flags text flag) :
    Keeps flags text (flagGroup outline start first) (FlagsAsked flags text) := by
  refine (keeps_flagEdit hfirst).bind fun edit hedit => ?_
  split
  · exact keeps_pure (h.openFrame _ _ (asked_within h.inside hedit _))
  · split
    · exact keeps_pure ⟨List.forall_mem_append.2 ⟨h.inside, hedit⟩, h.around⟩
    · exact keeps_failAt _ _

theorem keeps_unknownGroup (chars : List Char) :
    Keeps flags text (unknownGroup chars : Reader α) post := keeps_fail _ _

theorem keeps_namedExtension (h : FlagsAsked flags text outline) (start : Nat) :
    Keeps flags text (namedExtension outline start) (FlagsAsked flags text) := by
  refine (stays_accept _).bind fun angle => ?_
  split
  · exact keeps_namedGroup h start
  · refine (stays_accept _).bind fun equals => ?_
    split
    · exact stays_namedBackref.bind fun _ => keeps_pure ⟨h.inside, h.around⟩
    · refine keeps_take.bind fun token? _ => ?_
      split
      · exact keeps_fail _ _
      · exact keeps_unknownGroup _

theorem keeps_behindExtension (h : FlagsAsked flags text outline) (start : Nat) :
    Keeps flags text (behindExtension outline start) (FlagsAsked flags text) := by
  refine keeps_take.bind fun token? _ => ?_
  split
  · exact keeps_fail _ _
  · split
    · exact keeps_pure (h.lookAround _ _ _)
    · split
      · exact keeps_pure (h.lookAround _ _ _)
      · exact keeps_unknownGroup _

theorem keeps_extension (h : FlagsAsked flags text outline) (start : Nat) :
    Keeps flags text (extension outline start) (FlagsAsked flags text) := by
  refine keeps_take.bind fun token? htoken => ?_
  split
  · exact keeps_fail _ _
  · rename_i c
    split
    · exact keeps_namedExtension h start
    · exact keeps_pure (h.openFrame _ _ h.inside)
    · exact stays_remaining.bind fun _ =>
        (stays_skipComment _ _).bind fun _ => keeps_pure h
    · exact keeps_pure (h.lookAround _ _ _)
    · exact keeps_pure (h.lookAround _ _ _)
    · exact keeps_behindExtension h start
    · exact keeps_choice h start
    · exact keeps_pure (h.openFrame _ _ h.inside)
    · exact keeps_flagGroup h start (by simp)
    · split
      · rename_i flag hflag
        refine keeps_flagGroup h start ?_
        rintro _ ⟨⟩
        exact Or.inr ⟨c, mem_of_token (htoken _ rfl), hflag⟩
      · exact keeps_unknownGroup _
  · exact keeps_unknownGroup _

theorem keeps_openParenthesis (h : FlagsAsked flags text outline) :
    Keeps flags text (openParenthesis outline) (FlagsAsked flags text) := by
  refine keeps_get.bind fun cursor _ => ?_
  refine (stays_accept _).bind fun extended => ?_
  split
  · exact keeps_extension h _
  · exact keeps_pure (h.openGroup _ _)

/-! ## Steps -/

theorem stays_numberEscape (c : Char) : Stays flags text (numberEscape outline c) := by
  refine (stays_takeWhile _ _).bind fun second => ?_
  have hrest (third : List Char) :
      Stays flags text
        (let digits := c :: (second ++ third)
        if third ≠ [] then do return literal outline.flags (← octalCode digits)
        else
          let index := valueOf 10 digits
          if index ≤ outline.widths.length then backref outline index (digits.length + 1)
          else fail (.invalidGroup index) digits.length) := by
    dsimp only
    split
    · exact (stays_octalCode _).bind fun _ => stays_pure _
    · split
      · exact stays_backref _ _
      · exact keeps_fail _ _
  split
  · exact (stays_takeWhile _ _).bind fun third => hrest third
  · exact (stays_pure _).bind fun third => hrest third

theorem stays_escape (c : Char) : Stays flags text (escape outline c) := by
  unfold escape
  split
  · exact stays_pure _
  · exact stays_pure _
  · exact stays_pure _
  · split
    · exact (stays_takeWhile _ _).bind fun _ => stays_pure _
    · split
      · exact stays_numberEscape c
      · exact (stays_charCode _).bind fun _ => stays_pure _

theorem stays_repeatCount {digits : List Char} (h : CountIn text digits) :
    Stays flags text (repeatCount digits) := by
  unfold repeatCount
  split
  · rename_i hlong
    exact keeps_throw ⟨digits, h, rfl, hlong⟩
  · split
    · rename_i hlarge
      exact keeps_throw ⟨digits, h, hlarge⟩
    · exact stays_pure _

theorem stays_greed : Stays flags text greed := by
  refine (stays_accept _).bind fun isLazy => ?_
  split
  · exact stays_pure _
  · refine (stays_accept _).bind fun keeps => ?_
    split <;> exact stays_pure _

theorem keeps_quantify (h : FlagsAsked flags text outline) (here least : Nat) (most : Option Nat) :
    Keeps flags text (quantify outline here least most) (FlagsAsked flags text) := by
  unfold quantify
  split
  · exact keeps_failAt _ _
  · split
    · exact keeps_failAt _ _
    · exact keeps_failAt _ _
    · exact stays_greed.bind fun _ => keeps_pure ⟨h.inside, h.around⟩

/-- Numbers that are read as the bounds of a loop make one, unless they are in the wrong order. -/
theorem keeps_bounds (h : FlagsAsked flags text outline) (here low : Nat) (high : Option Nat) :
    Keeps flags text
      (if high.any (· < low) then failAt here .leastAboveMost else quantify outline here low high)
      (FlagsAsked flags text) := by
  split
  · exact keeps_failAt _ _
  · exact keeps_quantify h _ _ _

theorem keeps_upperBound (h : FlagsAsked flags text outline) {most : List Char}
    (hmost : CountIn text most) (here low : Nat) :
    Keeps flags text
      (do
        let high ← if most.isEmpty then pure none else some <$> repeatCount most
        if high.any (· < low) then failAt here .leastAboveMost
        else quantify outline here low high)
      (FlagsAsked flags text) := by
  cases most.isEmpty with
  | true => exact (stays_pure _).bind fun _ => keeps_bounds h _ _ _
  | false =>
      refine Stays.bind (Keeps.map (stays_repeatCount hmost) fun _ _ => trivial) ?_
      exact fun _ => keeps_bounds h _ _ _

/-- After the numbers in braces the brace closes, or all from the opening one on is read again. -/
theorem keeps_closingBrace (h : FlagsAsked flags text outline) {least most : List Char}
    (hleast : CountIn text least) (hmost : CountIn text most) {cursor : Cursor}
    (hcursor : cursor.tokens <:+ Token.ofChars text) :
    Keeps flags text
      (do
        if ← accept '\x7d' then
          let low ← if least.isEmpty then pure 0 else repeatCount least
          let high ← if most.isEmpty then pure none else some <$> repeatCount most
          if high.any (· < low) then failAt cursor.position .leastAboveMost
          else quantify outline cursor.position low high
        else
          set cursor
          pure (outline.add (literal outline.flags '\x7b'.toNat)))
      (FlagsAsked flags text) := by
  refine (stays_accept _).bind fun closed => ?_
  cases closed with
  | true =>
      cases least.isEmpty with
      | true => exact (stays_pure _).bind fun _ => keeps_upperBound h hmost _ _
      | false => exact (stays_repeatCount hleast).bind fun _ => keeps_upperBound h hmost _ _
  | false => exact (stays_set hcursor).bind fun _ => keeps_pure ⟨h.inside, h.around⟩

/-- The only counts are those in braces. -/
theorem keeps_counted (h : FlagsAsked flags text outline) (hbrace : '\x7b' ∈ text) :
    Keeps flags text (counted outline) (FlagsAsked flags text) := by
  have hdigits (n : Nat) : Keeps flags text (takeWhile Char.isDigit n) (CountIn text) := by
    refine (stays_takeWhile _ _).keeps fun cursor cs cursor' hcursor hrun => ?_
    obtain ⟨hstands, hmember⟩ := infix_of_takeWhile hcursor hrun
    exact ⟨hbrace, hstands, hmember⟩
  -- The cursor after the brace is kept: without a closing brace reading goes back to it.
  refine keeps_get.bind fun cursor hcursor => ?_
  refine keeps_peek.bind fun token? _ => ?_
  split
  · exact keeps_pure ⟨h.inside, h.around⟩
  · refine stays_remaining.bind fun n => ?_
    refine (hdigits n).bind fun least hleast => ?_
    refine (stays_accept _).bind fun range => ?_
    cases range with
    | true =>
        refine stays_remaining.bind fun n => ?_
        exact (hdigits n).bind fun most hmost => keeps_closingBrace h hleast hmost hcursor
    | false =>
        have hsame : Keeps flags text (pure least) (CountIn text) := keeps_pure hleast
        exact hsame.bind fun most hmost => keeps_closingBrace h hleast hmost hcursor

theorem keeps_closeParenthesis (h : FlagsAsked flags text outline) :
    Keeps flags text (closeParenthesis outline) (FlagsAsked flags text) := by
  unfold closeParenthesis
  split
  · exact keeps_fail _ _
  · rename_i hframes
    exact keeps_pure (h.closeFrame hframes)

theorem keeps_bar (h : FlagsAsked flags text outline) :
    Keeps flags text (bar outline) (FlagsAsked flags text) := by
  unfold bar
  split
  · rename_i frame frames hframes
    split
    · have haround := h.around
      rw [hframes, List.forall_mem_cons] at haround
      exact keeps_pure ⟨h.inside, List.forall_mem_cons.2 haround⟩
    · exact keeps_pure ⟨h.inside, h.around⟩
  · exact keeps_pure ⟨h.inside, h.around⟩

theorem keeps_plain (h : FlagsAsked flags text outline) {c : Char} (hc : c ∈ text) :
    Keeps flags text (plain outline c) (FlagsAsked flags text) := by
  refine keeps_get.bind fun cursor _ => ?_
  have hadd (regex : Regex) : FlagsAsked flags text (outline.add regex) := ⟨h.inside, h.around⟩
  split
  · exact (stays_charSet _).bind fun _ => keeps_pure (hadd _)
  · exact keeps_quantify h _ _ _
  · exact keeps_quantify h _ _ _
  · exact keeps_quantify h _ _ _
  · exact keeps_counted h hc
  · exact keeps_pure (hadd _)
  · exact keeps_openParenthesis h
  · exact keeps_closeParenthesis h
  · exact keeps_bar h
  · exact keeps_pure (hadd _)
  · exact keeps_pure (hadd _)
  · exact keeps_pure (hadd _)

theorem keeps_step (h : FlagsAsked flags text outline) :
    Keeps flags text (step outline) (FlagsAsked flags text) := by
  refine keeps_peek.bind fun token? _ => ?_
  split
  · exact keeps_fail_bind _ _
  · refine keeps_take.bind fun token? htoken => ?_
    split
    · exact keeps_pure h
    · exact keeps_fail _ _
    · exact (stays_escape _).bind fun _ => keeps_pure ⟨h.inside, h.around⟩
    · split
      · exact keeps_pure h
      · split
        · exact stays_remaining.bind fun _ => (stays_skipLine _).bind fun _ => keeps_pure h
        · exact keeps_plain h (mem_of_token (htoken _ rfl))

theorem keeps_steps (n : Nat) (h : FlagsAsked flags text outline) :
    Keeps flags text (steps n outline) (FlagsAsked flags text) := by
  -- A step hands the next one an outline whose flags were asked for.
  induction n generalizing outline with
  | zero => exact keeps_pure h
  | succ n ih =>
      refine keeps_get.bind fun cursor _ => ?_
      split
      · exact keeps_pure h
      · split
        · exact keeps_pure h
        · exact (keeps_step h).bind fun outline' h' => ih h'

theorem stays_finish (h : FlagsAsked flags text outline) : Stays flags text (finish outline) := by
  unfold finish
  split
  · exact keeps_failAt _ _
  · split
    · rename_i hboth
      rw [Bool.and_eq_true, List.contains_iff_mem, List.contains_iff_mem] at hboth
      exact keeps_throw ⟨h.inside _ hboth.1, h.inside _ hboth.2⟩
    · refine keeps_peek.bind fun token? _ => ?_
      split
      · exact keeps_fail _ _
      · split
        · exact keeps_failAt _ _
        · exact stays_pure _

end Outlines

theorem stays_pattern : Stays flags text (pattern flags) := by
  have hstart : FlagsAsked flags text (.start flags) :=
    ⟨fun flag hflag => Or.inl hflag, by simp [Outline.start]⟩
  refine stays_checkNext.bind fun _ => ?_
  refine stays_remaining.bind fun n => ?_
  exact (keeps_steps n hstart).bind fun outline h => (stays_finish h).bind fun _ => stays_pure _

end Reader

/-- Where reading an expression stops at a limit, the text of the expression accounts for it. -/
theorem explained_of_parse {flags : Flags} {pattern : String} {error : ReadError}
    (h : parse flags pattern = .error error) : error.Explained flags pattern.toList := by
  unfold parse at h
  split at h
  · rename_i cause hrun
    obtain rfl := Except.error.inj h
    exact (Reader.stays_pattern _ (List.suffix_refl _)).2 _ hrun
  · split at h
    · obtain rfl := Except.error.inj h
      trivial
    · cases h

end RefFilter.Regex
