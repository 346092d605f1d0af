import RefFilter.Proofs.Regex.Reading
import RefFilter.Proofs.Rule.Alike
import RefFilter.Proofs.Rule.Construction

/-! # Rules of regular expressions

The text of a regular expression always compiles, and its matcher accepts the words of its language,
whichever alternative comes first and however the loops are nested. A rule of such expressions
excludes the names that are not in the language for their axis, and the order of the alternatives
leaves no trace in what it decides.
-/

namespace RefFilter

open Regex

namespace Regex.Regular

/-! ## The order of alternatives -/

def source (whole : Regular .whole) : String := String.ofList whole.text

def branches : Regular .whole → List (Regular .branch)
  | last branch => [branch]
  | bar branch rest => branch :: branches rest

/-- The same expression with its alternatives, or those of a group in it, in another order. -/
inductive Reordered : {grade : Grade} → Regular grade → Regular grade → Prop where
  | refl {grade : Grade} (regular : Regular grade) : Reordered regular regular
  | trans {grade : Grade} {first second third : Regular grade} (hfirst : Reordered first second)
      (hsecond : Reordered second third) : Reordered first third
  | order {whole whole' : Regular .whole} (horder : whole.branches.Perm whole'.branches) :
      Reordered whole whole'
  | group {body body' : Regular .whole} (hbody : Reordered body body') :
      Reordered (group body) (group body')
  | once {atom atom' : Regular .atom} (hatom : Reordered atom atom') :
      Reordered (once atom) (once atom')
  | star {atom atom' : Regular .atom} (hatom : Reordered atom atom') :
      Reordered (star atom) (star atom')
  | cons {item item' : Regular .item} {rest rest' : Regular .branch}
      (hitem : Reordered item item') (hrest : Reordered rest rest') :
      Reordered (cons item rest) (cons item' rest')
  | last {branch branch' : Regular .branch} (hbranch : Reordered branch branch') :
      Reordered (last branch) (last branch')
  | bar {branch branch' : Regular .branch} {rest rest' : Regular .whole}
      (hbranch : Reordered branch branch') (hrest : Reordered rest rest') :
      Reordered (bar branch rest) (bar branch' rest')

theorem language_eq_sum (newline : Bool) (whole : Regular .whole) :
    whole.language newline = (whole.branches.map (language newline)).sum := by
  match whole with
  | last branch => simp [language, branches]
  | bar branch rest => simp [language, branches, language_eq_sum newline rest]

/-- Expressions that differ in the order of alternatives have the same language. -/
theorem Reordered.language_eq {grade : Grade} {regular other : Regular grade}
    (h : regular.Reordered other) (newline : Bool) :
    regular.language newline = other.language newline := by
  induction h with
  | refl regular => rfl
  | trans _ _ ihFirst ihSecond => exact ihFirst.trans ihSecond
  | order horder =>
      rw [language_eq_sum, language_eq_sum]
      exact (horder.map _).sum_eq
  | group _ ih => exact ih
  | once _ ih => exact ih
  | star _ ih => rw [language, language, ih]
  | cons _ _ ihItem ihRest => rw [language, language, ihItem, ihRest]
  | last _ ih => exact ih
  | bar _ _ ihBranch ihRest => rw [language, language, ihBranch, ihRest]

end Regex.Regular

/-! ## Matchers -/

def Matcher.ofTree (flags : Flags) (source : String) (whole : Regular .whole) : Matcher :=
  ⟨source, .regex, source, some (whole.tree flags)⟩

theorem Matcher.ofRegex_of_parse {flags : Flags} {source : String} {whole : Regular .whole}
    (h : Regex.parse [] source = .ok (whole.tree flags)) :
    ofRegex source = .ok (ofTree flags source whole) := by
  rw [ofRegex, h]
  rfl

/-- A name is accepted if it is in the language as a whole. -/
theorem Matcher.accepts_ofTree_iff {flags : Flags} (hcase : Flag.ignoreCase ∉ flags)
    (source : String) (whole : Regular .whole) (name : String) :
    (ofTree flags source whole).accepts name = true ↔
      name.toList ∈ whole.language (flags.contains .dotAll) :=
  (whole.denotes_tree hcase).fullMatch_iff name.toList

def Matcher.ofRegular (whole : Regular .whole) : Matcher := ofTree [] whole.source whole

theorem Matcher.ofRegex_source (whole : Regular .whole) :
    ofRegex whole.source = .ok (ofRegular whole) :=
  ofRegex_of_parse (parse_text (by simp) whole)

theorem Matcher.accepts_ofRegular_iff (whole : Regular .whole) (name : String) :
    (ofRegular whole).accepts name = true ↔ name.toList ∈ whole.language false :=
  accepts_ofTree_iff (by simp) whole.source whole name

theorem Matcher.accepts_ofRegular_congr {whole other : Regular .whole}
    (h : whole.Reordered other) (name : String) :
    (ofRegular whole).accepts name = (ofRegular other).accepts name := by
  rw [Bool.eq_iff_iff, accepts_ofRegular_iff, accepts_ofRegular_iff, h.language_eq]

theorem Guard.isSome_cause?_ofRegular (whole : Regular .whole) (name : String) :
    ((Guard.regex (.ofRegular whole)).cause? name).isSome = true ↔
      name.toList ∉ whole.language false := by
  rw [isSome_cause?_regex, ← Matcher.accepts_ofRegular_iff, Bool.not_eq_true', Bool.not_eq_true]

namespace Rule

/-! ## Rules -/

variable {rule other : Rule} {entries others : List (Axis × Regular .whole)}

/-- A rule of expressions excludes a reference exactly if a name that it exposes is not in the
language for its axis. -/
theorem excludes_iff_not_mem_language (hdistinct : (entries.map Prod.fst).Nodup)
    (hguards : rule.guards = entries.map fun entry => (entry.1, .regex (.ofRegular entry.2)))
    {reference : Reference} :
    rule.excludes reference = true ↔ ∃ axis name whole, (axis, whole) ∈ entries ∧
      reference.Exposes axis name ∧ name.toList ∉ whole.language false := by
  have hguard (axis : Axis) : rule.guard? axis =
      (entries.lookup axis).map fun whole => .regex (.ofRegular whole) := by
    rw [guard?, hguards]
    exact lookup_map Function.injective_id (fun whole => Guard.regex (.ofRegular whole)) _ axis
  rw [excludes_iff]
  constructor
  · intro h
    obtain ⟨axis, name, guard, hexposes, hfound, hcause⟩ := h
    rw [hguard, Option.map_eq_some_iff] at hfound
    obtain ⟨whole, hwhole, rfl⟩ := hfound
    exact ⟨axis, name, whole, mem_of_lookup hwhole, hexposes,
      (Guard.isSome_cause?_ofRegular whole name).1 hcause⟩
  · intro h
    obtain ⟨axis, name, whole, hmem, hexposes, hword⟩ := h
    refine ⟨axis, name, _, hexposes, ?_, (Guard.isSome_cause?_ofRegular whole name).2 hword⟩
    rw [hguard, lookup_of_mem hdistinct hmem]
    rfl

/-- Rules of expressions that differ in the order of alternatives decide alike. -/
theorem decide_alike_of_reordered
    (hguards : rule.guards = entries.map fun entry => (entry.1, .regex (.ofRegular entry.2)))
    (hguards' : other.guards = others.map fun entry => (entry.1, .regex (.ofRegular entry.2)))
    (hreordered : List.Forall₂ (fun entry other => entry.1 = other.1 ∧ entry.2.Reordered other.2)
      entries others) (reference : Reference) :
    (rule.decide reference).Alike (other.decide reference) := by
  refine decide_alike_of_guards ?_ fun axis name _ => Set.mem_univ name
  rw [hguards, hguards', List.forall₂_map_left_iff, List.forall₂_map_right_iff]
  refine hreordered.imp fun entry other hentry => ⟨hentry.1, fun name _ => ?_⟩
  rw [Guard.isSome_cause?_regex, Guard.isSome_cause?_regex,
    Matcher.accepts_ofRegular_congr hentry.2]

/-- A regular expression compiles, and its matcher accepts exactly the names in its language. A rule
with an expression for each of some axes is built, and it excludes a reference exactly if a name
that the reference exposes is outside the language for its axis. With the alternatives in another
order, anywhere in the expressions, a rule is built as well, and it decides every reference alike. -/
theorem regular_rule_excludes_complement :
    (∀ whole : Regular .whole, ∃ matcher, Matcher.ofRegex whole.source = .ok matcher ∧
      ∀ name, matcher.accepts name = true ↔ name.toList ∈ whole.language false) ∧
    ∀ entries : List (Axis × Regular .whole), entries ≠ [] → (entries.map Prod.fst).Nodup →
      ∀ label : String,
      ∃ rule, build (.text "regex") (expressions Regular.source entries) label = .ok rule ∧
        (∀ reference, rule.excludes reference = true ↔ ∃ axis name whole,
          (axis, whole) ∈ entries ∧ reference.Exposes axis name ∧
            name.toList ∉ whole.language false) ∧
        ∀ others : List (Axis × Regular .whole),
          List.Forall₂ (fun entry other => entry.1 = other.1 ∧ entry.2.Reordered other.2)
            entries others →
          ∃ other, build (.text "regex") (expressions Regular.source others) label = .ok other ∧
            ∀ reference, (rule.decide reference).Alike (other.decide reference) := by
  constructor
  · intro whole
    exact ⟨_, Matcher.ofRegex_source whole, Matcher.accepts_ofRegular_iff whole⟩
  · intro entries hsome hdistinct label
    obtain ⟨rule, hrule, hguards⟩ :=
      exists_build_expressions hdistinct hsome Matcher.ofRegex_source label
    refine ⟨rule, hrule, fun _ => excludes_iff_not_mem_language hdistinct hguards, ?_⟩
    intro others hreordered
    have hkeys : others.map Prod.fst = entries.map Prod.fst := by
      rw [← List.forall₂_eq_eq_eq, List.forall₂_map_left_iff, List.forall₂_map_right_iff]
      exact (hreordered.imp fun entry other hentry => hentry.1.symm).flip
    have hsome' : others ≠ [] := by
      rintro rfl
      exact hsome (List.forall₂_nil_right_iff.1 hreordered)
    obtain ⟨other, hother, hguards'⟩ :=
      exists_build_expressions (hkeys ▸ hdistinct) hsome' Matcher.ofRegex_source label
    exact ⟨other, hother, decide_alike_of_reordered hguards hguards' hreordered⟩

def literals (word : List Char) : Regular .branch :=
  word.foldr (fun c rest => .cons (.once (.char c)) rest) .nil

def either (first second : Regular .branch) : Regular .whole := .bar first (.last second)

theorem either_reordered (first second : Regular .branch) :
    (either first second).Reordered (either second first) := by
  have hbranches (first second : Regular .branch) :
      (either first second).branches = [first, second] := by
    rw [either, Regular.branches, Regular.branches]
  apply Regular.Reordered.order
  rw [hbranches, hbranches]
  exact .swap second first []

def nested (body : Regular .whole) : Regular .whole :=
  either (.cons (.star (.group body)) (literals ['c'])) (.cons (.once .point) .nil)

theorem nested_excludes_complement :
    (nested (either (literals ['a']) (literals ['a', 'b']))).source = "(?:a|ab)*c|." ∧
    ∃ rule other,
      build (.text "regex") [("branch", .ofRegex "(?:a|ab)*c|.")] "" = .ok rule ∧
      build (.text "regex") [("branch", .ofRegex "(?:ab|a)*c|.")] "" = .ok other ∧
      rule.excludes (.branch "ab") = true ∧ rule.excludes (.branch "aabac") = false ∧
      (rule.decide (.branch "aabac")).Alike (other.decide (.branch "aabac")) := by
  let regular := nested (either (literals ['a']) (literals ['a', 'b']))
  let swapped := nested (either (literals ['a', 'b']) (literals ['a']))
  have hreordered : regular.Reordered swapped :=
    .bar (.cons (.star (.group (either_reordered _ _))) (.refl _)) (.refl _)
  have hdistinct : ([(Axis.branch, regular)].map Prod.fst).Nodup := List.nodup_singleton _
  obtain ⟨hmatchers, hrules⟩ := regular_rule_excludes_complement
  obtain ⟨rule, hrule, hexcludes, hothers⟩ :=
    hrules [(.branch, regular)] (List.cons_ne_nil _ _) hdistinct ""
  obtain ⟨other, hother, halike⟩ :=
    hothers [(.branch, swapped)] (.cons ⟨rfl, hreordered⟩ .nil)
  have houtside : "ab".toList ∉ regular.language false := by
    rw [← Matcher.accepts_ofRegular_iff]
    decide +kernel
  have hinside : "aabac".toList ∈ regular.language false := by
    rw [← Matcher.accepts_ofRegular_iff]
    decide +kernel
  refine ⟨by decide, rule, other, hrule, hother, ?_, ?_, halike _⟩
  · apply (hexcludes _).2
    exact ⟨.branch, "ab", regular, List.mem_singleton_self _, .branch "ab", houtside⟩
  · rw [← Bool.not_eq_true, hexcludes]
    intro h
    obtain ⟨axis, name, whole, hmem, hexposes, hword⟩ := h
    obtain ⟨rfl, rfl⟩ := Prod.mk.inj (List.mem_singleton.1 hmem)
    cases hexposes
    exact hword hinside

end Rule

end RefFilter
