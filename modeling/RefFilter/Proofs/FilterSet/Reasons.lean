import RefFilter.Proofs.FilterSet.Partition
import RefFilter.Proofs.Rule.FirstFailure
import RefFilter.Proofs.Text.Quoted

/-! # Reasons

The reason of an exclusion is the axis, then the name and the source of a pattern, both quoted, with
the words for a miss or for a hit between them. The words come after the mark that ends the name, so
they cannot be part of it: equal reasons are about the same axis, name, source and kind of failure.
A name or a source only enters a reason or an event quoted, which makes all of them printable.
-/

namespace RefFilter

open Text Unicode

/-! ## The wording of an exclusion -/

namespace Cause

def name : Cause → String
  | .misses name _ => name
  | .hits name _ => name

def source : Cause → String
  | .misses _ source => source
  | .hits _ source => source

def isHit : Cause → Bool
  | .misses _ _ => false
  | .hits _ _ => true

theorem eq_iff {cause other : Cause} :
    cause = other ↔
      cause.name = other.name ∧ cause.source = other.source ∧ cause.isHit = other.isHit := by
  cases cause <;> cases other <;> simp [name, source, isHit]

def words : Bool → String
  | false => " does not match "
  | true => " matches excluded "

theorem message_eq (cause : Cause) :
    cause.message = quote cause.name ++ words cause.isHit ++ quote cause.source := by
  cases cause <;> rfl

/-- The words of a miss and of a hit differ in their second letter. -/
theorem words_append_iff {hit other : Bool} {xs ys : List Char} :
    (words hit).toList ++ xs = (words other).toList ++ ys ↔ hit = other ∧ xs = ys := by
  cases hit <;> cases other <;> simp [words]

theorem eq_of_message_eq {cause other : Cause} (h : cause.message = other.message) :
    cause = other := by
  rw [message_eq, message_eq, ← String.toList_inj] at h
  simp only [String.toList_append, List.append_assoc] at h
  obtain ⟨hname, hafter⟩ := quote_append_inj h
  obtain ⟨hkind, hsources⟩ := words_append_iff.1 hafter
  have hsource : cause.source = other.source ∧ ([] : List Char) = [] := by
    apply quote_append_inj
    rw [List.append_nil, List.append_nil]
    exact hsources
  exact eq_iff.2 ⟨hname, hsource.1, hkind⟩

theorem printable_message (cause : Cause) : Printable cause.message := by
  have hwords : ∀ hit, Printable (words hit) := by decide +kernel
  rw [message_eq]
  exact ((printable_quote _).append (hwords _)).append (printable_quote _)

end Cause

/-- The name of an axis ends before the colon. -/
theorem Axis.name_append_iff {axis other : Axis} {xs ys : List Char} :
    axis.name.toList ++ ':' :: xs = other.name.toList ++ ':' :: ys ↔ axis = other ∧ xs = ys := by
  cases axis <;> cases other <;> simp [name]

theorem Axis.printable_name (axis : Axis) : Printable axis.name := by
  cases axis <;> decide +kernel

theorem Category.printable_name (category : Category) : Printable category.name := by
  cases category <;> decide +kernel

/-- Reasons are equal just when they are about the same axis and the same cause. -/
theorem reason_eq_iff {axis other : Axis} {cause blame : Cause} :
    axis.name ++ ": " ++ cause.message = other.name ++ ": " ++ blame.message ↔
      axis = other ∧ cause = blame := by
  constructor
  · intro h
    rw [← String.toList_inj] at h
    simp only [String.toList_append, List.append_assoc] at h
    obtain ⟨haxis, hafter⟩ := Axis.name_append_iff.1 h
    have hmessage : cause.message = blame.message :=
      String.toList_inj.1 (List.cons.inj hafter).2
    exact ⟨haxis, Cause.eq_of_message_eq hmessage⟩
  · rintro ⟨rfl, rfl⟩
    rfl

/-! ## What excludes a reference -/

namespace Rule

variable {rule : Rule} {reference : Reference}

/-- The first axis on which a rule rejects a name of a reference, and what the name is blamed for
there. -/
structure ExcludesBy (rule : Rule) (reference : Reference) (axis : Axis) (cause : Cause) :
    Prop where
  first : rule.RejectsFirstOn reference axis
  blames : ∃ name pair, reference.Exposes axis name ∧ rule.pair? axis = some pair ∧
    pair.Blames name cause

theorem RejectsFirstOn.unique {axis other : Axis} (h : rule.RejectsFirstOn reference axis)
    (hother : rule.RejectsFirstOn reference other) : axis = other := by
  rcases h.2 other hother.1 with heq | ⟨rfl, rfl⟩
  · exact heq.symm
  · rcases hother.2 _ h.1 with heq | ⟨hdestination, -⟩
    · exact heq
    · cases hdestination

theorem ExcludesBy.unique {axis other : Axis} {cause blame : Cause}
    (h : rule.ExcludesBy reference axis cause) (hother : rule.ExcludesBy reference other blame) :
    axis = other ∧ cause = blame := by
  obtain rfl := h.first.unique hother.first
  obtain ⟨name, pair, hname, hpair, hcause⟩ := h.blames
  obtain ⟨name', pair', hname', hpair', hblame⟩ := hother.blames
  rw [← Reference.nameOn?_eq_some_iff] at hname hname'
  obtain rfl : name = name' := Option.some.inj (hname.symm.trans hname')
  obtain rfl : pair = pair' := Option.some.inj (hpair.symm.trans hpair')
  rw [← Pair.cause?_eq_ok_iff] at hcause hblame
  exact ⟨rfl, Option.some.inj (Except.ok.inj (hcause.symm.trans hblame))⟩

/-- The decision of a rule that excludes a reference is for its first failure. -/
theorem Compiled.exists_excludesBy (h : rule.Compiled) (hexcludes : rule.excludes reference = true) :
    ∃ axis cause, rule.ExcludesBy reference axis cause ∧
      (rule.decide reference).reason = axis.name ++ ": " ++ cause.message := by
  obtain ⟨axis, name, pair, cause, hfirst, hname, hpair, hblames, -, -, hreason⟩ :=
    (h.reports reference).excluded hexcludes
  exact ⟨axis, cause, ⟨hfirst, name, pair, hname, hpair, hblames⟩, hreason⟩

theorem Compiled.excludes_iff_excludesBy (h : rule.Compiled) :
    rule.excludes reference = true ↔ ∃ axis cause, rule.ExcludesBy reference axis cause := by
  constructor
  · intro hexcludes
    obtain ⟨axis, cause, hexcludesBy, -⟩ := h.exists_excludesBy hexcludes
    exact ⟨axis, cause, hexcludesBy⟩
  · rintro ⟨axis, cause, hexcludesBy⟩
    exact h.excludes_iff_rejectsOn.2 ⟨axis, hexcludesBy.first.1⟩

theorem Compiled.reason_of_excludesBy (h : rule.Compiled) {axis : Axis} {cause : Cause}
    (hexcludesBy : rule.ExcludesBy reference axis cause) :
    (rule.decide reference).reason = axis.name ++ ": " ++ cause.message := by
  have hexcludes := h.excludes_iff_excludesBy.2 ⟨axis, cause, hexcludesBy⟩
  obtain ⟨other, blame, hother, hreason⟩ := h.exists_excludesBy hexcludes
  obtain ⟨rfl, rfl⟩ := hexcludesBy.unique hother
  exact hreason

/-! ## Printable reasons -/

theorem printable_reason (rule : Rule) (reference : Reference) :
    Printable (rule.decide reference).reason := by
  unfold decide
  split
  · rename_i axis name cause _
    have hcolon : Printable ": " := by decide +kernel
    exact (axis.printable_name.append hcolon).append cause.printable_message
  · have habstains : Printable "abstains on " := by decide +kernel
    dsimp only
    split
    · decide +kernel
    · exact habstains.append reference.category.printable_name

end Rule

namespace FilterSet

variable {filters : FilterSet}

theorem printable_reason (filters : FilterSet) (reference : Reference) :
    Printable (filters.decide reference).reason := by
  unfold decide
  cases hfound : (filters.rules.map (·.decide reference)).find? (·.excluded) with
  | none =>
      have hadmission : Printable admission.reason := by decide +kernel
      exact hadmission
  | some decision =>
      obtain ⟨rule, -, rfl⟩ := List.mem_map.1 (List.mem_of_find?_eq_some hfound)
      exact rule.printable_reason reference

theorem printable_eventsOf (filters : FilterSet) (reference : Reference) :
    ∀ event ∈ filters.eventsOf reference, Printable event.text := by
  have hexcluded : Printable "Excluded " := by decide +kernel
  have hspace : Printable " " := by decide +kernel
  have hcolon : Printable ": " := by decide +kernel
  rw [eventsOf]
  split
  · rw [List.forall_mem_singleton]
    exact ((((hexcluded.append reference.category.printable_name).append hspace).append
      (printable_quote _)).append hcolon).append (filters.printable_reason reference)
  · exact List.forall_mem_nil _

theorem printable_counts (total admitted dropped : Nat) :
    Printable (Event.filtered total admitted dropped).text := by
  have hfiltered : Printable "Filtered " := by decide +kernel
  have hreferences : Printable " references: " := by decide +kernel
  have hadmitted : Printable " admitted, " := by decide +kernel
  have hdropped : Printable " excluded" := by decide +kernel
  exact (((((hfiltered.append (printable_toString _)).append hreferences).append
    (printable_toString _)).append hadmitted).append (printable_toString _)).append hdropped

theorem printable_filter (filters : FilterSet) (references : List Reference) :
    (∀ decision ∈ (filters.filter references).1.decisions, Printable decision.reason) ∧
      ∀ event ∈ (filters.filter references).2, Printable event.text := by
  constructor
  · intro decision hmem
    have hdecisions : (filters.filter references).1.decisions = _ :=
      (Splits.splitBy filters references).decisions
    rw [hdecisions] at hmem
    obtain ⟨reference, -, rfl⟩ := List.mem_map.1 hmem
    exact filters.printable_reason reference
  · intro event hmem
    rcases List.mem_append.1 hmem with hexclusion | hcounts
    · obtain ⟨reference, -, hevent⟩ := List.mem_flatMap.1 hexclusion
      exact filters.printable_eventsOf reference event hevent
    · rw [List.mem_singleton.1 hcounts]
      exact printable_counts _ _ _

/-- The reasons of two exclusions are equal just when the axes, the names, the sources of the
patterns that decide and the kinds of failure are. All reasons and everything that is noted when a
batch is filtered are printable. -/
theorem reasons_are_unambiguous_and_printable (hbuilt : ∀ rule ∈ filters.rules, rule.Built) :
    (∀ rule ∈ filters.rules, ∀ reference,
      rule.excludes reference = true ↔ ∃ axis cause, rule.ExcludesBy reference axis cause) ∧
    (∀ rule ∈ filters.rules, ∀ other ∈ filters.rules, ∀ reference compared axis faced cause blame,
      rule.ExcludesBy reference axis cause → other.ExcludesBy compared faced blame →
      ((rule.decide reference).reason = (other.decide compared).reason ↔
        axis = faced ∧ cause.name = blame.name ∧ cause.source = blame.source ∧
          cause.isHit = blame.isHit)) ∧
    (∀ rule ∈ filters.rules, ∀ reference, Printable (rule.decide reference).reason) ∧
    (∀ reference, Printable (filters.decide reference).reason) ∧
    ∀ references,
      (∀ decision ∈ (filters.filter references).1.decisions, Printable decision.reason) ∧
        ∀ event ∈ (filters.filter references).2, Printable event.text := by
  have hcompiled : ∀ rule ∈ filters.rules, rule.Compiled :=
    fun rule hmem => (hbuilt rule hmem).compiled
  refine ⟨fun rule hmem reference => (hcompiled rule hmem).excludes_iff_excludesBy, ?_,
    fun rule _ => rule.printable_reason, filters.printable_reason, filters.printable_filter⟩
  intro rule hrule other hother reference compared axis faced cause blame hcause hblame
  rw [(hcompiled rule hrule).reason_of_excludesBy hcause,
    (hcompiled other hother).reason_of_excludesBy hblame, reason_eq_iff, Cause.eq_iff]

def branchesLike (source : String) : Rule :=
  ⟨.wildcard, [(.branch, .wildcard (.ofWildcard source) (.ofWildcard ""))], "",
    by simp, by simp, by simp [Guard.policy]⟩

theorem branchesLike_excludesBy {source name : String}
    (h : (Matcher.ofWildcard source).accepts name = false) :
    (branchesLike source).ExcludesBy (.branch name) .branch (.misses name source) := by
  have hpair : (branchesLike source).pair? .branch = some (.ofWildcards source "") := rfl
  have hmisses : (Pattern.mk source .wildcard).Tells name false := ⟨_, rfl, h⟩
  refine ⟨⟨⟨name, _, .branch name, hpair, Or.inl hmisses⟩, ?_⟩,
    name, _, .branch name, hpair, .misses hmisses⟩
  rintro other ⟨_, _, hexposes, -⟩
  cases hexposes
  exact Or.inl rfl

theorem quoted_words_forge_nothing :
    ((branchesLike "c").decide (.branch "a' does not match 'b")).reason ≠
        ((branchesLike "b' does not match 'c").decide (.branch "a")).reason ∧
      ∀ event ∈ (filter ⟨[branchesLike "c", branchesLike "b' does not match 'c"]⟩
        [.branch "a' does not match 'b", .branch "a", .branch "a\nFiltered 0"]).2,
        Printable event.text := by
  have hlike (source : String) : (branchesLike source).Built :=
    ⟨.text "wildcard", [("branch", .ofWildcards source "")], "", rfl⟩
  have hbuilt : ∀ rule ∈ [branchesLike "c", branchesLike "b' does not match 'c"], rule.Built := by
    simp [hlike]
  obtain ⟨-, hreasons, -, -, hfilter⟩ := @reasons_are_unambiguous_and_printable ⟨_⟩ hbuilt
  refine ⟨?_, (hfilter _).2⟩
  have hforged : (Matcher.ofWildcard "c").accepts "a' does not match 'b" = false := by
    decide +kernel
  have hplain : (Matcher.ofWildcard "b' does not match 'c").accepts "a" = false := by
    decide +kernel
  rw [ne_eq, hreasons _ (by simp) _ (by simp) _ _ _ _ _ _ (branchesLike_excludesBy hforged)
    (branchesLike_excludesBy hplain)]
  rintro ⟨-, hname, -, -⟩
  exact absurd hname (by decide)

end FilterSet

end RefFilter
