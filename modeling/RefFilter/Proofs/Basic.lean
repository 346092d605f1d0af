import Mathlib
import RefFilter.Log

/-! # Outcomes and entries

Operations that can fail are taken apart at the points where they are put together: a sequence
succeeds exactly if its parts do, one after the other, and a traversal fails as it does on the first
item on which it fails. Entries are looked up by key, and what is found does not depend on more than
the entries of that key.
-/

namespace RefFilter

/-! ## Success -/

theorem bind_eq_ok_iff {ε α β : Type} {first : Except ε α} {next : α → Except ε β}
    {result : β} :
    (first >>= next) = .ok result ↔ ∃ value, first = .ok value ∧ next value = .ok result := by
  cases first with
  | error failure => simp [bind, Except.bind]
  | ok value => simp [bind, Except.bind]

theorem bind_congr_of_ok {ε α β : Type} {first : Except ε α} {next other : α → Except ε β}
    (h : ∀ value, first = .ok value → next value = other value) :
    (first >>= next) = first >>= other := by
  cases first with
  | error failure => rfl
  | ok value => exact h value rfl

theorem map_eq_ok_iff {ε α β : Type} {first : Except ε α} {f : α → β} {result : β} :
    first.map f = .ok result ↔ ∃ value, first = .ok value ∧ f value = result := by
  cases first with
  | error failure => simp [Except.map]
  | ok value => simp [Except.map]

theorem map_eq_error_iff {ε α β : Type} {first : Except ε α} {f : α → β} {failure : ε} :
    first.map f = .error failure ↔ first = .error failure := by
  cases first with
  | error other => simp [Except.map]
  | ok value => simp [Except.map]

theorem forM_eq_ok_iff {α : Type} {items : List α} {check : α → Except Failure Unit} :
    items.forM check = .ok () ↔ ∀ item ∈ items, check item = .ok () := by
  induction items with
  | nil => simp [List.forM, pure, Except.pure]
  | cons item rest ih =>
      rw [List.forM, bind_eq_ok_iff, List.forall_mem_cons, ← ih]
      constructor
      · intro h
        rcases h with ⟨⟨⟩, hitem, hrest⟩
        exact ⟨hitem, hrest⟩
      · intro h
        rcases h with ⟨hitem, hrest⟩
        exact ⟨(), hitem, hrest⟩

/-! ## First failures -/

/-- The item at a position of a list is the first one that has a property. -/
inductive FirstAt {α : Type} (property : α → Prop) : List α → Nat → α → Prop where
  | head {item : α} {rest : List α} (h : property item) : FirstAt property (item :: rest) 0 item
  | tail {other item : α} {rest : List α} {position : Nat} (hother : ¬ property other)
      (hrest : FirstAt property rest position item) :
      FirstAt property (other :: rest) (position + 1) item

section FirstAt

variable {α : Type} {property other stronger : α → Prop} {items : List α} {position : Nat} {item : α}

theorem FirstAt.holds (h : FirstAt property items position item) : property item := by
  induction h with
  | head h => exact h
  | tail _ _ ih => exact ih

theorem FirstAt.mem (h : FirstAt property items position item) : item ∈ items := by
  induction h with
  | head _ => exact List.mem_cons_self
  | tail _ _ ih => exact List.mem_cons_of_mem _ ih

theorem FirstAt.congr (h : FirstAt property items position item)
    (hiff : ∀ item ∈ items, (property item ↔ other item)) : FirstAt other items position item := by
  induction h with
  | head h => exact .head ((hiff _ List.mem_cons_self).1 h)
  | tail hnot _ ih =>
      rw [List.forall_mem_cons] at hiff
      exact .tail (fun hother => hnot (hiff.1.2 hother)) (ih hiff.2)

/-- The first item that has a property is the first that has a stronger one, if it has it. -/
theorem FirstAt.strengthen (h : FirstAt property items position item)
    (himplies : ∀ item, stronger item → property item) (hitem : stronger item) :
    FirstAt stronger items position item := by
  induction h with
  | head _ => exact .head hitem
  | tail hnot _ ih => exact .tail (fun hother => hnot (himplies _ hother)) (ih hitem)

theorem exists_firstAt (hmem : item ∈ items) (hitem : property item) :
    ∃ position first, FirstAt property items position first := by
  induction items with
  | nil => cases hmem
  | cons head rest ih =>
      by_cases hhead : property head
      · exact ⟨0, head, .head hhead⟩
      · have hrest : item ∈ rest := by
          rcases List.mem_cons.1 hmem with rfl | hrest
          · exact absurd hitem hhead
          · exact hrest
        obtain ⟨position, first, hfirst⟩ := ih hrest
        exact ⟨position + 1, first, .tail hhead hfirst⟩

/-- The first item that has a property is not after one that has a stronger property. -/
theorem FirstAt.le {later : Nat} {other : α} (h : FirstAt property items position item)
    (hother : FirstAt stronger items later other)
    (himplies : ∀ item, stronger item → property item) : position ≤ later := by
  induction h generalizing later with
  | head _ => exact Nat.zero_le later
  | tail hnot _ ih =>
      cases hother with
      | head hstronger => exact absurd (himplies _ hstronger) hnot
      | tail _ hrest => exact Nat.succ_le_succ (ih hrest)

theorem FirstAt.unique {later : Nat} {other : α} (h : FirstAt property items position item)
    (hother : FirstAt property items later other) : position = later ∧ item = other := by
  induction h generalizing later with
  | head hitem =>
      cases hother with
      | head _ => exact ⟨rfl, rfl⟩
      | tail hnot _ => exact absurd hitem hnot
  | tail hnot _ ih =>
      cases hother with
      | head hitem => exact absurd hitem hnot
      | tail _ hrest =>
          obtain ⟨rfl, rfl⟩ := ih hrest
          exact ⟨rfl, rfl⟩

/-- In a list that goes with another one, the first items are at the same position. -/
theorem FirstAt.exists_related {β : Type} {related : α → β → Prop} {counterpart : β → Prop}
    {others : List β} (h : FirstAt property items position item)
    (hrelated : List.Forall₂ related items others)
    (hiff : ∀ item other, related item other → (property item ↔ counterpart other)) :
    ∃ other, others[position]? = some other ∧ FirstAt counterpart others position other ∧
      related item other := by
  induction h generalizing others with
  | head hitem =>
      cases hrelated with
      | cons hhead _ => exact ⟨_, rfl, .head ((hiff _ _ hhead).1 hitem), hhead⟩
  | tail hnot _ ih =>
      cases hrelated with
      | cons hhead hrest =>
          obtain ⟨other, hother, hfirst, hitem⟩ := ih hrest
          exact ⟨other, hother, .tail (fun h => hnot ((hiff _ _ hhead).2 h)) hfirst, hitem⟩

end FirstAt

/-- The operation fails on an item. -/
def FailsOn {α β : Type} (operation : α → Except Failure β) (item : α) : Prop :=
  ∃ failure, operation item = .error failure

/-- An item has a related one in a list that goes with its own. -/
theorem exists_of_forall₂ {α β : Type} {related : α → β → Prop} {items : List α} {others : List β}
    (h : List.Forall₂ related items others) {item : α} (hmem : item ∈ items) :
    ∃ other ∈ others, related item other := by
  induction h with
  | nil => cases hmem
  | @cons head other rest others hhead _ ih =>
      rcases List.mem_cons.1 hmem with rfl | hrest
      · exact ⟨other, List.mem_cons_self, hhead⟩
      · obtain ⟨found, hfound, hrelated⟩ := ih hrest
        exact ⟨found, List.mem_cons_of_mem _ hfound, hrelated⟩

/-- Items that go together have a weaker relation, if it follows for the members of the lists. -/
theorem forall₂_imp_of_mem {α β : Type} {related weaker : α → β → Prop} {items : List α}
    {others : List β} (h : List.Forall₂ related items others)
    (himplies : ∀ item ∈ items, ∀ other ∈ others, related item other → weaker item other) :
    List.Forall₂ weaker items others := by
  induction h with
  | nil => exact .nil
  | @cons item other items others hhead _ ih =>
      have hitem := himplies item List.mem_cons_self other List.mem_cons_self hhead
      refine .cons hitem (ih fun item hmem other hother => ?_)
      exact himplies item (List.mem_cons_of_mem _ hmem) other (List.mem_cons_of_mem _ hother)

section Traversal

variable {α β γ : Type} {operation : α → Except Failure β} {items : List α}

theorem mapM_eq_ok_iff {results : List β} :
    items.mapM operation = .ok results ↔
      List.Forall₂ (fun item result => operation item = .ok result) items results := by
  induction items generalizing results with
  | nil => simp [pure, Except.pure, eq_comm]
  | cons item rest ih =>
      rw [List.mapM_cons, bind_eq_ok_iff, List.forall₂_cons_left_iff]
      constructor
      · intro h
        rcases h with ⟨result, hresult, h⟩
        obtain ⟨others, hothers, h⟩ := bind_eq_ok_iff.1 h
        exact ⟨result, others, hresult, ih.1 hothers, (Except.ok.inj h).symm⟩
      · intro h
        rcases h with ⟨result, others, hresult, hothers, rfl⟩
        exact ⟨result, hresult, bind_eq_ok_iff.2 ⟨others, ih.2 hothers, rfl⟩⟩

/-- A traversal fails as it does on the first item on which it fails. -/
theorem mapM_eq_error_iff {failure : Failure} :
    items.mapM operation = .error failure ↔
      ∃ position item, FirstAt (FailsOn operation) items position item ∧
        operation item = .error failure := by
  induction items with
  | nil =>
      refine iff_of_false (by simp [pure, Except.pure]) ?_
      intro h
      rcases h with ⟨position, item, hfirst, -⟩
      cases hfirst
  | cons item rest ih =>
      rw [List.mapM_cons]
      cases hitem : operation item with
      | error cause =>
          constructor
          · intro h
            obtain rfl := Except.error.inj h
            exact ⟨0, item, .head ⟨cause, hitem⟩, hitem⟩
          · intro h
            rcases h with ⟨position, other, hfirst, hother⟩
            cases hfirst with
            | head _ =>
                obtain rfl := Except.error.inj (hitem.symm.trans hother)
                rfl
            | tail hnot _ => exact absurd ⟨cause, hitem⟩ hnot
      | ok result =>
          have hnot : ¬ FailsOn operation item := by
            intro h
            obtain ⟨cause, hcause⟩ := h
            rw [hitem] at hcause
            cases hcause
          have hbind : (Except.ok result >>= fun result =>
              rest.mapM operation >>= fun results => pure (result :: results)) = .error failure ↔
              rest.mapM operation = .error failure := by
            cases rest.mapM operation <;> simp [bind, Except.bind, pure, Except.pure]
          rw [hbind, ih]
          constructor
          · intro h
            rcases h with ⟨position, other, hfirst, hother⟩
            exact ⟨position + 1, other, .tail hnot hfirst, hother⟩
          · intro h
            rcases h with ⟨position, other, hfirst, hother⟩
            cases hfirst with
            | head hfails => exact absurd hfails hnot
            | tail _ hrest => exact ⟨_, other, hrest, hother⟩

/-- After a traversal that succeeded, a second one goes as a traversal that does both on each
item. -/
theorem mapM_bind_of_ok {next : β → Except Failure γ} {results : List β}
    (h : items.mapM operation = .ok results) :
    results.mapM next = items.mapM fun item => operation item >>= next := by
  rw [mapM_eq_ok_iff] at h
  induction h with
  | nil => rfl
  | cons hhead _ ih =>
      rw [List.mapM_cons, List.mapM_cons, hhead, ih]
      rfl

end Traversal

/-! ## Traced operations -/

namespace Traced

variable {α β : Type}

@[simp] theorem result_pure (value : α) : (pure value : Traced α).result = .ok value := rfl

@[simp] theorem events_pure (value : α) : (pure value : Traced α).events = [] := rfl

@[simp] theorem result_liftM (result : Except Failure α) :
    (liftM result : Traced α).result = result := rfl

theorem result_bind (first : Traced α) (next : α → Traced β) :
    (first >>= next).result = first.result >>= fun value => (next value).result := by
  rcases first with ⟨_ | value, events⟩
  · rfl
  · rfl

theorem result_bind_eq_ok_iff {first : Traced α} {next : α → Traced β} {result : β} :
    (first >>= next).result = .ok result ↔
      ∃ value, first.result = .ok value ∧ (next value).result = .ok result := by
  rw [result_bind, bind_eq_ok_iff]

theorem bind_of_ok {first : Traced α} {next : α → Traced β} {value : α}
    (h : first.result = .ok value) :
    first >>= next = ⟨(next value).result, first.events ++ (next value).events⟩ := by
  rcases first with ⟨result, events⟩
  obtain rfl : result = .ok value := h
  rfl

theorem bind_of_error {first : Traced α} {next : α → Traced β} {failure : Failure}
    (h : first.result = .error failure) : first >>= next = ⟨.error failure, first.events⟩ := by
  rcases first with ⟨result, events⟩
  obtain rfl : result = .error failure := h
  rfl

end Traced

/-! ## Values by key -/

section Lookup

variable {κ α β : Type} [BEq κ] [LawfulBEq κ]

theorem lookup_of_mem {entries : List (κ × α)} (hdistinct : (entries.map Prod.fst).Nodup)
    {key : κ} {value : α} (hmem : (key, value) ∈ entries) : entries.lookup key = some value := by
  induction entries with
  | nil => cases hmem
  | cons head rest ih =>
      rw [List.map_cons, List.nodup_cons] at hdistinct
      rcases List.mem_cons.1 hmem with rfl | hrest
      · exact List.lookup_cons_self
      · have hne : key ≠ head.1 := by
          rintro rfl
          exact hdistinct.1 (List.mem_map.2 ⟨_, hrest, rfl⟩)
        rw [List.lookup_cons, beq_false_of_ne hne]
        exact ih hdistinct.2 hrest

theorem mem_of_lookup {entries : List (κ × α)} {key : κ} {value : α}
    (h : entries.lookup key = some value) : (key, value) ∈ entries := by
  obtain ⟨before, after, rfl, -⟩ := List.lookup_eq_some_iff.1 h
  simp

theorem lookup_eq_some_iff {entries : List (κ × α)} (hdistinct : (entries.map Prod.fst).Nodup)
    {key : κ} {value : α} : entries.lookup key = some value ↔ (key, value) ∈ entries :=
  ⟨mem_of_lookup, lookup_of_mem hdistinct⟩

/-- The order of entries of distinct keys plays no role. -/
theorem lookup_of_perm {entries others : List (κ × α)} (h : entries.Perm others)
    (hdistinct : (others.map Prod.fst).Nodup) (key : κ) :
    entries.lookup key = others.lookup key := by
  have hentries : (entries.map Prod.fst).Nodup := (h.map Prod.fst).nodup_iff.2 hdistinct
  ext value
  rw [lookup_eq_some_iff hentries, lookup_eq_some_iff hdistinct, h.mem_iff]

theorem lookup_of_mem_of_perm {entries others : List (κ × α)} (h : entries.Perm others)
    (hdistinct : (others.map Prod.fst).Nodup) {key : κ} {value : α} (hmem : (key, value) ∈ others) :
    entries.lookup key = some value :=
  (lookup_of_perm h hdistinct key).trans (lookup_of_mem hdistinct hmem)

theorem lookup_eq_none_of_perm {entries others : List (κ × α)} (h : entries.Perm others) {key : κ}
    (hkey : key ∉ others.map Prod.fst) : entries.lookup key = none := by
  rw [Option.eq_none_iff_forall_ne_some]
  intro value hvalue
  exact hkey (List.mem_map.2 ⟨_, h.subset (mem_of_lookup hvalue), rfl⟩)

/-- Values that are made entry by entry, under keys made from different ones, are found where those
that they are made from were. -/
theorem lookup_map {μ : Type} [BEq μ] [LawfulBEq μ] {name : κ → μ} (hname : Function.Injective name)
    (value : α → β) (entries : List (κ × α)) (key : κ) :
    (entries.map fun entry => (name entry.1, value entry.2)).lookup (name key) =
      (entries.lookup key).map value := by
  induction entries with
  | nil => rfl
  | cons head rest ih =>
      rw [List.map_cons, List.lookup_cons, List.lookup_cons]
      by_cases hkey : key = head.1
      · simp [hkey]
      · rw [beq_false_of_ne hkey, beq_false_of_ne (mt (hname ·) hkey)]
        exact ih

omit [LawfulBEq κ] in
/-- Lists that go together entry by entry have related values at every key. -/
theorem lookup_rel {related : α → β → Prop} {entries : List (κ × α)} {others : List (κ × β)}
    (h : List.Forall₂ (fun entry other => entry.1 = other.1 ∧ related entry.2 other.2)
      entries others) (key : κ) :
    Option.Rel related (entries.lookup key) (others.lookup key) := by
  induction h with
  | nil => exact .none
  | @cons entry other entries others hhead _ ih =>
      rw [List.lookup_cons, List.lookup_cons, ← hhead.1]
      cases key == entry.1 with
      | true => exact .some hhead.2
      | false => exact ih

/-- Of items without common keys, the one that has a key is found by it. -/
theorem find?_of_disjoint {keys : α → List κ} {items : List α}
    (hdisjoint : items.Pairwise (Function.onFun List.Disjoint keys)) {item : α} (hmem : item ∈ items)
    {key : κ} (hkey : key ∈ keys item) :
    items.find? (fun item => (keys item).contains key) = some item := by
  induction items with
  | nil => cases hmem
  | cons head rest ih =>
      rw [List.pairwise_cons] at hdisjoint
      by_cases hhead : key ∈ keys head
      · rcases List.mem_cons.1 hmem with rfl | hrest
        · exact List.find?_cons_of_pos (List.contains_iff_mem.2 hhead)
        · exact absurd hkey (hdisjoint.1 item hrest hhead)
      · rcases List.mem_cons.1 hmem with rfl | hrest
        · exact absurd hkey hhead
        · rw [List.find?_cons_of_neg (by simpa using hhead)]
          exact ih hdisjoint.2 hrest

end Lookup

end RefFilter
