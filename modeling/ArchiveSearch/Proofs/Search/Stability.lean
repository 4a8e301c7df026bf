import ArchiveSearch.Proofs.Search.Order

/-! # Stable ordering

Comparing records by keys is a total preorder, and ordering them is a stable sort: nothing is lost
or added, no record stands before a smaller one, and records that compare equal keep their order.
Only one list has these properties. So to order by several keys is to order by the last ones first
and by the first one in the end, and a key whose field has been compared before changes nothing,
whichever way it is compared.
-/

namespace ArchiveSearch

/-! ## Stable sorts -/

section Stable

variable {α : Type} {cmp : α → α → Ordering} {entries sorted others : List α} {x y : α}

/-- Whether the entries that compare equal to any given one are the same in two lists, and stand in
the same order. -/
def SameTies (cmp : α → α → Ordering) (entries others : List α) : Prop :=
  ∀ x, (entries.filter fun y => cmp x y = .eq) = others.filter fun y => cmp x y = .eq

/-- Whether a list is another one put in order, so that entries that compare equal keep their
order. -/
structure SortsStably (cmp : α → α → Ordering) (entries sorted : List α) : Prop where
  perm : sorted.Perm entries
  ordered : sorted.Pairwise fun x y => cmp x y ≠ .gt
  stable : SameTies cmp sorted entries

/-- Sorting keeps the order of entries of which none is larger than another. -/
theorem filter_mergeSort_of_tie {le : α → α → Bool}
    (htrans : ∀ x y z, le x y → le y z → le x z) (htotal : ∀ x y, le x y || le y x)
    (entries : List α) {p : α → Bool} (htie : ∀ x y, p x → p y → le x y) :
    (entries.mergeSort le).filter p = entries.filter p := by
  have hsorted : (entries.filter p).Pairwise fun x y => le x y := by
    apply List.pairwise_of_forall_mem_list
    intro x hx y hy
    exact htie x y (List.mem_filter.mp hx).2 (List.mem_filter.mp hy).2
  have hsublist : (entries.filter p).Sublist (entries.mergeSort le) :=
    List.sublist_mergeSort htrans htotal hsorted List.filter_sublist
  have hlength : (entries.filter p).length = ((entries.mergeSort le).filter p).length :=
    ((List.mergeSort_perm entries le).filter p).length_eq.symm
  -- What passes a test is a sublist of what passes it after sorting, and neither is longer.
  have hkept : (entries.filter p).Sublist ((entries.mergeSort le).filter p) := by
    simpa only [List.filter_filter, Bool.and_self] using hsublist.filter p
  exact (hkept.eq_of_length hlength).symm

namespace SameTies

theorem symm (h : SameTies cmp entries others) : SameTies cmp others entries :=
  fun x => (h x).symm

theorem trans (h : SameTies cmp entries others) (h' : SameTies cmp others sorted) :
    SameTies cmp entries sorted := fun x => (h x).trans (h' x)

theorem subset [Std.ReflCmp cmp] (h : SameTies cmp entries others) : entries ⊆ others := by
  intro x hx
  have hmem : x ∈ entries.filter fun y => cmp x y = .eq :=
    List.mem_filter.mpr ⟨hx, decide_eq_true Std.ReflCmp.compare_self⟩
  rw [h x] at hmem
  exact (List.mem_filter.mp hmem).1

theorem head_eq [Std.ReflCmp cmp] (h : SameTies cmp (x :: entries) (y :: others))
    (htie : cmp x y = .eq) : x = y := by
  have hself : cmp x x = .eq := Std.ReflCmp.compare_self
  have hfilter := h x
  simp only [List.filter_cons, hself, htie, decide_true, if_true] at hfilter
  exact (List.cons.inj hfilter).1

theorem tail (h : SameTies cmp (x :: entries) (x :: others)) : SameTies cmp entries others := by
  intro z
  have hfilter := h z
  simp only [List.filter_cons] at hfilter
  split at hfilter
  next => exact (List.cons.inj hfilter).2
  next => exact hfilter

end SameTies

/-- The first of some entries in order is not larger than any of them. -/
theorem compare_ne_gt_of_mem_cons [Std.ReflCmp cmp]
    (hordered : (x :: entries).Pairwise fun x y => cmp x y ≠ .gt) (hy : y ∈ x :: entries) :
    cmp x y ≠ .gt := by
  rcases List.mem_cons.mp hy with rfl | hmem
  · have hself : cmp y y = .eq := Std.ReflCmp.compare_self
    simp [hself]
  · exact (List.pairwise_cons.mp hordered).1 y hmem

/-- Two lists in order are equal if the entries that compare equal are the same in both. -/
theorem SameTies.eq_of_ordered [Std.TransCmp cmp] (h : SameTies cmp entries others)
    (hentries : entries.Pairwise fun x y => cmp x y ≠ .gt)
    (hothers : others.Pairwise fun x y => cmp x y ≠ .gt) : entries = others := by
  induction entries generalizing others with
  | nil => exact (List.subset_nil.mp h.symm.subset).symm
  | cons x entries ih =>
      cases others with
      | nil => exact List.subset_nil.mp h.subset
      | cons y others =>
          -- Each of the first entries is in the other list, so neither is the larger one.
          have hxy : cmp x y ≠ .gt := by
            apply compare_ne_gt_of_mem_cons hentries
            exact h.symm.subset List.mem_cons_self
          have hyx : cmp y x ≠ .gt := by
            apply compare_ne_gt_of_mem_cons hothers
            exact h.subset List.mem_cons_self
          have hswap : cmp y x = (cmp x y).swap := Std.OrientedCmp.eq_swap
          have htie : cmp x y = .eq := by
            cases hcompare : cmp x y with
            | lt =>
                rw [hcompare] at hswap
                exact absurd hswap hyx
            | eq => rfl
            | gt => exact absurd hcompare hxy
          obtain rfl := h.head_eq htie
          exact congrArg (x :: ·) (ih h.tail hentries.of_cons hothers.of_cons)

theorem SortsStably.eq [Std.TransCmp cmp] (hsorted : SortsStably cmp entries sorted)
    (hothers : SortsStably cmp entries others) : sorted = others := by
  have hsame : SameTies cmp sorted others := hsorted.stable.trans hothers.stable.symm
  exact hsame.eq_of_ordered hsorted.ordered hothers.ordered

end Stable

namespace Query

variable {keys : List SortKey} {x y : Record}

/-! ## Ordering by keys -/

theorem compareBy_ne_gt_iff : compareBy keys x y ≠ .gt ↔ InOrder keys x y :=
  Ordering.isLE_iff_ne_gt.symm.trans isLE_compareBy_iff

/-- Records that keys do not tell apart from a third one are not told apart by any of the keys. -/
theorem compareBy_eq_eq_of_subset {some : List SortKey} {r : Record} (hsub : some ⊆ keys)
    (hx : compareBy keys r x = .eq) (hy : compareBy keys r y = .eq) :
    compareBy some x y = .eq := by
  rw [compareBy_eq_eq_iff] at hx hy ⊢
  intro key hkey
  exact (hx key (hsub hkey)).symm.trans (hy key (hsub hkey))

/-- Ordering by some of the keys keeps the order of records that all the keys together do not tell
apart. -/
theorem filter_sortBy {some : List SortKey} (hsub : some ⊆ keys) (records : List Record)
    (r : Record) :
    ((sortBy some records).filter fun x => compareBy keys r x = .eq) =
      records.filter fun x => compareBy keys r x = .eq := by
  apply filter_mergeSort_of_tie isLE_compareBy_trans isLE_compareBy_total records
  intro x y hx hy
  rw [compareBy_eq_eq_of_subset hsub (of_decide_eq_true hx) (of_decide_eq_true hy)]
  rfl

theorem sortsStably_sortBy (keys : List SortKey) (records : List Record) :
    SortsStably (compareBy keys) records (sortBy keys records) where
  perm := sortBy_perm keys records
  ordered := (pairwise_sortBy keys records).imp compareBy_ne_gt_iff.mpr
  stable := filter_sortBy (List.Subset.refl keys) records

theorem sortsStably_iff {records sorted : List Record} :
    SortsStably (compareBy keys) records sorted ↔ sorted = sortBy keys records := by
  constructor
  · intro hsorted
    exact hsorted.eq (sortsStably_sortBy keys records)
  · rintro rfl
    exact sortsStably_sortBy keys records

/-- Comparing by any keys is reflexive, transitive, and turns round with the two records. Ordering
by the keys is the one stable sort: it gives the only list of the same records in which none stands
before a smaller one and those that compare equal stand in their old order. -/
theorem sortBy_lawful (keys : List SortKey) :
    (∀ x, compareBy keys x x = .eq) ∧
    (∀ x y, compareBy keys y x = (compareBy keys x y).swap) ∧
    (∀ x y z, compareBy keys x y ≠ .gt → compareBy keys y z ≠ .gt → compareBy keys x z ≠ .gt) ∧
    ∀ records sorted,
      SortsStably (compareBy keys) records sorted ↔ sorted = sortBy keys records := by
  refine ⟨fun _ => Std.ReflCmp.compare_self, compareBy_swap keys, ?_, fun _ _ => sortsStably_iff⟩
  intro x y z hxy hyz
  apply Ordering.isLE_iff_ne_gt.mp
  apply isLE_compareBy_trans x y z
  · exact Ordering.isLE_iff_ne_gt.mpr hxy
  · exact Ordering.isLE_iff_ne_gt.mpr hyz

/-- The larger of two texts comes first under a descending key. -/
theorem sortBy_lawful_descending :
    let keys : List SortKey := [⟨.id, false⟩]
    compareBy keys { id := "c" } { id := "b" } ≠ .gt ∧
      compareBy keys { id := "b" } { id := "a" } ≠ .gt ∧
      compareBy keys { id := "c" } { id := "a" } ≠ .gt := by
  intro keys
  have hcb : compareBy keys { id := "c" } { id := "b" } ≠ .gt := by decide
  have hba : compareBy keys { id := "b" } { id := "a" } ≠ .gt := by decide
  exact ⟨hcb, hba, (sortBy_lawful keys).2.2.1 _ _ _ hcb hba⟩

/-! ## One key after the other -/

/-- To order by several keys, order by all but the first, and then by the first. -/
theorem sortsStably_sortBy_sortBy (key : SortKey) (keys : List SortKey) (records : List Record) :
    SortsStably (compareBy (key :: keys)) records (sortBy [key] (sortBy keys records)) where
  perm := (sortBy_perm [key] _).trans (sortBy_perm keys records)
  ordered := by
    have hfirst := pairwise_sortBy [key] (sortBy keys records)
    have hrest : (sortBy [key] (sortBy keys records)).Pairwise fun x y =>
        (∀ k ∈ [key], k.Ties x y) → InOrder keys x y :=
      pairwise_sortBy_of_ties (pairwise_sortBy keys records)
    refine (hfirst.and hrest).imp ?_
    rintro x y ⟨hfirst, hrest⟩
    rw [compareBy_ne_gt_iff, inOrder_cons_iff]
    refine ⟨(inOrder_cons_iff.mp hfirst).1, fun hties => hrest ?_⟩
    exact List.forall_mem_singleton.mpr hties
  stable r := by
    have hfirst : [key] ⊆ key :: keys := List.cons_subset_cons key (List.nil_subset keys)
    rw [filter_sortBy hfirst, filter_sortBy (List.subset_cons_self key keys)]

theorem compareBy_append (before after : List SortKey) (x y : Record) :
    compareBy (before ++ after) x y = (compareBy before x y).then (compareBy after x y) := by
  induction before with
  | nil => rfl
  | cons key before ih => rw [List.cons_append, compareBy, compareBy, ih, Ordering.then_assoc]

/-- A key whose field has been compared before tells no more records apart. -/
theorem compareBy_drop {before after : List SortKey} {key : SortKey}
    (hearlier : ∃ k ∈ before, k.field = key.field) :
    compareBy (before ++ key :: after) = compareBy (before ++ after) := by
  funext x y
  rw [compareBy_append, compareBy_append, compareBy]
  cases hbefore : compareBy before x y with
  | lt => rfl
  | gt => rfl
  | eq =>
      obtain ⟨k, hk, hfield⟩ := hearlier
      have hties : key.Ties x y := by
        rw [SortKey.Ties, ← hfield]
        exact compareBy_eq_eq_iff.mp hbefore k hk
      rw [SortKey.compare_eq_eq_iff.mpr hties]
      rfl

/-- Ordering by a key and more keys is ordering by those and then by the first. A key whose field
stands before it, in either direction, can be left out. -/
theorem sortBy_decomposed (records : List Record) :
    (∀ key keys, sortBy (key :: keys) records = sortBy [key] (sortBy keys records)) ∧
    ∀ before key after, (∃ k ∈ before, k.field = key.field) →
      sortBy (before ++ key :: after) records = sortBy (before ++ after) records := by
  refine ⟨fun key keys => ?_, fun before key after hearlier => ?_⟩
  · exact (sortsStably_iff.mp (sortsStably_sortBy_sortBy key keys records)).symm
  · rw [sortBy, compareBy_drop hearlier]
    rfl

/-- Titles descend, records with the same title ascend by their identifiers, and a second look at
the titles, the other way round, changes nothing. -/
theorem sortBy_decomposed_titles :
    let title : SortKey := ⟨.metadata "title", false⟩
    let keys : List SortKey := [title, ⟨.id, true⟩]
    let records : List Record := [{ id := "3", metadata := some { title := some "a" } },
      { id := "2", metadata := some { title := some "b" } }, { id := "1" },
      { id := "0", metadata := some { title := some "b" } }]
    sortBy keys records = sortBy [title] (sortBy [⟨.id, true⟩] records) ∧
      (∃ k ∈ keys, k.field = .metadata "title") ∧
      sortBy (keys ++ [⟨.metadata "title", true⟩]) records = sortBy keys records := by
  intro title keys records
  have hearlier : ∃ k ∈ keys, k.field = .metadata "title" := ⟨title, List.mem_cons_self, rfl⟩
  refine ⟨(sortBy_decomposed records).1 title [⟨.id, true⟩], hearlier, ?_⟩
  exact (sortBy_decomposed records).2 keys ⟨.metadata "title", true⟩ [] hearlier

end Query

end ArchiveSearch
