import ArchiveSearch.Search.Order
import Mathlib.Data.List.Nodup

/-! # Ordering by several keys

A key compares the texts of two records, ascending or descending. Several keys compare them by
the first key that tells them apart. The records are put in this order, and those that no key
tells apart keep the order that they had.
-/

namespace ArchiveSearch

/-! ## Stable sorting -/

section Stable

variable {α : Type} {le : α → α → Bool}

/-- Sorting keeps what holds between the entries of a list in their order, for all entries that
are as small as each other. -/
theorem pairwise_mergeSort_of_tie (htrans : ∀ x y z, le x y → le y z → le x z)
    (htotal : ∀ x y, le x y || le y x) {R : α → α → Prop} {entries : List α}
    (hentries : entries.Pairwise R) :
    (entries.mergeSort le).Pairwise fun x y => le y x → R x y := by
  -- The entries are sorted together with their positions, which then decide between equals.
  have hsorted := List.pairwise_mergeSort (List.zipIdxLE_trans htrans)
    (List.zipIdxLE_total htotal) entries.zipIdx
  have hperm := List.mergeSort_perm entries.zipIdx (List.zipIdxLE le)
  have hdistinct : (entries.zipIdx.mergeSort (List.zipIdxLE le)).Pairwise (·.2 ≠ ·.2) := by
    rw [← List.pairwise_map, ← List.Nodup, (hperm.map _).nodup_iff, List.zipIdx_map_snd]
    exact List.nodup_range'
  rw [← List.mergeSort_zipIdx, List.pairwise_map]
  refine (hsorted.and hdistinct).imp_of_mem fun {x y} hx hy hxy hle => ?_
  obtain ⟨hle', hne⟩ := hxy
  have hlt : x.2 < y.2 := by
    simp only [List.zipIdxLE, hle, if_true] at hle'
    split at hle'
    next => exact Nat.lt_of_le_of_ne (of_decide_eq_true hle') hne
    next => exact absurd hle' Bool.false_ne_true
  obtain ⟨hxlt, hxeq⟩ := List.getElem?_eq_some_iff.mp
    (List.mem_zipIdx_iff_getElem?.mp (List.mem_mergeSort.mp hx))
  obtain ⟨hylt, hyeq⟩ := List.getElem?_eq_some_iff.mp
    (List.mem_zipIdx_iff_getElem?.mp (List.mem_mergeSort.mp hy))
  rw [← hxeq, ← hyeq]
  exact List.pairwise_iff_getElem.mp hentries _ _ hxlt hylt hlt

end Stable

namespace Query

/-! ## One key -/

/-- Comparing texts is what their order says. -/
theorem isLE_compare_text (s t : String) : (Ord.compare s t).isLE ↔ s ≤ t := by
  change (compareOfLessAndEq s t).isLE ↔ s ≤ t
  unfold compareOfLessAndEq
  split
  next hlt => exact iff_of_true rfl (String.not_lt.mp (String.lt_asymm hlt))
  next hnlt =>
    split
    next heq => exact iff_of_true rfl (heq ▸ String.le_refl s)
    next hne =>
      refine iff_of_false Bool.false_ne_true fun hle => hne ?_
      exact String.le_antisymm hle (String.not_lt.mp hnlt)

namespace SortKey

/-- Whether a key does not tell two records apart. -/
def Ties (key : SortKey) (x y : Record) : Prop := x.sortText key.field = y.sortText key.field

/-- Whether a key lets a record stand before another. -/
def Allows (key : SortKey) (x y : Record) : Prop :=
  if key.ascending then x.sortText key.field ≤ y.sortText key.field
  else y.sortText key.field ≤ x.sortText key.field

variable {key : SortKey} {x y : Record}

/-- A descending key compares as an ascending one does the other way round. -/
theorem compare_eq (key : SortKey) (x y : Record) :
    key.compare x y =
      if key.ascending then Ord.compare (x.sortText key.field) (y.sortText key.field)
      else Ord.compare (y.sortText key.field) (x.sortText key.field) := by
  unfold SortKey.compare
  split
  next => rfl
  next => exact Std.OrientedOrd.eq_swap.symm

theorem isLE_compare_iff : (key.compare x y).isLE ↔ key.Allows x y := by
  rw [compare_eq, Allows]
  split
  next => exact isLE_compare_text ..
  next => exact isLE_compare_text ..

theorem compare_eq_eq_iff : key.compare x y = .eq ↔ key.Ties x y := by
  rw [compare_eq, Ties]
  split
  next => exact Std.compare_eq_iff_eq
  next => exact Std.compare_eq_iff_eq.trans eq_comm

theorem Allows.trans {z : Record} (hxy : key.Allows x y) (hyz : key.Allows y z) :
    key.Allows x z := by
  unfold Allows at hxy hyz ⊢
  split at hxy
  next hascending =>
    rw [if_pos hascending] at hyz ⊢
    exact String.le_trans hxy hyz
  next hdescending =>
    rw [if_neg hdescending] at hyz ⊢
    exact String.le_trans hyz hxy

instance transCmp (key : SortKey) : Std.TransCmp key.compare where
  eq_swap {x y} := by
    rw [compare_eq, compare_eq]
    split
    next => exact Std.OrientedOrd.eq_swap
    next => exact Std.OrientedOrd.eq_swap
  isLE_trans {x y z} hxy hyz := by
    rw [isLE_compare_iff] at hxy hyz ⊢
    exact hxy.trans hyz

end SortKey

/-! ## Several keys -/

variable {keys : List SortKey} {x y : Record}

/-- Whether every key lets a record stand before another, unless a key before it tells them
apart. -/
def InOrder (keys : List SortKey) (x y : Record) : Prop :=
  ∀ earlier key later, keys = earlier ++ key :: later →
    (∀ k ∈ earlier, k.Ties x y) → key.Allows x y

theorem inOrder_cons_iff {key : SortKey} :
    InOrder (key :: keys) x y ↔ key.Allows x y ∧ (key.Ties x y → InOrder keys x y) := by
  constructor
  · intro h
    refine ⟨h [] key keys rfl (by simp), fun hties earlier next later hkeys hearlier => ?_⟩
    exact h (key :: earlier) next later (congrArg (key :: ·) hkeys)
      (List.forall_mem_cons.mpr ⟨hties, hearlier⟩)
  · rintro ⟨hallows, hrest⟩ earlier next later hkeys hearlier
    cases earlier with
    | nil =>
        obtain ⟨rfl, -⟩ := List.cons.inj hkeys
        exact hallows
    | cons first others =>
        obtain ⟨rfl, htail⟩ := List.cons.inj hkeys
        obtain ⟨hties, hothers⟩ := List.forall_mem_cons.mp hearlier
        exact hrest hties others next later htail hothers

theorem isLE_compareBy_iff : (compareBy keys x y).isLE ↔ InOrder keys x y := by
  induction keys with
  | nil =>
      refine iff_of_true rfl fun earlier key later hkeys => ?_
      exact absurd hkeys.symm (by simp)
  | cons key rest ih =>
      rw [compareBy, inOrder_cons_iff, ← SortKey.isLE_compare_iff, ← SortKey.compare_eq_eq_iff,
        ← ih]
      cases key.compare x y <;> simp

theorem compareBy_eq_eq_iff : compareBy keys x y = .eq ↔ ∀ key ∈ keys, key.Ties x y := by
  induction keys with
  | nil => simp [compareBy]
  | cons key rest ih =>
      rw [compareBy, Ordering.then_eq_eq, SortKey.compare_eq_eq_iff, ih, List.forall_mem_cons]

instance transCmp (keys : List SortKey) : Std.TransCmp (compareBy keys) := by
  induction keys with
  | nil => exact { eq_swap := rfl, isLE_trans := fun _ _ => rfl }
  | cons key rest ih =>
      exact inferInstanceAs (Std.TransCmp (compareLex key.compare (compareBy rest)))

theorem compareBy_swap (keys : List SortKey) (x y : Record) :
    compareBy keys y x = (compareBy keys x y).swap :=
  Std.OrientedCmp.eq_swap

/-! ## Ordered records -/

theorem sortBy_perm (keys : List SortKey) (records : List Record) :
    (sortBy keys records).Perm records :=
  List.mergeSort_perm records _

theorem isLE_compareBy_trans (x y z : Record) (hxy : (compareBy keys x y).isLE)
    (hyz : (compareBy keys y z).isLE) : (compareBy keys x z).isLE :=
  Std.TransCmp.isLE_trans hxy hyz

theorem isLE_compareBy_total (x y : Record) :
    ((compareBy keys x y).isLE || (compareBy keys y x).isLE) = true := by
  rw [compareBy_swap keys x y]
  cases compareBy keys x y <;> rfl

/-- Sorted records stand in the order of the keys. -/
theorem pairwise_sortBy (keys : List SortKey) (records : List Record) :
    (sortBy keys records).Pairwise (InOrder keys) :=
  (List.pairwise_mergeSort isLE_compareBy_trans isLE_compareBy_total records).imp
    isLE_compareBy_iff.mp

/-- Records that no key tells apart keep what holds between them in their order. -/
theorem pairwise_sortBy_of_ties {R : Record → Record → Prop} {records : List Record}
    (hrecords : records.Pairwise R) :
    (sortBy keys records).Pairwise fun x y => (∀ key ∈ keys, key.Ties x y) → R x y := by
  refine (pairwise_mergeSort_of_tie isLE_compareBy_trans isLE_compareBy_total hrecords).imp ?_
  intro x y h hties
  refine h ?_
  rw [compareBy_swap keys x y, compareBy_eq_eq_iff.mpr hties]
  rfl

end Query

end ArchiveSearch
