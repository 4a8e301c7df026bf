import ArchiveSearch.Book.Basic
import ArchiveSearch.Proofs.Book.Hierarchy
import ArchiveSearch.Proofs.Book.Roots
import Mathlib.Data.List.Flatten

/-! # Records under a scope of roots

Two roots that share items do not list them twice, and an item that lies under a root that is
ruled out is not listed at all. The records that are left stand in the order of the hierarchy,
those of one item in the order of their files, so no two of them share item and file.
-/

namespace ArchiveSearch

open Query (Scope)

/-- Whether an item lies under the roots to start from, and under none that is ruled out. -/
def Contents.InScope (c : Contents) (roots : Scope) (id : String) : Prop :=
  (∃ root ∈ roots.starts, c.Under root id) ∧ ∀ root ∈ roots.excluded, ¬c.Under root id

/-- The items in the order of the hierarchy: what lies under one root after the other. -/
def Contents.order (c : Contents) (roots : Scope) : List String := roots.starts.flatMap c.preorder

namespace Book

variable {b : Book}

/-! ## Records of an item -/

/-- The segment of an item under a name. -/
def segment? (b : Book) (id file : String) : Option Segment :=
  (b.texts.find? id).bind (·.find? file)

/-- Whether a record is one of the book: it has the metadata of its item, and the segment under
its name, unless the item has no segments at all. -/
structure Holds (b : Book) (r : Record) : Prop where
  metadata : r.metadata.isSome ∧ r.metadata = b.items.find? r.id
  segment : (r.segment.isSome ∧ r.segment = b.segment? r.id r.file) ∨
    ((∀ file, b.segment? r.id file = none) ∧ r.file = "" ∧ r.segment = none)

theorem mem_segments_iff {id file : String} {segment : Segment} :
    (file, segment) ∈ b.segments id ↔ b.segment? id file = some segment := by
  unfold segments segment?
  cases b.texts.find? id with
  | none => simp [Dictionary.empty]
  | some found => exact Dictionary.find?_eq_some_iff.symm

theorem segments_eq_nil_iff {id : String} :
    b.segments id = [] ↔ ∀ file, b.segment? id file = none := by
  rw [List.eq_nil_iff_forall_not_mem]
  constructor
  · intro hnone file
    by_contra hsome
    obtain ⟨segment, hsegment⟩ := Option.ne_none_iff_exists'.mp hsome
    exact hnone (file, segment) (mem_segments_iff.mpr hsegment)
  · rintro hnone ⟨file, segment⟩ hmem
    rw [mem_segments_iff, hnone] at hmem
    exact Option.some_ne_none segment hmem.symm

theorem records_of_find?_eq_none {id : String} (hitem : b.items.find? id = none) :
    b.records id = [] := by
  simp [records, hitem]

/-- The records of an item with metadata: one for each segment, or a single one without. -/
theorem records_of_find?_eq_some {id : String} {m : Metadata}
    (hitem : b.items.find? id = some m) :
    b.records id =
      if b.segments id = [] then [{ id, metadata := m }]
      else (b.segments id).map fun (file, segment) => { id, file, metadata := m, segment } := by
  unfold records
  rw [hitem]
  cases hsegments : b.segments id with
  | nil => rfl
  | cons entry rest => simp

/-- The records of an item are exactly those of the book that bear its identifier. -/
theorem mem_records_iff {id : String} {r : Record} :
    r ∈ b.records id ↔ r.id = id ∧ b.Holds r := by
  cases hitem : b.items.find? id with
  | none =>
      rw [records_of_find?_eq_none hitem]
      refine iff_of_false List.not_mem_nil ?_
      rintro ⟨rfl, ⟨hsome, heq⟩, -⟩
      rw [heq, hitem] at hsome
      exact Bool.false_ne_true hsome
  | some m =>
      rw [records_of_find?_eq_some hitem]
      split
      next hnone =>
        rw [List.mem_singleton]
        constructor
        · rintro rfl
          exact ⟨rfl, ⟨rfl, hitem.symm⟩, .inr ⟨segments_eq_nil_iff.mp hnone, rfl, rfl⟩⟩
        · obtain ⟨id', file, metadata, segment⟩ := r
          rintro ⟨rfl, ⟨-, hmetadata⟩, ⟨hsome, hsegment⟩ | ⟨-, hfile, hsegment⟩⟩
          · rw [hsegment, segments_eq_nil_iff.mp hnone] at hsome
            exact absurd hsome Bool.false_ne_true
          · simp only at hmetadata hfile hsegment
            rw [hmetadata, hfile, hsegment, hitem]
      next hsome =>
        rw [List.mem_map]
        constructor
        · rintro ⟨⟨file, segment⟩, hmem, rfl⟩
          exact ⟨rfl, ⟨rfl, hitem.symm⟩, .inl ⟨rfl, (mem_segments_iff.mp hmem).symm⟩⟩
        · obtain ⟨id', file, metadata, segment⟩ := r
          rintro ⟨rfl, ⟨-, hmetadata⟩, ⟨hsegment, hfind⟩ | ⟨hnone, -⟩⟩
          · obtain ⟨segment, rfl⟩ := Option.isSome_iff_exists.mp hsegment
            refine ⟨(file, segment), mem_segments_iff.mpr hfind.symm, ?_⟩
            simp only at hmetadata ⊢
            rw [hmetadata, hitem]
          · exact absurd (segments_eq_nil_iff.mpr hnone) hsome

/-- The records of an item stand in the order of their files. -/
theorem pairwise_records (id : String) :
    (b.records id).Pairwise fun x y => x.file < y.file := by
  cases hitem : b.items.find? id with
  | none =>
      rw [records_of_find?_eq_none hitem]
      exact List.Pairwise.nil
  | some m =>
      rw [records_of_find?_eq_some hitem]
      split
      next => exact List.pairwise_singleton ..
      next =>
        rw [List.pairwise_map]
        exact ((b.texts.find? id).getD .empty).ascending

/-! ## Records of a scope -/

/-- Whether a record stands before another in the order of the hierarchy, the records of one item
in the order of their files. -/
def Before (b : Book) (roots : Scope) (x y : Record) : Prop :=
  (b.contents.order roots).idxOf x.id < (b.contents.order roots).idxOf y.id ∨
    (x.id = y.id ∧ x.file < y.file)

theorem Before.place_ne {roots : Scope} {x y : Record} (h : b.Before roots x y) :
    (x.id, x.file) ≠ (y.id, y.file) := by
  intro heq
  obtain ⟨hid, hfile⟩ := Prod.mk.inj heq
  rcases h with hlt | ⟨-, hlt⟩
  · exact Nat.lt_irrefl _ (hid ▸ hlt)
  · exact String.lt_irrefl _ (hfile ▸ hlt)

theorem mem_pool_iff {roots : Scope} {id : String} :
    id ∈ b.pool roots ↔ b.contents.InScope roots id := by
  simp only [pool, mem_resolveRoots, Contents.InScope, Contents.mem_reachable_iff]

/-- The records under a scope are those of the book whose items are in the scope. -/
theorem mem_candidates_iff {roots : Scope} {r : Record} :
    r ∈ b.candidates roots ↔ b.contents.InScope roots r.id ∧ b.Holds r := by
  simp only [candidates, List.mem_flatMap, mem_records_iff, mem_pool_iff]
  constructor
  · rintro ⟨id, hscope, rfl, hholds⟩
    exact ⟨hscope, hholds⟩
  · rintro ⟨hscope, hholds⟩
    exact ⟨r.id, hscope, rfl, hholds⟩

/-- The records under a scope stand in the order of the hierarchy. -/
theorem pairwise_candidates (roots : Scope) :
    (b.candidates roots).Pairwise (b.Before roots) := by
  have horder : b.contents.order roots = roots.starts.flatMap b.contents.reachable := by
    have hsame : b.contents.reachable = b.contents.preorder := by
      funext root
      exact Contents.reachable_eq_preorder _ root
    rw [Contents.order, hsame]
  -- Inside one item the files decide, and between two items their places in the pool.
  refine List.pairwise_flatMap.mpr ⟨fun id _ => ?_, pairwise_resolveRoots.imp fun hlt => ?_⟩
  · refine (pairwise_records id).imp_of_mem fun hx hy hlt => .inr ⟨?_, hlt⟩
    rw [(mem_records_iff.mp hx).1, (mem_records_iff.mp hy).1]
  · intro x hx y hy
    refine .inl ?_
    rwa [(mem_records_iff.mp hx).1, (mem_records_iff.mp hy).1, horder]

end Book

end ArchiveSearch
