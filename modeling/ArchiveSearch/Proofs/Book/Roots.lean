import ArchiveSearch.Book.Roots
import Mathlib.Data.List.Basic
import Mathlib.Data.List.Induction

/-! # What a scope of roots picks

A scope is resolved in one pass over what its roots list, for any function that lists what lies
under a root. The pass picks what is neither ruled out nor picked before. So an item is picked if
some root to start from lists it and no root that is ruled out does, and the items that are picked
stand in the order in which they are first listed. What a root lists a second time is not picked
again, so writing a root once more changes nothing, and of the roots that are ruled out neither
their order nor their number matters.
-/

namespace ArchiveSearch

open Query (Scope)

/-! ## One pass -/

/-- Picks one more item, unless it is ruled out or has been picked. -/
def pick (excluded picked : List String) (id : String) : List String :=
  if id ∈ excluded ∨ id ∈ picked then picked else picked ++ [id]

/-- What is picked in one pass. -/
def pickAll (excluded entries : List String) : List String := entries.foldl (pick excluded) []

section Pass

variable {excluded entries picked : List String} {id x : String}

theorem pick_of_passed (h : id ∈ excluded ∨ id ∈ picked) : pick excluded picked id = picked :=
  if_pos h

theorem mem_pick : x ∈ pick excluded picked id ↔ x ∈ picked ∨ (x = id ∧ x ∉ excluded) := by
  unfold pick
  split
  next hpassed =>
    refine (or_iff_left_of_imp ?_).symm
    rintro ⟨rfl, hallowed⟩
    exact hpassed.resolve_left hallowed
  next hnew =>
    rw [List.mem_append, List.mem_singleton]
    refine or_congr_right (and_iff_left_of_imp ?_).symm
    rintro rfl
    exact (not_or.mp hnew).1

/-- Only the members of what is ruled out count. -/
theorem pick_congr {other : List String} (h : ∀ id, id ∈ other ↔ id ∈ excluded) :
    pick other = pick excluded := by
  funext picked id
  simp only [pick, h]

theorem pickAll_append (excluded entries more : List String) :
    pickAll excluded (entries ++ more) = more.foldl (pick excluded) (pickAll excluded entries) :=
  List.foldl_append

theorem pickAll_concat (excluded entries : List String) (id : String) :
    pickAll excluded (entries ++ [id]) = pick excluded (pickAll excluded entries) id :=
  pickAll_append excluded entries [id]

theorem mem_pickAll : x ∈ pickAll excluded entries ↔ x ∈ entries ∧ x ∉ excluded := by
  induction entries using List.reverseRecOn with
  | nil => simp [pickAll]
  | append_singleton entries id ih =>
      rw [pickAll_concat, mem_pick, ih, List.mem_append, List.mem_singleton, or_and_right]

/-- Items that are ruled out or have been picked change nothing. -/
theorem foldl_pick_of_passed (h : ∀ id ∈ entries, id ∈ excluded ∨ id ∈ picked) :
    entries.foldl (pick excluded) picked = picked := by
  induction entries with
  | nil => rfl
  | cons id rest ih =>
      obtain ⟨hid, hrest⟩ := List.forall_mem_cons.mp h
      rw [List.foldl_cons, pick_of_passed hid, ih hrest]

theorem eraseDups_concat (entries : List String) (id : String) :
    (entries ++ [id]).eraseDups =
      if id ∈ entries then entries.eraseDups else entries.eraseDups ++ [id] := by
  rw [List.eraseDups_append]
  split
  next hmem => simp [List.removeAll, hmem]
  next hnew => simp [List.removeAll, hnew, List.eraseDups_cons]

/-- One pass is the same as ruling out first, and then dropping what is listed again. -/
theorem pickAll_eq_eraseDups (excluded entries : List String) :
    pickAll excluded entries = (entries.filter fun id => !excluded.contains id).eraseDups := by
  induction entries using List.reverseRecOn with
  | nil => rfl
  | append_singleton entries id ih =>
      rw [pickAll_concat, ih, pick, List.filter_append]
      by_cases hexcluded : id ∈ excluded
      · simp [hexcluded]
      · have hkept : [id].filter (fun id => !excluded.contains id) = [id] := by simp [hexcluded]
        rw [hkept, eraseDups_concat]
        simp only [hexcluded, false_or, List.mem_eraseDups]

/-- What is picked stands in the order in which it is first listed. -/
theorem pairwise_pickAll (excluded entries : List String) :
    (pickAll excluded entries).Pairwise fun x y => entries.idxOf x < entries.idxOf y := by
  induction entries using List.reverseRecOn with
  | nil => exact List.Pairwise.nil
  | append_singleton entries id ih =>
      have hplace : ∀ x ∈ pickAll excluded entries,
          (entries ++ [id]).idxOf x = entries.idxOf x := by
        intro x hx
        exact List.idxOf_append_of_mem (mem_pickAll.mp hx).1
      have hkept : (pickAll excluded entries).Pairwise fun x y =>
          (entries ++ [id]).idxOf x < (entries ++ [id]).idxOf y := by
        apply ih.imp_of_mem
        intro x y hx hy hlt
        rwa [hplace x hx, hplace y hy]
      rw [pickAll_concat, pick]
      split
      next => exact hkept
      next hnew =>
        obtain ⟨hallowed, hpicked⟩ := not_or.mp hnew
        have hid : id ∉ entries := fun hmem => hpicked (mem_pickAll.mpr ⟨hmem, hallowed⟩)
        refine List.pairwise_append.mpr ⟨hkept, List.pairwise_singleton .., ?_⟩
        intro x hx y hy
        rw [List.mem_singleton.mp hy, hplace x hx, List.idxOf_append_of_notMem hid,
          List.idxOf_cons_self]
        exact List.idxOf_lt_length_of_mem (mem_pickAll.mp hx).1

/-- What a root lists is picked at its first place, and nothing more is at the others. -/
theorem pickAll_flatMap_eraseDups (excluded roots : List String)
    (reachable : String → List String) :
    pickAll excluded (roots.eraseDups.flatMap reachable) =
      pickAll excluded (roots.flatMap reachable) := by
  induction roots using List.reverseRecOn with
  | nil => rfl
  | append_singleton roots root ih =>
      rw [eraseDups_concat, List.flatMap_append, pickAll_append, List.flatMap_singleton]
      split
      next hroot =>
        rw [ih, foldl_pick_of_passed]
        intro id hid
        have hlisted : id ∈ roots.flatMap reachable := List.mem_flatMap.mpr ⟨root, hroot, hid⟩
        by_cases hexcluded : id ∈ excluded
        · exact .inl hexcluded
        · exact .inr (mem_pickAll.mpr ⟨hlisted, hexcluded⟩)
      next => rw [List.flatMap_append, pickAll_append, ih, List.flatMap_singleton]

end Pass

/-! ## Roots -/

section Roots

variable {scope : Scope} {reachable : String → List String} {id : String}

/-- A scope is resolved in one pass over what lies under the roots to start from. -/
theorem resolveRoots_eq_pickAll (scope : Scope) (reachable : String → List String) :
    resolveRoots scope reachable =
      pickAll (scope.excluded.flatMap reachable) (scope.starts.flatMap reachable) :=
  (pickAll_eq_eraseDups _ _).symm

theorem mem_resolveRoots : id ∈ resolveRoots scope reachable ↔
    (∃ root ∈ scope.starts, id ∈ reachable root) ∧
      ∀ root ∈ scope.excluded, id ∉ reachable root := by
  rw [resolveRoots_eq_pickAll, mem_pickAll]
  simp only [List.mem_flatMap, not_exists, not_and]

theorem pairwise_resolveRoots : (resolveRoots scope reachable).Pairwise fun x y =>
    (scope.starts.flatMap reachable).idxOf x < (scope.starts.flatMap reachable).idxOf y := by
  rw [resolveRoots_eq_pickAll]
  exact pairwise_pickAll _ _

theorem nodup_resolveRoots : (resolveRoots scope reachable).Nodup := by
  refine pairwise_resolveRoots.imp ?_
  rintro id _ hlt rfl
  exact Nat.lt_irrefl _ hlt

theorem eraseDups_starts (scope : Scope) :
    scope.starts.eraseDups =
      if scope.included.eraseDups.isEmpty then [rootId] else scope.included.eraseDups := by
  unfold Query.Scope.starts
  cases scope.included with
  | nil => rfl
  | cons root rest => simp [List.eraseDups_cons]

/-- Of the roots to start from their first places count, and of those that are ruled out which they
are. -/
theorem resolveRoots_congr {other : Scope}
    (hincluded : other.included.eraseDups = scope.included.eraseDups)
    (hexcluded : ∀ root, root ∈ other.excluded ↔ root ∈ scope.excluded) :
    resolveRoots other reachable = resolveRoots scope reachable := by
  have hstarts : other.starts.eraseDups = scope.starts.eraseDups := by
    rw [eraseDups_starts, eraseDups_starts, hincluded]
  have hruled : pick (other.excluded.flatMap reachable) =
      pick (scope.excluded.flatMap reachable) := by
    apply pick_congr
    intro id
    simp only [List.mem_flatMap, hexcluded]
  rw [resolveRoots_eq_pickAll, ← pickAll_flatMap_eraseDups, hstarts, pickAll_flatMap_eraseDups,
    resolveRoots_eq_pickAll, pickAll, hruled]
  rfl

/-- For any function that lists what lies under a root, whatever it lists and how often, a scope
picks in one pass, without repetitions and in the order in which they are first listed, exactly the
items that some root to start from lists and no root that is ruled out. Writing a root once more
changes nothing, nor does writing the roots that are ruled out in any other way. -/
theorem resolveRoots_exact (scope : Scope) (reachable : String → List String) :
    resolveRoots scope reachable =
      (scope.starts.flatMap reachable).foldl (pick (scope.excluded.flatMap reachable)) [] ∧
    (resolveRoots scope reachable).Nodup ∧
    (∀ id, id ∈ resolveRoots scope reachable ↔
      (∃ root ∈ scope.starts, id ∈ reachable root) ∧
        ∀ root ∈ scope.excluded, id ∉ reachable root) ∧
    ((resolveRoots scope reachable).Pairwise fun x y =>
      (scope.starts.flatMap reachable).idxOf x < (scope.starts.flatMap reachable).idxOf y) ∧
    ∀ other : Scope, other.included.eraseDups = scope.included.eraseDups →
      (∀ root, root ∈ other.excluded ↔ root ∈ scope.excluded) →
      resolveRoots other reachable = resolveRoots scope reachable :=
  ⟨resolveRoots_eq_pickAll scope reachable, nodup_resolveRoots, fun _ => mem_resolveRoots,
    pairwise_resolveRoots, fun _ => resolveRoots_congr⟩

/-- A root that lists an item twice is written twice, and so is one of those that are ruled out. -/
theorem resolveRoots_exact_repeated :
    let lists : String → List String := fun root =>
      if root = "first" then ["a", "b", "a"]
      else if root = "second" then ["c", "b", "d"]
      else [root]
    resolveRoots ⟨["first", "second", "first"], ["d", "e", "d"]⟩ lists =
        resolveRoots ⟨["first", "second"], ["e", "d"]⟩ lists ∧
      resolveRoots ⟨["first", "second"], ["e", "d"]⟩ lists = ["a", "b", "c"] := by
  intro lists
  refine ⟨?_, by decide⟩
  apply (resolveRoots_exact _ lists).2.2.2.2
  · decide
  · intro root
    simp only [List.mem_cons, List.not_mem_nil, or_false]
    tauto

end Roots

end ArchiveSearch
