import ArchiveSearch.Book.Contents
import Mathlib.Data.List.Nodup
import Mathlib.Logic.Relation

/-! # What lies under an item

A table of contents is a graph of any shape. What lies under an item is what its children lead
to, and the visit with a stack lists exactly that, every item once, in the order of a recursive
descent that skips what it has visited before.
-/

namespace ArchiveSearch

namespace Contents

variable {c : Contents}

/-- An item lies under itself, and so do its children, their children, and so on. -/
def Under (c : Contents) : String → String → Prop :=
  Relation.ReflTransGen fun parent child => child ∈ c.children parent

/-- More visited items leave no more items to visit. -/
theorem length_unvisited_mono {seen more : List String} (hsub : seen ⊆ more) :
    (c.unvisited more).length ≤ (c.unvisited seen).length := by
  refine (List.monotone_filter_right _ fun id hid => ?_).length_le
  simp only [Bool.not_eq_true', List.contains_eq_mem, decide_eq_false_iff_not] at hid ⊢
  exact fun hseen => hid (hsub hseen)

/-- An item that has children and has not been visited is one of those left to visit. -/
theorem length_unvisited_concat_lt {seen : List String} {id child : String}
    (hnew : id ∉ seen) (hchild : child ∈ c.children id) :
    (c.unvisited (seen ++ [id])).length < (c.unvisited seen).length := by
  have hkey := mem_keys_of_mem_children hchild
  calc (c.unvisited (seen ++ [id])).length
      ≤ (c.unvisited (id :: seen)).length := length_unvisited_mono (by simp)
    _ < (c.unvisited seen).length := length_unvisited_cons_lt hnew hkey

/-- Goes down from items in turn. What was visited under one of them is not visited again under
the next. -/
def descend (c : Contents) (visited : List String) :
    List String → {order : List String // visited ⊆ order}
  | [] => ⟨visited, List.Subset.refl visited⟩
  | id :: rest =>
      if id ∈ visited then c.descend visited rest
      else
        let below := c.descend (visited ++ [id]) (c.children id)
        let order := c.descend below.1 rest
        ⟨order.1, fun _ hmem => order.2 (below.2 (List.mem_append_left _ hmem))⟩
termination_by ids => ((c.unvisited visited).length, ids.length)
decreasing_by
  -- An item with children is one less to visit, and without children there are fewer to go down
  -- from.
  · exact Prod.Lex.right _ (Nat.lt_succ_self _)
  · cases hchildren : c.children id with
    | nil =>
        rcases Nat.lt_or_eq_of_le (length_unvisited_mono (List.subset_append_left visited [id]))
          with hlt | heq
        · exact Prod.Lex.left _ _ hlt
        · rw [heq]
          exact Prod.Lex.right _ (Nat.succ_pos _)
    | cons child siblings =>
        exact Prod.Lex.left _ _
          (length_unvisited_concat_lt ‹_› (hchildren ▸ List.mem_cons_self))
  · have hsub : visited ⊆ below.1 := fun _ hmem => below.2 (List.mem_append_left _ hmem)
    rcases Nat.lt_or_eq_of_le (length_unvisited_mono hsub) with hlt | heq
    · exact Prod.Lex.left _ _ hlt
    · rw [heq]
      exact Prod.Lex.right _ (Nat.lt_succ_self _)

/-- Everything under a root, each item before what is first found under it. -/
def preorder (c : Contents) (root : String) : List String := (c.descend [] [root]).1

theorem descend_nil (visited : List String) : (c.descend visited []).1 = visited := by
  rw [descend]

theorem descend_cons_of_mem {visited rest : List String} {id : String} (hseen : id ∈ visited) :
    (c.descend visited (id :: rest)).1 = (c.descend visited rest).1 := by
  rw [descend, if_pos hseen]

theorem descend_cons_of_not_mem {visited rest : List String} {id : String} (hnew : id ∉ visited) :
    (c.descend visited (id :: rest)).1 =
      (c.descend (c.descend (visited ++ [id]) (c.children id)).1 rest).1 := by
  rw [descend, if_neg hnew]

/-- What is on the stack is visited as by going down from it, and before what is below it on the
stack. -/
theorem append_visit (visited ids stack : List String) :
    visited ++ c.visit visited.reverse (ids ++ stack) =
      (c.descend visited ids).1 ++ c.visit (c.descend visited ids).1.reverse stack := by
  induction visited, ids using descend.induct (c := c) generalizing stack with
  | case1 visited => rw [descend_nil, List.nil_append]
  | case2 visited id rest hseen ih =>
      rw [List.cons_append, visit, if_pos (List.mem_reverse.mpr hseen), ih,
        descend_cons_of_mem hseen]
  | case3 visited id rest hnew below ihbelow ihrest =>
      -- The visit has seen what the descent has visited, the last item first.
      have hstep : id :: visited.reverse = (visited ++ [id]).reverse := by simp
      calc visited ++ c.visit visited.reverse (id :: rest ++ stack)
          = (visited ++ [id]) ++
              c.visit (visited ++ [id]).reverse (c.children id ++ (rest ++ stack)) := by
            rw [List.cons_append, visit, if_neg (by simpa using hnew), hstep, List.append_cons]
        _ = below.1 ++ c.visit below.1.reverse (rest ++ stack) := ihbelow _
        _ = _ := by rw [ihrest, descend_cons_of_not_mem hnew]

/-- The visit with a stack lists what the descent lists, in the same order. -/
theorem reachable_eq_preorder (c : Contents) (root : String) :
    c.reachable root = c.preorder root := by
  have h := append_visit (c := c) [] [root] []
  rwa [List.append_nil, List.nil_append, visit, List.append_nil] at h

/-! ## What a descent lists -/

theorem nodup_descend (visited ids : List String) (hvisited : visited.Nodup) :
    (c.descend visited ids).1.Nodup := by
  induction visited, ids using descend.induct (c := c) with
  | case1 visited => rwa [descend_nil]
  | case2 visited id rest hseen ih =>
      rw [descend_cons_of_mem hseen]
      exact ih hvisited
  | case3 visited id rest hnew below ihbelow ihrest =>
      rw [descend_cons_of_not_mem hnew]
      have hadded : (visited ++ [id]).Nodup := List.concat_eq_append ▸ hvisited.concat hnew
      exact ihrest (ihbelow hadded)

/-- A descent lists all items that it goes down from. -/
theorem subset_descend (visited ids : List String) : ids ⊆ (c.descend visited ids).1 := by
  induction visited, ids using descend.induct (c := c) with
  | case1 visited => exact List.nil_subset _
  | case2 visited id rest hseen ih =>
      rw [descend_cons_of_mem hseen]
      exact List.cons_subset.mpr ⟨(c.descend visited rest).2 hseen, ih⟩
  | case3 visited id rest hnew below ihbelow ihrest =>
      rw [descend_cons_of_not_mem hnew]
      have hid : id ∈ below.1 := below.2 (List.mem_append_right _ List.mem_cons_self)
      exact List.cons_subset.mpr ⟨(c.descend below.1 rest).2 hid, ihrest⟩

/-- A descent lists nothing but what lies under the items that it goes down from. -/
theorem under_of_mem_descend (visited ids : List String) {id : String}
    (hid : id ∈ (c.descend visited ids).1) :
    id ∈ visited ∨ ∃ start ∈ ids, c.Under start id := by
  induction visited, ids using descend.induct (c := c) with
  | case1 visited => exact .inl (by rwa [descend_nil] at hid)
  | case2 visited first rest hseen ih =>
      rw [descend_cons_of_mem hseen] at hid
      refine (ih hid).imp_right ?_
      rintro ⟨start, hstart, hunder⟩
      exact ⟨start, List.mem_cons_of_mem _ hstart, hunder⟩
  | case3 visited first rest hnew below ihbelow ihrest =>
      rw [descend_cons_of_not_mem hnew] at hid
      rcases ihrest hid with hbelow | ⟨start, hstart, hunder⟩
      · rcases ihbelow hbelow with hvisited | ⟨child, hchild, hunder⟩
        · rcases List.mem_append.mp hvisited with hvisited | hfirst
          · exact .inl hvisited
          · exact .inr ⟨first, List.mem_cons_self, List.mem_singleton.mp hfirst ▸ .refl⟩
        · exact .inr ⟨first, List.mem_cons_self, .head hchild hunder⟩
      · exact .inr ⟨start, List.mem_cons_of_mem _ hstart, hunder⟩

/-- The children of what a descent adds are listed as well. -/
theorem children_subset_descend (visited ids : List String) {id : String}
    (hid : id ∈ (c.descend visited ids).1) :
    id ∈ visited ∨ c.children id ⊆ (c.descend visited ids).1 := by
  induction visited, ids using descend.induct (c := c) with
  | case1 visited => exact .inl (by rwa [descend_nil] at hid)
  | case2 visited first rest hseen ih =>
      rw [descend_cons_of_mem hseen] at hid ⊢
      exact ih hid
  | case3 visited first rest hnew below ihbelow ihrest =>
      rw [descend_cons_of_not_mem hnew] at hid ⊢
      have hkept : below.1 ⊆ (c.descend below.1 rest).1 := (c.descend below.1 rest).2
      rcases ihrest hid with hbelow | hchildren
      · rcases ihbelow hbelow with hvisited | hchildren
        · rcases List.mem_append.mp hvisited with hvisited | hfirst
          · exact .inl hvisited
          · refine .inr ?_
            rw [List.mem_singleton.mp hfirst]
            exact List.Subset.trans (subset_descend _ _) hkept
        · exact .inr (List.Subset.trans hchildren hkept)
      · exact .inr hchildren

/-- A visit from a root lists exactly what lies under the root. -/
theorem mem_reachable_iff {root id : String} : id ∈ c.reachable root ↔ c.Under root id := by
  rw [reachable_eq_preorder]
  constructor
  · intro hid
    obtain hnone | ⟨start, hstart, hunder⟩ := under_of_mem_descend [] [root] hid
    · exact absurd hnone List.not_mem_nil
    · exact List.mem_singleton.mp hstart ▸ hunder
  · intro hunder
    -- The list is closed under children, so it is not left along any path.
    induction hunder with
    | refl => exact subset_descend [] [root] List.mem_cons_self
    | tail _ hchild ih =>
        exact ((children_subset_descend [] [root] ih).resolve_left List.not_mem_nil) hchild

theorem nodup_reachable (c : Contents) (root : String) : (c.reachable root).Nodup := by
  rw [reachable_eq_preorder]
  exact nodup_descend [] [root] List.nodup_nil

end Contents

end ArchiveSearch
