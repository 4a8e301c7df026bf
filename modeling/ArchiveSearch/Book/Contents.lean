import ArchiveSearch.Dictionary

/-!
# Tables of contents

A table of contents lists the children of every item that has some. The table need not be a tree:
an item may stand under several others, and even under itself. What lies under a root is visited
with a stack, parents before their children, every item once.
-/

namespace ArchiveSearch

/-- The identifier under which the items of the first level stand. -/
def rootId : String := "root"

/-- The children of the items. -/
structure Contents where
  table : Dictionary (List String) := .empty

namespace Contents

/-- The children of an item, in their order. -/
def children (c : Contents) (id : String) : List String :=
  (c.table.find? id).getD []

/-- Adds a child behind the other children of an item. -/
def addChild (c : Contents) (parent child : String) : Contents where
  table := c.table.update parent [] (· ++ [child])

/-- The items with entries in the table that have not been visited. -/
def unvisited (c : Contents) (seen : List String) : List String :=
  c.table.keys.filter fun id => !seen.contains id

theorem mem_keys_of_mem_children {c : Contents} {id child : String}
    (h : child ∈ c.children id) : id ∈ c.table.keys := by
  unfold children Dictionary.find? at h
  cases hfind : c.table.entries.find? fun entry => entry.1 = id with
  | none => simp [hfind] at h
  | some entry =>
      have hkey := List.find?_some hfind
      exact of_decide_eq_true hkey ▸ List.mem_map_of_mem (List.mem_of_find?_eq_some hfind)

theorem unvisited_cons (c : Contents) (seen : List String) (id : String) :
    c.unvisited (id :: seen) = (c.unvisited seen).filter fun k => k != id := by
  unfold unvisited
  rw [List.filter_filter]
  congr 1
  funext k
  by_cases h : k = id <;> simp [h]

/-- Visiting an item leaves no more items to visit. -/
theorem length_unvisited_cons_le (c : Contents) (seen : List String) (id : String) :
    (c.unvisited (id :: seen)).length ≤ (c.unvisited seen).length := by
  rw [unvisited_cons]
  exact List.length_filter_le _ _

/-- Visiting an item with children leaves one item less to visit. -/
theorem length_unvisited_cons_lt {c : Contents} {seen : List String} {id : String}
    (hnew : id ∉ seen) (hkey : id ∈ c.table.keys) :
    (c.unvisited (id :: seen)).length < (c.unvisited seen).length := by
  rw [unvisited_cons]
  refine List.length_filter_lt_length_iff_exists.mpr ⟨id, ?_, by simp⟩
  simp [unvisited, List.mem_filter, hkey, hnew]

/-- Visits what is on the stack and what lies under it, except what has been seen. -/
def visit (c : Contents) (seen : List String) : List String → List String
  | [] => []
  | id :: stack =>
      if id ∈ seen then c.visit seen stack
      else id :: c.visit (id :: seen) (c.children id ++ stack)
termination_by stack => ((c.unvisited seen).length, stack.length)
decreasing_by
  · exact Prod.Lex.right _ (Nat.lt_succ_self _)
  · cases hchildren : c.children id with
    | nil =>
        rcases Nat.lt_or_eq_of_le (length_unvisited_cons_le c seen id) with hlt | heq
        · exact Prod.Lex.left _ _ hlt
        · rw [heq]
          exact Prod.Lex.right _ (by simp)
    | cons child rest =>
        refine Prod.Lex.left _ _ (length_unvisited_cons_lt ‹_› ?_)
        have hchild : child ∈ c.children id := by simp [hchildren]
        exact mem_keys_of_mem_children hchild

/-- Everything under a root, the root itself included, in the order of a visit. -/
def reachable (c : Contents) (root : String) : List String :=
  c.visit [] [root]

end Contents

end ArchiveSearch
