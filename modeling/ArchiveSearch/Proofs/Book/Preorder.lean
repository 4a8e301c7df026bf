import ArchiveSearch.Proofs.Book.Hierarchy

/-! # The recursive visit

A recursive visit of an item passes over it if it has been visited. Otherwise it lists the item and
goes through its children in their order, each with all that has been visited up to then. There is
exactly one such visit. The visit with a stack lists the same items in the same order, though it
puts all children on the stack at once and looks at what has been visited only when it takes them
off again. So every item but the root is listed behind one of its parents.
-/

namespace ArchiveSearch

namespace Contents

variable {c : Contents}

/-! ## One recursive visit after the other -/

/-- Whether a function visits an item recursively: of what has been visited before it makes what
has been visited afterwards, in the order of the visit. -/
def VisitsRecursively (c : Contents) (explore : List String → String → List String) : Prop :=
  ∀ visited id, explore visited id =
    if id ∈ visited then visited else (c.children id).foldl explore (visited ++ [id])

/-- Goes down from one item. -/
def explore (c : Contents) (visited : List String) (id : String) : List String :=
  (c.descend visited [id]).1

theorem explore_of_mem {visited : List String} {id : String} (hseen : id ∈ visited) :
    c.explore visited id = visited := by
  rw [explore, descend_cons_of_mem hseen, descend_nil]

theorem explore_of_not_mem {visited : List String} {id : String} (hnew : id ∉ visited) :
    c.explore visited id = (c.descend (visited ++ [id]) (c.children id)).1 := by
  rw [explore, descend_cons_of_not_mem hnew, descend_nil]

/-- Going down from several items is going down from one after the other. -/
theorem descend_eq_foldl (visited ids : List String) :
    (c.descend visited ids).1 = ids.foldl c.explore visited := by
  induction ids generalizing visited with
  | nil => exact descend_nil visited
  | cons id rest ih =>
      rw [List.foldl_cons, ← ih]
      by_cases hseen : id ∈ visited
      · rw [descend_cons_of_mem hseen, explore_of_mem hseen]
      · rw [descend_cons_of_not_mem hseen, explore_of_not_mem hseen]

theorem visitsRecursively_explore (c : Contents) : c.VisitsRecursively c.explore := by
  intro visited id
  split
  next hseen => exact explore_of_mem hseen
  next hnew => rw [explore_of_not_mem hnew, descend_eq_foldl]

/-- Whatever visits recursively goes down as the descent does. -/
theorem VisitsRecursively.foldl_eq {explore : List String → String → List String}
    (hexplore : c.VisitsRecursively explore) (visited ids : List String) :
    ids.foldl explore visited = (c.descend visited ids).1 := by
  induction visited, ids using descend.induct (c := c) with
  | case1 visited => rw [descend_nil, List.foldl_nil]
  | case2 visited id rest hseen ih =>
      rw [List.foldl_cons, hexplore, if_pos hseen, ih, descend_cons_of_mem hseen]
  | case3 visited id rest hnew below ihbelow ihrest =>
      rw [List.foldl_cons, hexplore, if_neg hnew, ihbelow, ihrest, descend_cons_of_not_mem hnew]

/-- Going down is the only way to visit recursively. -/
theorem VisitsRecursively.eq_explore {explore : List String → String → List String}
    (hexplore : c.VisitsRecursively explore) : explore = c.explore := by
  funext visited id
  exact hexplore.foldl_eq visited [id]

/-! ## Parents -/

/-- Whether every item of a list, unless it is one to start from, stands behind a parent. -/
def ParentsFirst (c : Contents) (starts order : List String) : Prop :=
  ∀ before id, before ++ [id] <+: order → id ∈ starts ∨ ∃ parent ∈ before, id ∈ c.children parent

theorem ParentsFirst.concat {starts order : List String} {id : String}
    (horder : c.ParentsFirst starts order)
    (hid : id ∈ starts ∨ ∃ parent ∈ order, id ∈ c.children parent) :
    c.ParentsFirst starts (order ++ [id]) := by
  intro before last hprefix
  rcases List.prefix_concat_iff.mp hprefix with heq | hprefix
  · obtain ⟨rfl, hlast⟩ := List.append_inj' heq rfl
    obtain rfl := List.singleton_inj.mp hlast
    exact hid
  · exact horder before last hprefix

/-- A descent from items to start from, or from children of what was visited before, lists every
other item behind a parent. -/
theorem ParentsFirst.descend {starts visited : List String} (ids : List String)
    (hvisited : c.ParentsFirst starts visited)
    (hids : ∀ id ∈ ids, id ∈ starts ∨ ∃ parent ∈ visited, id ∈ c.children parent) :
    c.ParentsFirst starts (c.descend visited ids).1 := by
  induction visited, ids using descend.induct (c := c) with
  | case1 visited => rwa [descend_nil]
  | case2 visited id rest hseen ih =>
      rw [descend_cons_of_mem hseen]
      exact ih hvisited (List.forall_mem_cons.mp hids).2
  | case3 visited id rest hnew below ihbelow ihrest =>
      rw [descend_cons_of_not_mem hnew]
      obtain ⟨hid, hrest⟩ := List.forall_mem_cons.mp hids
      have hbelow : c.ParentsFirst starts below.1 := by
        apply ihbelow (hvisited.concat hid)
        intro child hchild
        exact .inr ⟨id, List.mem_append_right _ List.mem_cons_self, hchild⟩
      -- The parents of the items that are left were visited before, and still are.
      apply ihrest hbelow
      intro next hnext
      rcases hrest next hnext with hstart | ⟨parent, hparent, hchild⟩
      · exact .inl hstart
      · exact .inr ⟨parent, below.2 (List.mem_append_left _ hparent), hchild⟩

theorem parentsFirst_reachable (c : Contents) (root : String) :
    c.ParentsFirst [root] (c.reachable root) := by
  rw [reachable_eq_preorder]
  apply ParentsFirst.descend
  · intro before id hprefix
    exact absurd (List.prefix_nil.mp hprefix) (by simp)
  · intro id hid
    exact .inl hid

/-- For any table of contents there is exactly one recursive visit, and the visit with a stack
lists what it lists, in the same order. Every item but the root is listed behind one of its
parents. -/
theorem reachable_recursive (c : Contents) (root : String) :
    (∃! explore, c.VisitsRecursively explore) ∧
    (∀ explore, c.VisitsRecursively explore → c.reachable root = explore [] root) ∧
    ∀ before id, before ++ [id] <+: c.reachable root →
      id = root ∨ ∃ parent ∈ before, id ∈ c.children parent := by
  refine ⟨⟨c.explore, visitsRecursively_explore c, fun _ h => h.eq_explore⟩, ?_, ?_⟩
  · intro explore hexplore
    rw [reachable_eq_preorder, hexplore.eq_explore]
    rfl
  · intro before id hprefix
    exact (parentsFirst_reachable c root before id hprefix).imp_left List.mem_singleton.mp

/-- An item that is pending on the stack is reached earlier from below, where it has a parent that
is visited already. -/
theorem reachable_recursive_shared :
    let c := (({} : Contents).addChild "root" "a").addChild "root" "b"
      |>.addChild "a" "b"
      |>.addChild "b" "a"
    c.reachable "root" = c.explore [] "root" ∧
      ("b" = "root" ∨ ∃ parent ∈ ["root", "a"], "b" ∈ c.children parent) := by
  intro c
  have hroot : c.children "root" = ["a", "b"] := by decide
  have ha : c.children "a" = ["b"] := by decide
  have hb : c.children "b" = ["a"] := by decide
  have hreachable : c.reachable "root" = ["root", "a", "b"] := by
    simp [reachable, visit, hroot, ha, hb]
  refine ⟨(reachable_recursive c "root").2.1 _ (visitsRecursively_explore c), ?_⟩
  refine (reachable_recursive c "root").2.2 _ _ ?_
  rw [hreachable]
  exact List.prefix_rfl

end Contents

end ArchiveSearch
