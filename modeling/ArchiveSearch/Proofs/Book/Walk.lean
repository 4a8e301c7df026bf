import ArchiveSearch.Proofs.Book.Hierarchy
import Mathlib.Logic.Function.Iterate

/-! # The turns of a visit

A visit takes one item off the stack at every turn. An item that was listed before is dropped, and
any other is listed and its children are put on the stack. As an item is listed only once, its
children are put there only once, so the stack is empty after as many turns as there are children of
what lies under the root, and one for the root itself. On the way nothing is listed but what the
visit lists in the end.
-/

namespace ArchiveSearch

/-- A visit on its way: the items that were seen and are listed, and those that are still to be
looked at, the next one first. -/
structure Walk where
  listed : List String
  stack : List String

namespace Walk

/-- The beginning of a visit from a root. -/
def start (root : String) : Walk := ⟨[], [root]⟩

/-- What the visit lists in the end. -/
def outcome (c : Contents) (w : Walk) : List String :=
  w.listed ++ c.visit w.listed.reverse w.stack

/-- The items that the visit looks at from now on, repetitions included. -/
def ahead (c : Contents) (w : Walk) : List String :=
  w.stack ++ (c.visit w.listed.reverse w.stack).flatMap c.children

end Walk

namespace Contents

variable {c : Contents}

/-- One turn of a visit. Nothing is left to do when the stack is empty. -/
def turn (c : Contents) (w : Walk) : Walk :=
  match w.stack with
  | [] => w
  | id :: stack =>
      if id ∈ w.listed then ⟨w.listed, stack⟩ else ⟨w.listed ++ [id], c.children id ++ stack⟩

theorem turn_of_mem {listed stack : List String} {id : String} (h : id ∈ listed) :
    c.turn ⟨listed, id :: stack⟩ = ⟨listed, stack⟩ := if_pos h

theorem turn_of_not_mem {listed stack : List String} {id : String} (h : id ∉ listed) :
    c.turn ⟨listed, id :: stack⟩ = ⟨listed ++ [id], c.children id ++ stack⟩ := if_neg h

theorem visit_reverse_of_mem {listed stack : List String} {id : String} (h : id ∈ listed) :
    c.visit listed.reverse (id :: stack) = c.visit listed.reverse stack := by
  rw [visit, if_pos (List.mem_reverse.mpr h)]

theorem visit_reverse_of_not_mem {listed stack : List String} {id : String} (h : id ∉ listed) :
    c.visit listed.reverse (id :: stack) =
      id :: c.visit (listed ++ [id]).reverse (c.children id ++ stack) := by
  rw [visit, if_neg (mt List.mem_reverse.mp h), List.reverse_concat]

/-- A turn does not change what the visit lists in the end. -/
theorem outcome_turn (c : Contents) (w : Walk) : (c.turn w).outcome c = w.outcome c := by
  obtain ⟨listed, stack⟩ := w
  cases stack with
  | nil => rfl
  | cons id stack =>
      by_cases hid : id ∈ listed
      · rw [turn_of_mem hid, Walk.outcome, Walk.outcome, visit_reverse_of_mem hid]
      · rw [turn_of_not_mem hid, Walk.outcome, Walk.outcome, visit_reverse_of_not_mem hid,
          List.append_assoc, List.singleton_append]

/-- A turn looks at one item of those ahead. -/
theorem length_ahead_turn (c : Contents) (w : Walk) :
    ((c.turn w).ahead c).length = (w.ahead c).length - 1 := by
  obtain ⟨listed, stack⟩ := w
  cases stack with
  | nil => rw [turn, Walk.ahead, visit]; rfl
  | cons id stack =>
      by_cases hid : id ∈ listed
      · rw [turn_of_mem hid, Walk.ahead, Walk.ahead, visit_reverse_of_mem hid, List.cons_append,
          List.length_cons, Nat.add_sub_cancel]
      · rw [turn_of_not_mem hid, Walk.ahead, Walk.ahead, visit_reverse_of_not_mem hid,
          List.flatMap_cons]
        simp only [List.length_append, List.length_cons]
        omega

theorem outcome_iterate_turn (c : Contents) (turns : Nat) (w : Walk) :
    (c.turn^[turns] w).outcome c = w.outcome c := by
  induction turns with
  | zero => rfl
  | succ turns ih => rw [Function.iterate_succ_apply', outcome_turn, ih]

theorem length_ahead_iterate_turn (c : Contents) (turns : Nat) (w : Walk) :
    ((c.turn^[turns] w).ahead c).length = (w.ahead c).length - turns := by
  induction turns with
  | zero => rfl
  | succ turns ih => rw [Function.iterate_succ_apply', length_ahead_turn, ih, Nat.sub_sub]

/-- The stack is empty when nothing is ahead. -/
theorem stack_eq_nil_iff {w : Walk} : w.stack = [] ↔ (w.ahead c).length = 0 := by
  obtain ⟨listed, stack⟩ := w
  rw [Walk.ahead, List.length_append]
  constructor
  · intro h
    rw [h, visit]
    rfl
  · intro h
    exact List.length_eq_zero_iff.mp (by omega)

theorem outcome_of_stack_eq_nil {w : Walk} (h : w.stack = []) : w.outcome c = w.listed := by
  rw [Walk.outcome, h, visit, List.append_nil]

/-- From any state of a visit, the stack is empty after as many turns as there are items to look at,
and not before. What is listed then is what the visit lists in the end. -/
theorem stack_iterate_turn (c : Contents) (w : Walk) (turns : Nat) :
    ((c.turn^[turns] w).stack = [] ↔ (w.ahead c).length ≤ turns) ∧
      ((w.ahead c).length ≤ turns → (c.turn^[turns] w).listed = w.outcome c) := by
  have hstack : (c.turn^[turns] w).stack = [] ↔ (w.ahead c).length ≤ turns := by
    rw [stack_eq_nil_iff (c := c), length_ahead_iterate_turn]
    omega
  refine ⟨hstack, fun hturns => ?_⟩
  rw [← outcome_of_stack_eq_nil (hstack.mpr hturns), outcome_iterate_turn]

/-- The number of turns of a visit from a root. -/
def turns (c : Contents) (root : String) : Nat := 1 + ((c.reachable root).flatMap c.children).length

theorem length_ahead_start (c : Contents) (root : String) :
    ((Walk.start root).ahead c).length = c.turns root := by
  rw [Walk.ahead, Walk.start, List.length_append]
  rfl

/-- A visit of any table of contents ends, after as many turns as there are children of what it
lists and one more, and no earlier. It lists the root first, no item twice, and exactly what lies
under the root. -/
theorem reachable_visited (c : Contents) (root : String) :
    (∀ n, (c.turn^[n] (Walk.start root)).stack = [] ↔ c.turns root ≤ n) ∧
    (c.turn^[c.turns root] (Walk.start root)).listed = c.reachable root ∧
    (c.reachable root).head? = some root ∧ (c.reachable root).Nodup ∧
    ∀ id, id ∈ c.reachable root ↔ c.Under root id := by
  refine ⟨?_, ?_, ?_, nodup_reachable c root, fun id => mem_reachable_iff⟩
  · intro n
    rw [(c.stack_iterate_turn (Walk.start root) n).1, length_ahead_start]
  · have hlisted := (c.stack_iterate_turn (Walk.start root) (c.turns root)).2
    exact hlisted (Nat.le_of_eq (length_ahead_start c root))
  · rw [reachable, visit, if_neg List.not_mem_nil, List.head?_cons]

end Contents

end ArchiveSearch
