import ArchiveSearch.Regex.Source
import Mathlib.Data.List.Forall2

/-! # Expressions of literals

An escaped text is read as its characters, one after the other, each standing for itself. What
such an expression matches is a piece of a text that agrees with it character by character, and
anchors at its two ends ask the piece to begin and to end where lines do.
-/

namespace ArchiveSearch.Regex

/-! ## Reading escaped text -/

/-- A character that stands for itself. -/
def Syntax.ofChar (c : Char) : Syntax := .literal ⟨c, false⟩

namespace Reading

variable {r next : Reading}

theorem run?_nil (hverbose : r.verbose = false) : r.run? [] = r.finish? := by
  rw [run?]
  simp [skip, hverbose]

theorem run?_of_step? (hverbose : r.verbose = false) {text after : List Char}
    (h : r.step? text = some (next, after)) : r.run? text = next.run? after := by
  have hskip : skip r.verbose text = text := by simp [skip, hverbose]
  have hne : text ≠ [] := by
    rintro rfl
    cases h
  rw [run?]
  simp only [hskip, List.isEmpty_iff, hne, if_false]
  split
  next heq =>
    rw [hskip, h] at heq
    cases heq
    rfl
  next heq =>
    rw [hskip, h] at heq
    cases heq

/-- A character and its escape, if it needs one, are read as the character itself. -/
theorem step?_escape (r : Reading) (c : Char) (rest : List Char) :
    r.step? ((if isSpecial c then ['\\', c] else [c]) ++ rest) =
      some (r.push (.ofChar c), rest) := by
  by_cases hc : isSpecial c = true
  · rw [if_pos hc]
    simp only [isSpecial, List.contains_cons, List.contains_nil, Bool.or_false, Bool.or_eq_true,
      beq_iff_eq] at hc
    rcases hc with rfl | rfl | rfl | rfl | rfl | rfl | rfl | rfl | rfl | rfl | rfl | rfl | rfl |
      rfl | rfl | rfl | rfl | rfl <;> rfl
  · rw [if_neg hc, List.singleton_append, step?]
    · rfl
    -- Every character with a meaning of its own is among those that are escaped.
    all_goals
      rintro rfl
      exact hc (by decide)

theorem verbose_foldl_push (r : Reading) (items : List Syntax) :
    (items.foldl push r).verbose = r.verbose := by
  induction items generalizing r with
  | nil => rfl
  | cons item rest ih => exact ih (r.push item)

/-- Reading escaped text adds its characters as items, in their order. -/
theorem run?_escape_append (hverbose : r.verbose = false) (chars rest : List Char) :
    r.run? (chars.flatMap (fun c => if isSpecial c then ['\\', c] else [c]) ++ rest) =
      ((chars.map Syntax.ofChar).foldl push r).run? rest := by
  induction chars generalizing r with
  | nil => rfl
  | cons c chars ih =>
      have hpush : (r.push (.ofChar c)).verbose = false := hverbose
      rw [List.flatMap_cons, List.append_assoc, run?_of_step? hverbose (step?_escape r c _),
        ih hpush]
      rfl

/-- Items that are added to an empty reading are the expression that is read. -/
theorem finish?_foldl_push (items : List Syntax) :
    (items.foldl push {}).finish? = some (.ofItems items) := by
  have hitems (r : Reading) : items.foldl push r =
      { r with group := { r.group with items := items.reverse ++ r.group.items } } := by
    induction items generalizing r with
    | nil => rfl
    | cons item rest ih =>
        rw [List.foldl_cons, ih, List.reverse_cons, List.append_assoc]
        rfl
  rw [hitems]
  simp [finish?, OpenGroup.body, OpenGroup.nextBranch, Syntax.ofBranches]

end Reading

namespace Syntax

/-- A run of items without parts of their own is not nested deeply. -/
theorem depth_ofItems {items : List Syntax} (h : ∀ item ∈ items, ∀ s a, item.depth s a = 0) :
    (ofItems items).depth true false = 0 ∧ (ofItems items).depth false false ≤ 1 := by
  induction items with
  | nil => exact ⟨rfl, Nat.zero_le 1⟩
  | cons item rest ih =>
      have hitem := h item List.mem_cons_self
      have hrest := ih fun item hmem => h item (List.mem_cons_of_mem _ hmem)
      cases rest with
      | nil => exact ⟨hitem true false, by rw [ofItems, hitem]; exact Nat.zero_le 1⟩
      | cons next rest => simp [ofItems, depth, hitem, hrest.1]

theorem read?_of_run? {text : String} {items : List Syntax}
    (hrun : Reading.run? {} text.toList = some (ofItems items))
    (hitems : ∀ item ∈ items, ∀ s a, item.depth s a = 0) :
    read? text = some (ofItems items) := by
  have hdepth : (ofItems items).depth false false ≤ depthLimit :=
    Nat.le_trans (depth_ofItems hitems).2 (by decide)
  simp [read?, hrun, guard, hdepth]

/-- An escaped text is read as its characters. -/
theorem read?_escape (text : String) :
    read? (escape text) = some (ofItems (text.toList.map ofChar)) := by
  refine read?_of_run? ?_ fun item hmem => ?_
  · have hrun := Reading.run?_escape_append (r := {}) rfl text.toList []
    rw [List.append_nil] at hrun
    rw [escape, String.toList_ofList, hrun, Reading.run?_nil (Reading.verbose_foldl_push _ _),
      Reading.finish?_foldl_push]
  · obtain ⟨c, -, rfl⟩ := List.mem_map.mp hmem
    exact fun _ _ => rfl

/-- An escaped text between the anchors of a line is read as its characters between them. -/
theorem read?_escape_line (text : String) : read? ("^" ++ escape text ++ "$") =
    some (ofItems (.anchor .caret :: (text.toList.map ofChar ++ [.anchor .dollar]))) := by
  refine read?_of_run? ?_ fun item hmem => ?_
  · have htext : ("^" ++ escape text ++ "$").toList = '^' :: (text.toList.flatMap
        (fun c => if isSpecial c then ['\\', c] else [c]) ++ ['$']) := by
      simp [escape]
    have hcaret (r : Reading) (rest : List Char) :
        r.step? ('^' :: rest) = some (r.push (.anchor .caret), rest) := rfl
    have hdollar (r : Reading) : r.step? ['$'] = some (r.push (.anchor .dollar), []) := rfl
    have hplain (items : List Syntax) : (items.foldl Reading.push {}).verbose = false :=
      Reading.verbose_foldl_push {} items
    have hpush (items : List Syntax) (item : Syntax) : (items.foldl Reading.push {}).push item =
        (items ++ [item]).foldl Reading.push {} := by rw [List.foldl_append]; rfl
    rw [htext, Reading.run?_of_step? rfl (hcaret {} _), Reading.run?_escape_append rfl,
      ← List.foldl_cons, Reading.run?_of_step? (hplain _) (hdollar _), hpush,
      Reading.run?_nil (hplain _), Reading.finish?_foldl_push, List.cons_append]
  · simp only [List.mem_cons, List.mem_append, List.mem_map, List.not_mem_nil, or_false] at hmem
    rcases hmem with rfl | ⟨c, -, rfl⟩ | rfl <;> exact fun _ _ => rfl

end Syntax

/-! ## Meaning -/

/-- Joins expressions in their order. -/
def Expr.ofItems : List Expr → Expr
  | [] => empty
  | [e] => e
  | e :: rest => seq e (ofItems rest)

/-- Items that leave the flags alone mean what they mean one by one. -/
theorem Syntax.meaning?_ofItems {f : Flags} {items : List Syntax} {es : List Expr}
    (h : List.Forall₂ (fun item e => item.meaning? f = some (e, f)) items es) :
    (ofItems items).meaning? f = some (.ofItems es, f) := by
  induction h with
  | nil => rfl
  | @cons item e items es hitem hitems ih =>
      cases hitems with
      | nil => exact hitem
      | cons hnext hrest =>
          rw [ofItems, meaning?, hitem]
          · simp only [bind, Option.bind, ih]
            rfl
          · simp

namespace Expr

variable {text : Array Char} {ps : Positions} {i j : Nat}

/-- Items match one after the other. -/
theorem ends_ofItems (text : Array Char) (es : List Expr) (ps : Positions) :
    (ofItems es).ends text ps = es.foldl (fun ps e => e.ends text ps) ps := by
  induction es generalizing ps with
  | nil => rfl
  | cons e rest ih =>
      cases rest with
      | nil => rfl
      | cons next rest =>
          rw [List.foldl_cons, ← ih]
          rfl

theorem mem_ends_set {s : CharSet} : j ∈ (set s).ends text ps ↔
    ∃ i ∈ ps, ∃ c, text[i]? = some c ∧ s.contains c.toNat = true ∧ j = i + 1 := by
  rw [ends, List.mem_filterMap]
  refine exists_congr fun i => and_congr_right fun _ => ?_
  cases text[i]? with
  | none => simp
  | some c =>
      cases hc : s.contains c.toNat with
      | false => simp [hc]
      | true => simp [hc, eq_comm (a := i + 1)]

theorem mem_ends_look {l : Look} : j ∈ (look l).ends text ps ↔
    j ∈ ps ∧ l.holds (if j = 0 then none else text[j - 1]?) text[j]? = true := by
  rw [ends, List.mem_filter]

theorem mem_upTo {n : Nat} : i ∈ Positions.upTo n ↔ i ≤ n := by
  induction n with
  | zero => simp [Positions.upTo]
  | succ n ih =>
      rw [Positions.upTo, List.mem_cons, ih]
      omega

/-- A run of sets matches the pieces of a text whose characters are in these sets, one by one. -/
theorem mem_foldl_ends_set {chars : List Char} (sets : List CharSet) (ps : Positions) :
    j ∈ (sets.map set).foldl (fun ps e => e.ends chars.toArray ps) ps ↔
      ∃ i ∈ ps, ∃ w after, chars.drop i = w ++ after ∧
        List.Forall₂ (fun s c => s.contains c.toNat = true) sets w ∧ j = i + w.length := by
  induction sets generalizing ps with
  | nil => simp
  | cons s sets ih =>
      rw [List.map_cons, List.foldl_cons, ih]
      constructor
      · rintro ⟨_, hmem, w, after, hdrop, hw, rfl⟩
        obtain ⟨i, hi, c, hget, hc, rfl⟩ := mem_ends_set.mp hmem
        refine ⟨i, hi, c :: w, after, ?_, .cons hc hw, by rw [List.length_cons]; omega⟩
        rw [List.getElem?_toArray] at hget
        obtain ⟨hlt, hget⟩ := List.getElem?_eq_some_iff.mp hget
        rw [List.drop_eq_getElem_cons hlt, hget, hdrop, List.cons_append]
      · rintro ⟨i, hi, _, after, hdrop, hw, rfl⟩
        cases hw with
        | @cons _ c _ w hc hw =>
          rw [List.cons_append] at hdrop
          have hget : chars[i]? = some c := by
            rw [← List.head?_drop, hdrop]
            rfl
          have hnext : chars.drop (i + 1) = w ++ after := by
            rw [← List.tail_drop, hdrop]
            rfl
          refine ⟨i + 1, mem_ends_set.mpr ⟨i, hi, c, ?_, hc, rfl⟩, w, after, hnext, hw, ?_⟩
          · rw [List.getElem?_toArray, hget]
          · rw [List.length_cons]
            omega

theorem matchesIn_iff {e : Expr} {text : String} : e.matchesIn text = true ↔
    ∃ j, j ∈ e.ends text.toList.toArray (Positions.upTo text.toList.length) := by
  rw [matchesIn, Bool.not_eq_true', List.isEmpty_eq_false_iff_exists_mem, List.size_toArray]

/-- Where a run of sets matches: the text falls into what stands before, a piece whose characters
are in the sets, and what stands after. -/
theorem matchesIn_ofItems_set {sets : List CharSet} {text : String} :
    (ofItems (sets.map set)).matchesIn text = true ↔
      ∃ before w after, text.toList = before ++ w ++ after ∧
        List.Forall₂ (fun s c => s.contains c.toNat = true) sets w := by
  simp only [matchesIn_iff, ends_ofItems, mem_foldl_ends_set, mem_upTo]
  constructor
  · rintro ⟨_, i, -, w, after, hdrop, hw, -⟩
    refine ⟨text.toList.take i, w, after, ?_, hw⟩
    rw [List.append_assoc, ← hdrop, List.take_append_drop]
  · rintro ⟨before, w, after, htext, hw⟩
    refine ⟨_, before.length, ?_, w, after, ?_, hw, rfl⟩
    · simp [htext]
    · simp [htext]

/-- A line begins behind a text if the text is empty or ends a line. -/
theorem holds_startLine (before after : List Char) (next : Option Char) :
    Look.startLine.holds
        (if before.length = 0 then none else (before ++ after)[before.length - 1]?) next = true ↔
      before = [] ∨ before.getLast? = some '\n' := by
  rcases before.eq_nil_or_concat with rfl | ⟨front, c, rfl⟩
  · simp [Look.holds]
  · simp [Look.holds]

/-- A line ends in front of a text if the text is empty or begins with the end of a line. -/
theorem holds_endLine (before after : List Char) (previous : Option Char) :
    Look.endLine.holds previous (before ++ after)[before.length]? = true ↔
      after = [] ∨ after.head? = some '\n' := by
  rw [List.getElem?_append_right (Nat.le_refl _), Nat.sub_self]
  cases after with
  | nil => simp [Look.holds]
  | cons c after => simp [Look.holds]

/-- Where a run of sets matches between the anchors of a line: what stands before it is empty or
ends a line, and what stands after it is empty or begins with the end of a line. -/
theorem matchesIn_ofItems_line {sets : List CharSet} {text : String} :
    (ofItems (look .startLine :: (sets.map set ++ [look .endLine]))).matchesIn text = true ↔
      ∃ before w after, text.toList = before ++ w ++ after ∧
        List.Forall₂ (fun s c => s.contains c.toNat = true) sets w ∧
        (before = [] ∨ before.getLast? = some '\n') ∧ (after = [] ∨ after.head? = some '\n') := by
  simp only [matchesIn_iff, ends_ofItems, List.foldl_cons, List.foldl_append, List.foldl_nil,
    mem_ends_look, mem_foldl_ends_set, mem_upTo, List.getElem?_toArray]
  constructor
  · rintro ⟨_, ⟨i, ⟨hi, hstart⟩, w, after, hdrop, hw, rfl⟩, hend⟩
    have htext : text.toList = text.toList.take i ++ w ++ after := by
      rw [List.append_assoc, ← hdrop, List.take_append_drop]
    have hlength : (text.toList.take i).length = i := List.length_take_of_le hi
    generalize text.toList.take i = before at htext hlength
    subst hlength
    refine ⟨before, w, after, htext, hw, ?_, ?_⟩
    · rw [htext, List.append_assoc] at hstart
      exact (holds_startLine before (w ++ after) _).mp hstart
    · rw [htext, ← List.length_append] at hend
      exact (holds_endLine (before ++ w) after _).mp hend
  · rintro ⟨before, w, after, htext, hw, hstart, hend⟩
    rw [htext]
    refine ⟨_, ⟨before.length, ⟨?_, ?_⟩, w, after, ?_, hw, rfl⟩, ?_⟩
    · simp
    · rw [List.append_assoc]
      exact (holds_startLine before (w ++ after) _).mpr hstart
    · simp
    · rw [← List.length_append]
      exact (holds_endLine (before ++ w) after _).mpr hend

end Expr

end ArchiveSearch.Regex
