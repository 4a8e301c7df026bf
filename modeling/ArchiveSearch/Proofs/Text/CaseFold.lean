import ArchiveSearch.Regex.CharSet
import Mathlib.Data.List.Basic
import Mathlib.Data.List.Chain

/-! # Simple case folding

The runs of the folding follow each other, so that a character is in one of them at most, and no
folding is in a run itself. Folding twice is therefore folding once, and the forms of a letter
are exactly the characters with its folding. Among the first 128 characters the folding is
the small letter.
-/

namespace ArchiveSearch

namespace Text

namespace FoldRun

theorem image_eq_some_iff {r : FoldRun} {n m : Nat} :
    r.image n = some m ↔
      (r.first ≤ n ∧ n ≤ r.last ∧ (n - r.first) % r.stride = 0) ∧
        r.target + (n - r.first) = m := by
  unfold image
  split
  next h => simp [h]
  next h => simp [h]

/-- Read backwards, a run gives the character that it folds. -/
theorem source_eq_some_iff {r : FoldRun} (hrun : r.first ≤ r.last) {n m : Nat} :
    r.source m = some n ↔ r.image n = some m := by
  rw [image_eq_some_iff]
  unfold source
  constructor
  · intro hsource
    split at hsource
    next h =>
      obtain ⟨htarget, hlast, hstride⟩ := h
      cases hsource
      rw [Nat.add_sub_cancel_left]
      exact ⟨⟨by omega, by omega, hstride⟩, by omega⟩
    next => cases hsource
  · rintro ⟨⟨hfirst, hlast, hstride⟩, rfl⟩
    rw [Nat.add_sub_cancel_left, if_pos ⟨by omega, by omega, hstride⟩]
    congr 1
    omega

/-- No folding of the first run is in the second: the foldings are all before it, all behind it, or
in the gaps of a run in steps of two. -/
def avoids (r s : FoldRun) : Bool :=
  Nat.blt (r.target + (r.last - r.first)) s.first || Nat.blt s.last r.target ||
    (Nat.beq s.stride 2 && (Nat.beq r.stride 2 || Nat.beq r.first r.last) &&
      Nat.beq ((r.target + s.first) % 2) 1)

theorem image_eq_none_of_avoids {r s : FoldRun} (havoids : r.avoids s = true) {n m : Nat}
    (himage : r.image n = some m) : s.image m = none := by
  rw [Option.eq_none_iff_forall_ne_some]
  intro k hagain
  obtain ⟨⟨hfirst, hlast, hstride⟩, rfl⟩ := image_eq_some_iff.mp himage
  obtain ⟨⟨hfirst', hlast', hstride'⟩, -⟩ := image_eq_some_iff.mp hagain
  simp only [avoids, Nat.blt_eq, Nat.beq_eq, Bool.or_eq_true, Bool.and_eq_true] at havoids
  rcases havoids with (hbefore | hbehind) | ⟨⟨htwo, hsteps⟩, hodd⟩
  · omega
  · omega
  · rw [htwo] at hstride'
    rcases hsteps with hsteps | hsingle
    · rw [hsteps] at hstride
      omega
    · omega

end FoldRun

/-! ## The table -/

theorem foldRuns_first_le_last : ∀ run ∈ foldRuns, run.first ≤ run.last := by
  decide +kernel

theorem foldRuns_avoid : ∀ run ∈ foldRuns, ∀ other ∈ foldRuns, run.avoids other = true := by
  have hall : foldRuns.all (fun run => foldRuns.all fun other => run.avoids other) = true := by
    decide +kernel
  simpa only [List.all_eq_true] using hall

/-- The runs follow each other. -/
theorem foldRuns_pairwise : foldRuns.Pairwise (·.last < ·.first) := by
  have hchain : foldRuns.IsChain fun run other =>
      run.last < other.first ∧ other.first ≤ other.last := by
    decide +kernel
  have htrans : IsTrans FoldRun fun run other =>
      run.last < other.first ∧ other.first ≤ other.last :=
    ⟨fun _ _ _ h h' => ⟨by omega, h'.2⟩⟩
  exact hchain.pairwise.imp And.left

/-- The shortcut for the first 128 characters says what the runs say. -/
theorem foldCode_eq (n : Nat) : foldCode n = (foldRuns.findSome? (·.image n)).getD n := by
  have hhead : foldRuns = ⟨0x41, 0x5a, 1, 0x61⟩ :: foldRuns.tail := rfl
  have htail : ∀ run ∈ foldRuns.tail, 0x80 ≤ run.first := by decide +kernel
  unfold foldCode
  split
  next hascii =>
    have hnone : foldRuns.tail.findSome? (·.image n) = none := by
      rw [List.findSome?_eq_none_iff]
      intro run hrun
      have hfirst := htail run hrun
      exact if_neg (by omega)
    rw [hhead, List.findSome?_cons, hnone]
    simp only [FoldRun.image, Nat.mod_one, and_true]
    split
    · simp only [Option.getD_some]
      omega
    · rfl
  next => rfl

/-! ## The folding -/

/-- A character of a run has the folding that the run gives it. -/
theorem foldCode_of_image {run : FoldRun} (hrun : run ∈ foldRuns) {n m : Nat}
    (himage : run.image n = some m) : foldCode n = m := by
  obtain ⟨before, after, hsplit⟩ := List.append_of_mem hrun
  have hpairwise := foldRuns_pairwise
  rw [hsplit, List.pairwise_append] at hpairwise
  have hnone : before.findSome? (·.image n) = none := by
    rw [List.findSome?_eq_none_iff]
    intro other hother
    have hlast : other.last < run.first := hpairwise.2.2 other hother run List.mem_cons_self
    have hfirst : run.first ≤ n := (FoldRun.image_eq_some_iff.mp himage).1.1
    exact if_neg (by omega)
  rw [foldCode_eq, hsplit, List.findSome?_append, hnone, List.findSome?_cons, himage]
  rfl

/-- A character is its own folding or in a run. -/
theorem foldCode_cases (n : Nat) :
    foldCode n = n ∨ ∃ run ∈ foldRuns, run.image n = some (foldCode n) := by
  rw [foldCode_eq]
  cases hfound : foldRuns.findSome? (·.image n) with
  | none => exact .inl rfl
  | some m => exact .inr (List.exists_of_findSome?_eq_some hfound)

/-- Folding twice is folding once. -/
theorem foldCode_foldCode (n : Nat) : foldCode (foldCode n) = foldCode n := by
  rcases foldCode_cases n with hself | ⟨run, hrun, himage⟩
  · rw [hself, hself]
  · have hnone : foldRuns.findSome? (·.image (foldCode n)) = none := by
      rw [List.findSome?_eq_none_iff]
      intro other hother
      exact FoldRun.image_eq_none_of_avoids (foldRuns_avoid run hrun other hother) himage
    rw [foldCode_eq (foldCode n), hnone, Option.getD_none]

/-- Among the first 128 characters the folding is the small letter. -/
theorem foldCode_toNat {c : Char} (h : c.toNat < 0x80) : foldCode c.toNat = c.toLower.toNat := by
  have hall : ∀ n < 0x80, foldCode n = (Char.ofNat n).toLower.toNat := by decide +kernel
  simpa only [Char.ofNat_toNat] using hall c.toNat h

/-- The forms of a letter are the characters that are the same letter. -/
theorem mem_letterForms_iff {n m : Nat} : m ∈ letterForms n ↔ foldCode m = foldCode n := by
  have hforms : m ∈ letterForms n ↔
      m = foldCode n ∨ ∃ run ∈ foldRuns, run.image m = some (foldCode n) := by
    simp only [letterForms, List.mem_cons, List.mem_filterMap]
    apply or_congr_right
    refine exists_congr fun run => and_congr_right fun hrun => ?_
    exact FoldRun.source_eq_some_iff (foldRuns_first_le_last run hrun)
  rw [hforms]
  constructor
  · rintro (rfl | ⟨run, hrun, himage⟩)
    · exact foldCode_foldCode n
    · exact foldCode_of_image hrun himage
  · intro hsame
    rw [← hsame]
    rcases foldCode_cases m with hself | hrun
    · exact .inl hself.symm
    · exact .inr hrun

end Text

/-- The closure of a set under case has the characters that are the same letter as one of its
members. -/
theorem Regex.CharSet.contains_anyCase_iff {a : CharSet} {n : Nat} :
    (CharSet.anyCase a).contains n = true ↔
      ∃ m, a.contains m = true ∧ Text.foldCode m = Text.foldCode n := by
  simp only [contains, List.any_eq_true, Text.mem_letterForms_iff, and_comm]

end ArchiveSearch
