import ArchiveSearch.Proofs.Calendar.Day
import Mathlib.Order.Monotone.Basic

/-! # Months

The months of the calendar can be counted on from January of the year 0. The days before a month are
then those of all months before it, and the calendar finds the same number from the beginning of its
year.
-/

namespace ArchiveSearch.Calendar

/-! ## The months of a year -/

/-- The days of a month of a year, January being 0. -/
def monthLength (year : Int) (index : Nat) : Nat := (monthLengths year).getD index 0

theorem getElem?_monthLengths (year : Int) {index : Nat} (h : index < 12) :
    (monthLengths year)[index]? = some (monthLength year index) := by
  have hlength : index < (monthLengths year).length := h
  rw [monthLength, List.getD_eq_getElem?_getD, List.getElem?_eq_getElem hlength, Option.getD_some]

theorem monthLength_le (year : Int) (index : Nat) : monthLength year index ≤ 31 := by
  rw [monthLength, List.getD_eq_getElem?_getD]
  cases h : (monthLengths year)[index]? with
  | none => exact Nat.zero_le _
  | some length => exact monthLengths_le (List.mem_of_getElem? h)

theorem monthStart_succ (year : Int) (index : Nat) :
    monthStart year (index + 1) = monthStart year index + monthLength year index := by
  rw [monthStart, List.take_add_one, List.foldl_append, ← monthStart, monthLength,
    List.getD_eq_getElem?_getD]
  cases (monthLengths year)[index]? <;> rfl

theorem monthStart_mono (year : Int) : Monotone (monthStart year) := by
  apply monotone_nat_of_le_succ
  intro index
  rw [monthStart_succ]
  exact Nat.le_add_right _ _

theorem monthStart_twelve (year : Int) :
    (monthStart year 12 : Int) = yearStart (year + 1) - yearStart year :=
  sum_monthLengths year

/-! ## All months -/

/-- The days before a month, the months being counted from January of the year 0 on. -/
def daysBefore : Nat → Nat
  | 0 => 0
  | months + 1 => daysBefore months + monthLength (months / 12 : Nat) (months % 12)

/-- Counting months leads to the year of a month, and then to its place in the year. -/
theorem daysBefore_eq (months : Nat) : (daysBefore months : Int) =
    yearStart (months / 12 : Nat) + monthStart (months / 12 : Nat) (months % 12) := by
  induction months with
  | zero => rfl
  | succ months ih =>
      rw [daysBefore, Int.natCast_add, ih]
      rcases Nat.lt_or_ge (months % 12) 11 with hsame | hlast
      · -- The next month is in the same year.
        have hyear : (months + 1) / 12 = months / 12 := by omega
        have hindex : (months + 1) % 12 = months % 12 + 1 := by omega
        rw [hyear, hindex, monthStart_succ]
        omega
      · -- The next month is the first one of the next year.
        have hyear : (months + 1) / 12 = months / 12 + 1 := by omega
        have hindex : (months + 1) % 12 = 0 := by omega
        have hdecember : months % 12 = 11 := by omega
        have hwhole := monthStart_twelve (months / 12 : Nat)
        rw [monthStart_succ] at hwhole
        rw [hyear, hindex, hdecember, Int.natCast_add]
        change _ = yearStart ((months / 12 : Nat) + 1) + ((0 : Nat) : Int)
        omega

theorem daysBefore_mono : Monotone daysBefore :=
  monotone_nat_of_le_succ fun _ => Nat.le_add_right _ _

theorem daysBefore_le (months : Nat) : daysBefore months ≤ 31 * months := by
  induction months with
  | zero => exact Nat.le_refl 0
  | succ months ih =>
      have hlength := monthLength_le (months / 12 : Nat) (months % 12)
      rw [daysBefore]
      omega

end ArchiveSearch.Calendar
