import ArchiveSearch.Calendar.Date
import Mathlib.Order.Basic

/-! # Days and dates

Every day lies in exactly one year and in one month of it, so that dates and the numbers of days
name each other. Later days have later dates: of two dates the first in which year, month or day
differ decides.
-/

namespace ArchiveSearch.Calendar

/-! ## Years -/

theorem yearStart_succ (year : Int) :
    yearStart (year + 1) = yearStart year + if isLeapYear year then 366 else 365 := by
  unfold yearStart isLeapYear
  split
  next hleap =>
    simp only [Bool.and_eq_true, Bool.or_eq_true, beq_iff_eq, bne_iff_ne, ne_eq] at hleap
    omega
  next hleap =>
    simp only [Bool.and_eq_true, Bool.or_eq_true, beq_iff_eq, bne_iff_ne, ne_eq, not_and,
      not_or] at hleap
    omega

theorem yearStart_mono {y z : Int} (h : y ≤ z) : yearStart y ≤ yearStart z := by
  unfold yearStart
  omega

/-- A day lies between the beginning of its year and that of the next. -/
theorem yearStart_yearOf (n : Int) : yearStart (yearOf n) ≤ n ∧ n < yearStart (yearOf n + 1) := by
  -- The estimate is off by at most one year.
  have hbefore : yearStart (400 * n / 146097 - 1) ≤ n := by
    unfold yearStart
    omega
  have hafter : n < yearStart (400 * n / 146097 + 1 + 1) := by
    unfold yearStart
    omega
  unfold yearOf
  dsimp only
  split
  next hearly => exact ⟨hbefore, by rwa [Int.sub_add_cancel]⟩
  next hnotEarly =>
    split
    next hlate => exact ⟨hlate, hafter⟩
    next hnotLate => exact ⟨Int.not_lt.mp hnotEarly, Int.not_le.mp hnotLate⟩

theorem yearOf_eq {n year : Int} (hfirst : yearStart year ≤ n) (hlast : n < yearStart (year + 1)) :
    yearOf n = year := by
  obtain ⟨hstart, hend⟩ := yearStart_yearOf n
  by_contra hne
  rcases Int.lt_or_gt_of_ne hne with hlt | hgt
  · have hmono := yearStart_mono (y := yearOf n + 1) (z := year) hlt
    omega
  · have hmono := yearStart_mono (y := year + 1) (z := yearOf n) hgt
    omega

theorem yearOf_mono {m n : Int} (h : m ≤ n) : yearOf m ≤ yearOf n := by
  obtain ⟨hstart, -⟩ := yearStart_yearOf m
  obtain ⟨-, hend⟩ := yearStart_yearOf n
  by_contra hlt
  have hmono := yearStart_mono (y := yearOf n + 1) (z := yearOf m) (by omega)
  omega

/-! ## Months -/

/-- The months of a year make up the year. -/
theorem sum_monthLengths (year : Int) :
    ((monthLengths year).foldl (· + ·) 0 : Nat) = yearStart (year + 1) - yearStart year := by
  rw [yearStart_succ]
  unfold monthLengths
  cases isLeapYear year with
  | false =>
      change (365 : Int) = yearStart year + 365 - yearStart year
      omega
  | true =>
      change (366 : Int) = yearStart year + 366 - yearStart year
      omega

theorem length_monthLengths (year : Int) : (monthLengths year).length = 12 := rfl

theorem monthLengths_le {year : Int} {length : Nat} (h : length ∈ monthLengths year) :
    length ≤ 31 := by
  unfold monthLengths at h
  cases hleap : isLeapYear year <;> simp [hleap] at h <;> omega

section Locate

variable {lengths : List Nat} {m n : Nat}

theorem foldl_add_eq (start : Nat) (lengths : List Nat) :
    lengths.foldl (· + ·) start = start + lengths.foldl (· + ·) 0 := by
  induction lengths generalizing start with
  | nil => rfl
  | cons length rest ih =>
      rw [List.foldl_cons, List.foldl_cons, ih, ih (0 + length)]
      omega

/-- The place of a day among months: the days of the months before its own, and those that have
gone by in its own month, which are fewer than the month has. -/
theorem locate_spec (h : n < lengths.foldl (· + ·) 0) :
    (lengths.take (locate lengths n).1).foldl (· + ·) 0 + (locate lengths n).2 = n ∧
      ∃ length, lengths[(locate lengths n).1]? = some length ∧ (locate lengths n).2 < length := by
  induction lengths generalizing n with
  | nil => exact absurd h (Nat.not_lt_zero n)
  | cons length rest ih =>
      rw [List.foldl_cons, foldl_add_eq] at h
      unfold locate
      split
      next hhere => exact ⟨by simp, length, rfl, hhere⟩
      next hlater =>
        obtain ⟨hsum, found, hget, hleft⟩ := ih (n := n - length) (by omega)
        dsimp only
        refine ⟨?_, found, ?_, hleft⟩
        · rw [List.take_succ_cons, List.foldl_cons, foldl_add_eq]
          omega
        · rw [List.getElem?_cons_succ, hget]

/-- A later day is in a later month, or later in the same month. -/
theorem locate_lt (lengths : List Nat) (h : m < n) : (locate lengths m).1 < (locate lengths n).1 ∨
    (locate lengths m).1 = (locate lengths n).1 ∧ (locate lengths m).2 < (locate lengths n).2 := by
  induction lengths generalizing m n with
  | nil => exact .inr ⟨rfl, h⟩
  | cons length rest ih =>
      unfold locate
      by_cases hm : m < length
      · by_cases hn : n < length
        · simp [hm, hn, h]
        · simp [hm, hn]
      · have hn : ¬n < length := by omega
        have hrest := ih (m := m - length) (n := n - length) (by omega)
        simpa [hm, hn] using hrest

end Locate

/-! ## Dates -/

namespace Date

/-- Whether a date comes before another: the first part in which they differ decides. -/
def Earlier (d e : Date) : Prop :=
  d.year < e.year ∨ d.year = e.year ∧ (d.month < e.month ∨ d.month = e.month ∧ d.day < e.day)

/-- The days that have gone by in a year are those of some of its months and of a part of one. -/
theorem locate_dayOfYear (n : Int) :
    let lengths := monthLengths (yearOf n)
    let place := locate lengths (n - yearStart (yearOf n)).toNat
    ((lengths.take place.1).foldl (· + ·) 0 + place.2 : Nat) = n - yearStart (yearOf n) ∧
      ∃ length, lengths[place.1]? = some length ∧ place.2 < length := by
  intro lengths place
  obtain ⟨hstart, hend⟩ := yearStart_yearOf n
  have hyear : (n - yearStart (yearOf n)).toNat < lengths.foldl (· + ·) 0 := by
    have hsum := sum_monthLengths (yearOf n)
    change (lengths.foldl (· + ·) 0 : Nat) = yearStart (yearOf n + 1) - yearStart (yearOf n) at hsum
    omega
  obtain ⟨hsum, hlength⟩ := locate_spec hyear
  refine ⟨?_, hlength⟩
  change (lengths.take place.1).foldl (· + ·) 0 + place.2 = _ at hsum
  omega

/-- The date of a day is one of its year, with a month from 1 to 12 and a day from 1 to 31. -/
theorem ofDayNumber_range (n : Int) : (ofDayNumber n).year = yearOf n ∧
    (1 ≤ (ofDayNumber n).month ∧ (ofDayNumber n).month ≤ 12) ∧
    1 ≤ (ofDayNumber n).day ∧ (ofDayNumber n).day ≤ 31 := by
  obtain ⟨-, length, hget, hleft⟩ := locate_dayOfYear n
  have hmonth := (List.getElem?_eq_some_iff.mp hget).1
  have hlength := monthLengths_le (List.mem_of_getElem? hget)
  rw [length_monthLengths] at hmonth
  refine ⟨rfl, ?_⟩
  simp only [ofDayNumber]
  omega

/-- The date of a day leads back to the day. -/
theorem dayNumber_ofDayNumber (n : Int) : (ofDayNumber n).dayNumber = n := by
  obtain ⟨hsum, -⟩ := locate_dayOfYear n
  simp only [dayNumber, ofDayNumber, monthStart, Nat.add_sub_cancel]
  omega

/-- Later days have later dates. -/
theorem ofDayNumber_earlier {m n : Int} (h : m < n) : (ofDayNumber m).Earlier (ofDayNumber n) := by
  rcases Int.lt_or_eq_of_le (yearOf_mono (Int.le_of_lt h)) with hyear | hyear
  · exact .inl hyear
  · obtain ⟨hstart, -⟩ := yearStart_yearOf m
    have hdays : (m - yearStart (yearOf m)).toNat < (n - yearStart (yearOf n)).toNat := by
      rw [← hyear]
      omega
    have hplace := locate_lt (monthLengths (yearOf m)) hdays
    refine .inr ⟨hyear, ?_⟩
    simp only [ofDayNumber]
    rw [← hyear] at hplace ⊢
    omega

end Date

end ArchiveSearch.Calendar
