import ArchiveSearch.Proofs.Calendar.Month
import ArchiveSearch.Proofs.Calendar.Parts

/-! # The order of time

An instant can be counted out: month after month from the beginning of the year 0, and from there
days, hours, minutes, seconds and milliseconds, however many of them are written. The calendar
reaches the same instant from the beginning of a year, so what is written for two timestamps, in
whatever zone, is ordered as what they count.
-/

namespace ArchiveSearch.Calendar

/-! ## Counting instants -/

namespace Parts

/-- The milliseconds from the beginning of the year 0 to the instant that the parts name: the months
up to the first of January of the year, the other months, the days, and what is smaller, all of it
added up. A month or day 00 adds nothing. -/
def count (p : Parts) : Nat :=
  let days := daysBefore (12 * p.year + (p.month - 1)) + (p.day - 1)
  (((days * 24 + p.hour) * 60 + p.minute) * 60 + p.second) * 1000 + p.milli

theorem millis_instant (p : Parts) : p.instant.millis = p.count := by
  have hyear : (12 * p.year + (p.month - 1)) / 12 = p.year + (p.month - 1) / 12 := by omega
  have hindex : (12 * p.year + (p.month - 1)) % 12 = (p.month - 1) % 12 := by omega
  have hdays : p.dayNumber =
      ((daysBefore (12 * p.year + (p.month - 1)) + (p.day - 1) : Nat) : Int) := by
    rw [Int.natCast_add, daysBefore_eq, hyear, hindex]
    rfl
  rw [instant, hdays, count]
  push_cast
  rfl

/-- The parts of a timestamp lead over four million days at most. -/
theorem count_lt_of_read? {text : String} {p : Parts} (h : read? text = some p) :
    p.count < 86400000 * 4000000 := by
  obtain ⟨hyear, hmonth, hday, hhour, hminute, hsecond, hmilli⟩ := lt_of_read? h
  have hdays := daysBefore_le (12 * p.year + (p.month - 1))
  rw [count]
  omega

end Parts

/-! ## Timestamps -/

theorem Instant.text_eq_iff {s t : Instant} (hs : IsTimestamp s.text) (ht : IsTimestamp t.text) :
    s.text = t.text ↔ s.millis = t.millis := by
  constructor
  · intro h
    have hread := (read?_text hs).symm.trans ((congrArg read? h).trans (read?_text ht))
    rw [Option.some.inj hread]
  · intro h
    cases s
    cases t
    cases h
    rfl

/-- What a zone writes for two instants, if it is a timestamp for both, is ordered as what they
count. -/
theorem Parts.text_lt_iff {p q : Parts} {seconds : Int}
    (hp : IsTimestamp (p.instant.later seconds).text)
    (hq : IsTimestamp (q.instant.later seconds).text) :
    (p.instant.later seconds).text < (q.instant.later seconds).text ↔ p.count < q.count := by
  rw [Instant.text_lt_iff hp hq]
  simp only [Instant.later, Int.add_lt_add_iff_right, Parts.millis_instant, Int.ofNat_lt]

/-- What any fixed offset writes for two timestamps, if both are timestamps again, is ordered as the
instants that they count. -/
theorem utcToLocal?_ordered (offset : Offset) {x y : String} (hx : IsTimestamp x)
    (hy : IsTimestamp y) :
    ∃ p q u v, Parts.read? x = some p ∧ Parts.read? y = some q ∧
      (Zone.fixed offset).utcToLocal? x = some u ∧ (Zone.fixed offset).utcToLocal? y = some v ∧
      (IsTimestamp u → IsTimestamp v →
        (u < v ↔ p.count < q.count) ∧ (u = v ↔ p.count = q.count) ∧
          (v < u ↔ q.count < p.count)) := by
  obtain ⟨p, hp, -, hpz⟩ := hx.parts
  obtain ⟨q, hq, -, hqz⟩ := hy.parts
  refine ⟨p, q, _, _, hp, hq, hpz _, hqz _, ?_⟩
  intro hu hv
  refine ⟨Parts.text_lt_iff hu hv, ?_, Parts.text_lt_iff hv hu⟩
  rw [Instant.text_eq_iff hu hv]
  simp only [Instant.later, Int.add_left_inj, Parts.millis_instant, Int.natCast_inj]

/-- Parts that are carried over: the smaller text is of the later instant, by a millisecond, and
what is written for it is larger. -/
theorem utcToLocal?_ordered_carried :
    IsTimestamp "20209999999999999" ∧ IsTimestamp "20280611044039998" ∧
    "20209999999999999" < "20280611044039998" ∧
    ∃ u v, (Zone.fixed ⟨19800, by decide⟩).utcToLocal? "20209999999999999" = some u ∧
      (Zone.fixed ⟨19800, by decide⟩).utcToLocal? "20280611044039998" = some v ∧
      IsTimestamp u ∧ IsTimestamp v ∧ v < u := by
  have hx : IsTimestamp "20209999999999999" := by decide
  have hy : IsTimestamp "20280611044039998" := by decide
  have hp : Parts.read? "20209999999999999" = some ⟨2020, 99, 99, 99, 99, 99, 999⟩ := by
    decide +kernel
  have hq : Parts.read? "20280611044039998" = some ⟨2028, 6, 11, 4, 40, 39, 998⟩ := by
    decide +kernel
  have hu : (Zone.fixed ⟨19800, by decide⟩).utcToLocal? "20209999999999999" =
      some "20280611101039999" := by decide +kernel
  have hv : (Zone.fixed ⟨19800, by decide⟩).utcToLocal? "20280611044039998" =
      some "20280611101039998" := by decide +kernel
  obtain ⟨p, q, u, v, hp', hq', hu', hv', horder⟩ :=
    utcToLocal?_ordered ⟨19800, by decide⟩ hx hy
  obtain rfl : _ = p := Option.some.inj (hp.symm.trans hp')
  obtain rfl : _ = q := Option.some.inj (hq.symm.trans hq')
  obtain rfl : _ = u := Option.some.inj (hu.symm.trans hu')
  obtain rfl : _ = v := Option.some.inj (hv.symm.trans hv')
  have hlater : (⟨2028, 6, 11, 4, 40, 39, 998⟩ : Parts).count <
      (⟨2020, 99, 99, 99, 99, 99, 999⟩ : Parts).count := by
    rw [← Int.ofNat_lt, ← Parts.millis_instant, ← Parts.millis_instant]
    decide
  have hfits : IsTimestamp "20280611101039999" ∧ IsTimestamp "20280611101039998" := by decide
  exact ⟨hx, hy, by decide +kernel, _, _, hu, hv, hfits.1, hfits.2,
    (horder hfits.1 hfits.2).2.2.mpr hlater⟩

end ArchiveSearch.Calendar
