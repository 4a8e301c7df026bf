import ArchiveSearch.Proofs.Calendar.Chronology

/-! # Real calendar times

A timestamp is that of a real calendar time if nothing in it has to be carried over and no month or
day is 00. The dates of days are real, and every real date is that of a day; so universal time
writes exactly the real timestamps as they are, and brings all others into this form. That is the
only thing that is lost when a conversion to another zone is undone.
-/

namespace ArchiveSearch.Calendar

/-! ## Real dates -/

/-- A day that has gone by the months before a place, and then by some days of the month at that
place, is found there. -/
theorem locate_take {lengths : List Nat} {index length left : Nat}
    (hget : lengths[index]? = some length) (hleft : left < length) :
    locate lengths ((lengths.take index).foldl (· + ·) 0 + left) = (index, left) := by
  induction lengths generalizing index with
  | nil => simp at hget
  | cons first rest ih =>
      cases index with
      | zero =>
          obtain rfl : first = length := Option.some.inj hget
          simp [locate, hleft]
      | succ index =>
          have hrest := ih (show rest[index]? = some length from hget)
          rw [List.take_succ_cons, List.foldl_cons, foldl_add_eq]
          have hlater : ¬ 0 + first + (rest.take index).foldl (· + ·) 0 + left < first := by omega
          have hdays : 0 + first + (rest.take index).foldl (· + ·) 0 + left - first =
              (rest.take index).foldl (· + ·) 0 + left := by omega
          rw [locate, if_neg hlater, hdays, hrest]

namespace Date

/-- Whether a date is one of the calendar: its year has the month, and the month has the day. -/
def IsReal (d : Date) : Prop :=
  (1 ≤ d.month ∧ d.month ≤ 12) ∧ 1 ≤ d.day ∧ d.day ≤ monthLength d.year (d.month - 1)

instance (d : Date) : Decidable d.IsReal := inferInstanceAs (Decidable (_ ∧ _))

theorem isReal_ofDayNumber (n : Int) : (ofDayNumber n).IsReal := by
  obtain ⟨hyear, hmonth, hday, -⟩ := ofDayNumber_range n
  obtain ⟨-, length, hget, hleft⟩ := locate_dayOfYear n
  refine ⟨hmonth, hday, ?_⟩
  rw [monthLength, List.getD_eq_getElem?_getD]
  simp only [ofDayNumber, Nat.add_sub_cancel, hget, Option.getD_some]
  exact hleft

/-- The days before a real date in its year are fewer than the days of the year. -/
theorem IsReal.yearOf_dayNumber {d : Date} (h : d.IsReal) : yearOf d.dayNumber = d.year := by
  obtain ⟨⟨hfirst, hlast⟩, hone, hday⟩ := h
  have hmonth := monthStart_succ d.year (d.month - 1)
  have hyear : monthStart d.year (d.month - 1 + 1) ≤ monthStart d.year 12 :=
    monthStart_mono d.year (by omega)
  have hwhole := monthStart_twelve d.year
  apply yearOf_eq
  · unfold dayNumber
    omega
  · unfold dayNumber
    omega

/-- Every real date is that of its day. -/
theorem IsReal.ofDayNumber_dayNumber {d : Date} (h : d.IsReal) : ofDayNumber d.dayNumber = d := by
  have hyear := h.yearOf_dayNumber
  obtain ⟨⟨hfirst, hlast⟩, hone, hday⟩ := h
  have hget := getElem?_monthLengths d.year (by omega : d.month - 1 < 12)
  have hdays : (d.dayNumber - yearStart d.year).toNat =
      ((monthLengths d.year).take (d.month - 1)).foldl (· + ·) 0 + (d.day - 1) := by
    unfold dayNumber monthStart
    omega
  have hplace := locate_take hget (by omega : d.day - 1 < monthLength d.year (d.month - 1))
  simp only [ofDayNumber, hyear, hdays, hplace, Nat.sub_add_cancel hfirst, Nat.sub_add_cancel hone]

end Date

/-! ## Real parts -/

namespace Parts

/-- The date that the parts write. -/
def date (p : Parts) : Date := ⟨p.year, p.month, p.day⟩

/-- Whether the parts are those of a real calendar time, nothing of which is carried over. -/
structure IsReal (p : Parts) : Prop where
  date : p.date.IsReal
  hour : p.hour ≤ 23
  minute : p.minute ≤ 59
  second : p.second ≤ 59

instance (p : Parts) : Decidable p.IsReal :=
  decidable_of_iff (p.date.IsReal ∧ p.hour ≤ 23 ∧ p.minute ≤ 59 ∧ p.second ≤ 59)
    ⟨fun h => ⟨h.1, h.2.1, h.2.2.1, h.2.2.2⟩, fun h => ⟨h.date, h.hour, h.minute, h.second⟩⟩

theorem dayNumber_of_isReal {p : Parts} (h : p.IsReal) : p.dayNumber = p.date.dayNumber := by
  obtain ⟨⟨hfirst, hlast⟩, -⟩ := h.date
  change 1 ≤ p.month at hfirst
  change p.month ≤ 12 at hlast
  have hnone : (p.month - 1) / 12 = 0 := by omega
  have hmonth : (p.month - 1) % 12 = p.month - 1 := by omega
  simp only [dayNumber, Date.dayNumber, date, hnone, hmonth, Int.natCast_zero, Int.add_zero]

/-- The milliseconds of the day that the parts write. -/
def timeOfDay (p : Parts) : Nat := ((p.hour * 60 + p.minute) * 60 + p.second) * 1000 + p.milli

theorem IsReal.timeOfDay_lt {p : Parts} (h : p.IsReal) (hmilli : p.milli < 1000) :
    p.timeOfDay < 86400000 := by
  have hhour := h.hour
  have hminute := h.minute
  have hsecond := h.second
  unfold timeOfDay
  omega

theorem IsReal.millis_instant_eq {p : Parts} (h : p.IsReal) :
    p.instant.millis = p.date.dayNumber * 86400000 + p.timeOfDay := by
  rw [← dayNumber_of_isReal h, instant, timeOfDay]
  push_cast
  ring

theorem IsReal.date_instant {p : Parts} (h : p.IsReal) (hmilli : p.milli < 1000) :
    p.instant.date = p.date := by
  have hmillis := h.millis_instant_eq
  have htime := h.timeOfDay_lt hmilli
  have hday : p.instant.millis / 86400000 = p.date.dayNumber := by omega
  rw [Instant.date, hday, h.date.ofDayNumber_dayNumber]

/-- Real parts are those that are written for the instant that they name. -/
theorem IsReal.parts_instant {p : Parts} (h : p.IsReal) (hmilli : p.milli < 1000) :
    p.instant.parts = p := by
  have hmillis := h.millis_instant_eq
  have hlt := h.timeOfDay_lt hmilli
  have hminute := h.minute
  have hsecond := h.second
  have htime : p.instant.timeOfDay = p.timeOfDay := by
    unfold Instant.timeOfDay
    omega
  unfold timeOfDay at htime
  have hhourPart : p.instant.timeOfDay / 3600000 = p.hour := by omega
  have hminutePart : p.instant.timeOfDay / 60000 % 60 = p.minute := by omega
  have hsecondPart : p.instant.timeOfDay / 1000 % 60 = p.second := by omega
  have hmilliPart : p.instant.timeOfDay % 1000 = p.milli := by omega
  rw [Instant.parts, h.date_instant hmilli, hhourPart, hminutePart, hsecondPart, hmilliPart]
  rfl

/-- What is written for an instant from the year 0 on is real. -/
theorem isReal_parts {t : Instant} (h : 0 ≤ t.date.year) : t.parts.IsReal := by
  have hdate : t.parts.date = t.date := by
    simp only [date, Instant.parts, Int.toNat_of_nonneg h]
  have htime := t.timeOfDay_lt
  refine ⟨?_, ?_, ?_, ?_⟩
  · rw [hdate]
    exact Date.isReal_ofDayNumber _
  · change t.timeOfDay / 3600000 ≤ 23
    omega
  · change t.timeOfDay / 60000 % 60 ≤ 59
    omega
  · change t.timeOfDay / 1000 % 60 ≤ 59
    omega

end Parts

/-! ## Conversions -/

/-- Universal time writes a timestamp as it is exactly if its parts are real. -/
theorem text_instant_eq_iff {text : String} {p : Parts} (h : Parts.read? text = some p) :
    p.instant.text = text ↔ p.IsReal := by
  obtain ⟨htext, -⟩ := Parts.read?_eq_some h
  constructor
  · intro hsame
    -- What is written for an instant reads as its real parts.
    rw [← hsame] at htext h
    obtain ⟨hyear, -⟩ := Instant.isTimestamp_text_iff.mp htext
    rw [Instant.read?_text_parts htext, Option.some.injEq] at h
    rw [← h]
    exact Parts.isReal_parts hyear
  · intro hreal
    obtain ⟨hyear, -, -, -, -, -, hmilli⟩ := Parts.lt_of_read? h
    have hfits : IsTimestamp p.instant.text := by
      rw [Instant.isTimestamp_text_iff, hreal.date_instant hmilli]
      change 0 ≤ (p.year : Int) ∧ (p.year : Int) < 10000
      omega
    have hread := Instant.read?_text_parts hfits
    rw [hreal.parts_instant hmilli] at hread
    exact Parts.read?_inj hread h

theorem Zone.ahead_utc : Zone.utc.ahead = 0 := rfl

/-- A conversion to a zone that yields a timestamp is undone by the conversion back, up to the form
that universal time gives to the timestamp; and this form is the timestamp itself exactly if it is
that of a real calendar time. -/
theorem localToUtc?_of_utcToLocal? (offset : Offset) {text : String} (h : IsTimestamp text) :
    ∃ p here plain, Parts.read? text = some p ∧ (Zone.fixed offset).utcToLocal? text = some here ∧
      Zone.utc.utcToLocal? text = some plain ∧
      (IsTimestamp here → (Zone.fixed offset).localToUtc? here = some plain) ∧
      (plain = text ↔ p.IsReal) := by
  obtain ⟨p, hp, -, hconvert⟩ := h.parts
  have hplain : Zone.utc.utcToLocal? text = some p.instant.text := by
    rw [hconvert, Zone.ahead_utc, Instant.later_zero]
  refine ⟨p, _, _, hp, hconvert _, hplain, ?_, text_instant_eq_iff hp⟩
  intro hhere
  rw [Zone.localToUtc?, Instant.read?_text hhere, Option.map_some, Instant.later_later_neg]

/-- A timestamp with a month, a day and an hour that are not real: in a zone five and a half hours
ahead it falls on the next day, and on the way back it only takes its real form. -/
theorem localToUtc?_of_utcToLocal?_carried :
    IsTimestamp "20201300430000000" ∧
    ∃ here plain, (Zone.fixed ⟨19800, by decide⟩).utcToLocal? "20201300430000000" = some here ∧
      Zone.utc.utcToLocal? "20201300430000000" = some plain ∧ IsTimestamp here ∧
      (Zone.fixed ⟨19800, by decide⟩).localToUtc? here = some plain ∧
      plain = "20210102190000000" ∧ plain ≠ "20201300430000000" := by
  have htext : IsTimestamp "20201300430000000" := by decide
  have hread : Parts.read? "20201300430000000" = some ⟨2020, 13, 0, 43, 0, 0, 0⟩ := by
    decide +kernel
  have hhere : (Zone.fixed ⟨19800, by decide⟩).utcToLocal? "20201300430000000" =
      some "20210103003000000" := by decide +kernel
  have hplain : Zone.utc.utcToLocal? "20201300430000000" = some "20210102190000000" := by
    decide +kernel
  have hfits : IsTimestamp "20210103003000000" := by decide
  obtain ⟨p, here, plain, hread', hhere', hplain', hback, hreal⟩ :=
    localToUtc?_of_utcToLocal? ⟨19800, by decide⟩ htext
  obtain rfl : _ = p := Option.some.inj (hread.symm.trans hread')
  obtain rfl : _ = here := Option.some.inj (hhere.symm.trans hhere')
  obtain rfl : _ = plain := Option.some.inj (hplain.symm.trans hplain')
  exact ⟨htext, _, _, hhere, hplain, hfits, hback hfits, rfl, mt hreal.mp (by decide)⟩

end ArchiveSearch.Calendar
