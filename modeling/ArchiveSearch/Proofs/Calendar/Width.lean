import ArchiveSearch.Proofs.Calendar.Timestamp

/-! # The width of converted timestamps

What is written for an instant has the width of a timestamp as long as the instant lies in the years
0 to 9999, and it is then read as the same instant. A conversion, and also parts that are carried
over, can lead out of these years at either end. What is written then has another width, or a sign,
and is not read as a timestamp again.
-/

namespace ArchiveSearch.Calendar

/-! ## Years of four digits -/

theorem yearOf_nonneg_iff {n : Int} : 0 ≤ yearOf n ↔ 0 ≤ n := by
  obtain ⟨hstart, hend⟩ := yearStart_yearOf n
  constructor
  · intro h
    have hmono := yearStart_mono h
    exact hmono.trans hstart
  · intro h
    by_contra hneg
    have hmono := yearStart_mono (y := yearOf n + 1) (z := 0) (by omega)
    exact absurd (hend.trans_le hmono) (Int.not_lt.mpr h)

theorem yearOf_lt_iff {n year : Int} : yearOf n < year ↔ n < yearStart year := by
  obtain ⟨hstart, hend⟩ := yearStart_yearOf n
  constructor
  · intro h
    have hmono := yearStart_mono (y := yearOf n + 1) (z := year) h
    exact hend.trans_le hmono
  · intro h
    by_contra hle
    have hmono := yearStart_mono (y := year) (z := yearOf n) (Int.not_lt.mp hle)
    exact absurd (hmono.trans hstart) (Int.not_le.mpr h)

namespace Instant

/-- Whether an instant lies in the years 0 to 9999. -/
def HasFourDigitYear (t : Instant) : Prop :=
  0 ≤ t.millis ∧ t.millis < 86400000 * yearStart 10000

instance (t : Instant) : Decidable t.HasFourDigitYear :=
  inferInstanceAs (Decidable (0 ≤ t.millis ∧ t.millis < 86400000 * yearStart 10000))

variable {t : Instant}

theorem date_year_nonneg_iff : 0 ≤ t.date.year ↔ 0 ≤ t.millis := by
  rw [t.date_range.1, yearOf_nonneg_iff]
  omega

theorem date_year_lt_iff {year : Int} :
    t.date.year < year ↔ t.millis < 86400000 * yearStart year := by
  rw [t.date_range.1, yearOf_lt_iff]
  omega

theorem isTimestamp_text_iff_hasFourDigitYear : IsTimestamp t.text ↔ t.HasFourDigitYear := by
  rw [isTimestamp_text_iff, date_year_nonneg_iff, date_year_lt_iff, HasFourDigitYear]

/-! ## Reading what was written -/

theorem number_of_length_le {front rest : List Char} {start count : Nat}
    (h : front.length ≤ start) :
    Parts.number (front ++ rest) start count =
      Parts.number rest (start - front.length) count := by
  rw [Parts.number, Parts.number, List.drop_append, List.drop_eq_nil_of_le h, List.nil_append]

theorem number_of_length_eq {digits : String} {rest : List Char} {count : Nat}
    (h : digits.toList.length = count) :
    Parts.number (digits.toList ++ rest) 0 count = numeral digits := by
  rw [Parts.number, List.drop_zero, List.take_left' h, numeral]

/-- The parts that are written for an instant. -/
def parts (t : Instant) : Parts where
  year := t.date.year.toNat
  month := t.date.month
  day := t.date.day
  hour := t.timeOfDay / 3600000
  minute := t.timeOfDay / 60000 % 60
  second := t.timeOfDay / 1000 % 60
  milli := t.timeOfDay % 1000

theorem read?_text_parts (h : IsTimestamp t.text) : Parts.read? t.text = some t.parts := by
  obtain ⟨hyear, hbound⟩ := isTimestamp_text_iff.mp h
  have hyearText : yearText t.date.year = padded 4 t.date.year.toNat :=
    if_neg (Int.not_lt.mpr hyear)
  have hyearLength : (padded 4 t.date.year.toNat).length = 4 :=
    length_padded_of_lt (by decide) (by omega)
  obtain ⟨hmonth, hday, hhour, hminute, hsecond, hmilli⟩ := t.lengths_parts
  have hdigits : t.text.toList.length = timestampWidth ∧ t.text.toList.all Char.isDigit = true :=
    ⟨by rw [String.length_toList, h.1], List.all_eq_true.mpr h.2⟩
  have htext : t.text.toList = (padded 4 t.date.year.toNat).toList ++
      ((padded 2 t.date.month).toList ++ ((padded 2 t.date.day).toList ++
      ((padded 2 (t.timeOfDay / 3600000)).toList ++
      ((padded 2 (t.timeOfDay / 60000 % 60)).toList ++
      ((padded 2 (t.timeOfDay / 1000 % 60)).toList ++
      ((padded 3 (t.timeOfDay % 1000)).toList ++ [])))))) := by
    simp only [text_eq, hyearText, String.toList_append, List.append_assoc, List.append_nil]
  rw [Parts.read?]
  simp only [if_pos hdigits, Option.some.injEq, parts, Parts.mk.injEq]
  rw [htext]
  simp only [← String.length_toList] at hyearLength hmonth hday hhour hminute hsecond hmilli
  refine ⟨?_, ?_, ?_, ?_, ?_, ?_, ?_⟩
  all_goals
    simp (disch := simp [*]) only [number_of_length_le, number_of_length_eq, hyearLength, hmonth,
      hday, hhour, hminute, hsecond, Nat.reduceSub, numeral_padded]

theorem instant_parts (h : 0 ≤ t.date.year) : t.parts.instant = t := by
  have hday : t.date.dayNumber = t.millis / 86400000 := Date.dayNumber_ofDayNumber _
  obtain ⟨-, ⟨hfirst, hmonth⟩, -, -⟩ := t.date_range
  have hnumber : t.parts.dayNumber = t.date.dayNumber := by
    simp only [Parts.dayNumber, parts, Date.dayNumber, Nat.div_eq_of_lt (by omega :
      t.date.month - 1 < 12), Nat.mod_eq_of_lt (by omega : t.date.month - 1 < 12),
      Int.toNat_of_nonneg h, Int.natCast_zero, Int.add_zero]
  have hmillis : t.parts.instant.millis = t.millis := by
    calc t.parts.instant.millis
        = (((t.parts.dayNumber * 24 + (t.timeOfDay / 3600000 : Nat)) * 60 +
            (t.timeOfDay / 60000 % 60 : Nat)) * 60 + (t.timeOfDay / 1000 % 60 : Nat)) * 1000 +
            (t.timeOfDay % 1000 : Nat) := rfl
      _ = t.millis := by
          rw [hnumber, hday, timeOfDay]
          omega
  change (⟨t.parts.instant.millis⟩ : Instant) = t
  rw [hmillis]

/-- What is written for an instant names it, if it is a timestamp. -/
theorem read?_text (h : IsTimestamp t.text) : Instant.read? t.text = some t := by
  rw [Instant.read?, read?_text_parts h, Option.map_some,
    instant_parts (isTimestamp_text_iff.mp h).1]

/-- Nothing but a timestamp names an instant. -/
theorem read?_eq_none {text : String} (h : ¬ IsTimestamp text) : Instant.read? text = none := by
  have hdigits : ¬ (text.toList.length = timestampWidth ∧ text.toList.all Char.isDigit = true) := by
    rintro ⟨hlength, hall⟩
    exact h ⟨by rw [← String.length_toList, hlength], List.all_eq_true.mp hall⟩
  rw [Instant.read?, Parts.read?]
  simp only [if_neg hdigits, Option.map_none]

theorem read?_text_eq (t : Instant) :
    Instant.read? t.text = if t.HasFourDigitYear then some t else none := by
  split
  next h => exact read?_text (isTimestamp_text_iff_hasFourDigitYear.mpr h)
  next h => exact read?_eq_none (mt isTimestamp_text_iff_hasFourDigitYear.mp h)

end Instant

/-! ## Conversions -/

/-- A converted timestamp is a timestamp exactly if the instant that it is written for lies in the
years 0 to 9999. It is then read as this instant, so that it can be converted again, and otherwise
not at all. -/
theorem isTimestamp_converted_iff {text : String} (h : IsTimestamp text) (offset : Offset) :
    ∃ t here there, Instant.read? text = some t ∧
      (Zone.fixed offset).utcToLocal? text = some here ∧
      (Zone.fixed offset).localToUtc? text = some there ∧
      (IsTimestamp here ↔ (t.later offset.seconds).HasFourDigitYear) ∧
      (IsTimestamp there ↔ (t.later (-offset.seconds)).HasFourDigitYear) ∧
      (Instant.read? here = if (t.later offset.seconds).HasFourDigitYear then
        some (t.later offset.seconds) else none) ∧
      (Instant.read? there = if (t.later (-offset.seconds)).HasFourDigitYear then
        some (t.later (-offset.seconds)) else none) := by
  obtain ⟨t, ht⟩ := h.read?
  refine ⟨t, (t.later offset.seconds).text, (t.later (-offset.seconds)).text, ht, ?_, ?_, ?_⟩
  · rw [Zone.utcToLocal?, ht, Option.map_some]
    rfl
  · rw [Zone.localToUtc?, ht, Option.map_some]
    rfl
  · exact ⟨Instant.isTimestamp_text_iff_hasFourDigitYear,
      Instant.isTimestamp_text_iff_hasFourDigitYear, Instant.read?_text_eq _,
      Instant.read?_text_eq _⟩

/-- The last timestamp of the calendar in a zone that is an hour ahead: of the two conversions, one
leads into the year 10000. -/
theorem isTimestamp_converted_iff_lastHour : IsTimestamp "99991231235959999" ∧
    ∃ here there, (Zone.fixed ⟨3600, by decide⟩).utcToLocal? "99991231235959999" = some here ∧
      (Zone.fixed ⟨3600, by decide⟩).localToUtc? "99991231235959999" = some there ∧
      ¬ IsTimestamp here ∧ IsTimestamp there ∧
      Instant.read? there = some ⟨315569516399999⟩ := by
  have htext : IsTimestamp "99991231235959999" := by decide
  have hread : Instant.read? "99991231235959999" = some ⟨315569519999999⟩ := by decide +kernel
  obtain ⟨t, here, there, ht, hhere, hthere, hhereIff, hthereIff, -, hagain⟩ :=
    isTimestamp_converted_iff htext ⟨3600, by decide⟩
  obtain rfl : _ = t := Option.some.inj (hread.symm.trans ht)
  refine ⟨htext, here, there, hhere, hthere, ?_, hthereIff.mpr (by decide), ?_⟩
  · exact mt hhereIff.mp (by decide)
  · rw [hagain, if_pos (by decide)]
    rfl

/-- Conversions lead out of the years with four digits at both ends: into a year with five digits,
and into a year with a sign. -/
theorem utcToLocal?_not_isTimestamp :
    IsTimestamp "99991231235959999" ∧ IsTimestamp "00000101000000000" ∧
    (Zone.fixed ⟨3600, by decide⟩).utcToLocal? "99991231235959999" = some "100000101005959999" ∧
    (Zone.fixed ⟨3600, by decide⟩).localToUtc? "00000101000000000" = some "-0011231230000000" ∧
    ¬ IsTimestamp "100000101005959999" ∧ ¬ IsTimestamp "-0011231230000000" := by
  refine ⟨?_, ?_, ?_, ?_, ?_, ?_⟩ <;> decide +kernel

end ArchiveSearch.Calendar
