import ArchiveSearch.Proofs.Calendar.Chronology

/-! # The order of converted timestamps

A conversion leads from the years 0 to 9999 to the last day before them at most, or to a year of
five digits. Texts of one length are ordered as the instants that they are written for, signs
included. Next to the ends of all timestamps only a sign makes a difference: a converted timestamp
is never above the last one, and it is below the first one exactly if it has a sign.
-/

namespace ArchiveSearch.Calendar

/-! ## Texts -/

/-- Digits are not below as many zeros. -/
theorem not_lt_zeros {digits : List Char} (hdigits : ∀ c ∈ digits, c.isDigit = true) {count : Nat}
    (hcount : count ≤ digits.length) : ¬ digits < List.replicate count '0' := by
  induction count generalizing digits with
  | zero => exact List.not_lt_nil digits
  | succ count ih =>
      cases digits with
      | nil => cases hcount
      | cons c digits =>
          have hzero := (digit_range (hdigits c List.mem_cons_self)).1
          have hrest := ih (fun d hd => hdigits d (List.mem_cons_of_mem c hd))
            (Nat.le_of_succ_le_succ hcount)
          rw [List.replicate_succ, List.cons_lt_cons_iff]
          rintro (hlt | ⟨-, hlt⟩)
          · exact Nat.not_lt.mpr hzero (UInt32.lt_iff_toNat_lt.mp (Char.lt_def.mp hlt))
          · exact hrest hlt

/-- A number below a multiple of a power of ten begins with a digit below the factor. -/
theorem head_lt_of_ofDigitChars_lt {c : Char} {digits : List Char} {bound : Nat}
    (h : Nat.ofDigitChars 10 (c :: digits) 0 < 10 ^ digits.length * bound) :
    c.toNat < 48 + bound := by
  rw [ofDigitChars_cons] at h
  have hfirst := Nat.lt_of_mul_lt_mul_left (Nat.lt_of_le_of_lt (Nat.le_add_right _ _) h)
  omega

/-- Texts are compared by their first characters first. -/
theorem lt_of_head_lt {a b : String} {c d : Char} {rest rest' : List Char}
    (ha : a.toList = c :: rest) (hb : b.toList = d :: rest') (h : c.toNat < d.toNat) : a < b := by
  rw [String.lt_iff, ha, hb, List.cons_lt_cons_iff]
  exact .inl (Char.lt_def.mpr (UInt32.lt_iff_toNat_lt.mpr h))

theorem append_lt_append {a b c : String} (h : b.toList < c.toList) : a ++ b < a ++ c := by
  rw [String.lt_iff, String.toList_append, String.toList_append]
  exact List.append_left_lt h

namespace Instant

variable {s t : Instant}

/-! ## Instants of one day -/

/-- The time of the day of an instant as it is written. -/
def timeText (t : Instant) : String :=
  padded 2 (t.timeOfDay / 3600000) ++ padded 2 (t.timeOfDay / 60000 % 60) ++
    padded 2 (t.timeOfDay / 1000 % 60) ++ padded 3 (t.timeOfDay % 1000)

theorem text_eq_append_timeText (t : Instant) : t.text =
    yearText t.date.year ++ padded 2 t.date.month ++ padded 2 t.date.day ++ t.timeText := by
  simp only [text_eq, timeText, String.append_assoc]

theorem length_timeText (t : Instant) : t.timeText.length = 9 := by
  obtain ⟨-, -, hhour, hminute, hsecond, hmilli⟩ := t.lengths_parts
  simp only [timeText, String.length_append, hhour, hminute, hsecond, hmilli]

theorem isDigit_of_mem_timeText (t : Instant) : ∀ c ∈ t.timeText.toList, c.isDigit = true := by
  simp only [timeText, String.toList_append, List.mem_append]
  rintro c (((h | h) | h) | h) <;> exact isDigit_of_mem_padded _ _ c h

theorem numeral_timeText (t : Instant) : numeral t.timeText = timeNumeral t.timeOfDay := by
  obtain ⟨-, -, -, hminute, hsecond, hmilli⟩ := t.lengths_parts
  simp only [timeText, numeral_append, numeral_padded, hminute, hsecond, hmilli, timeNumeral]
  ring

/-- Within a day it does not matter how the year is written. -/
theorem text_lt_of_day_eq (hday : s.millis / 86400000 = t.millis / 86400000)
    (h : s.millis < t.millis) : s.text < t.text := by
  have hdate : s.date = t.date := congrArg Date.ofDayNumber hday
  have htime : s.timeOfDay < t.timeOfDay := by
    unfold timeOfDay
    omega
  have hnumeral : numeral s.timeText < numeral t.timeText := by
    rw [numeral_timeText, numeral_timeText]
    exact timeNumeral_lt htime
  rw [text_eq_append_timeText, text_eq_append_timeText, hdate]
  apply append_lt_append
  apply lt_of_ofDigitChars_lt _ s.isDigit_of_mem_timeText t.isDigit_of_mem_timeText hnumeral
  rw [String.length_toList, String.length_toList, length_timeText, length_timeText]

/-! ## Signs -/

theorem text_of_neg (h : t.millis < 0) : ∃ rest, t.text.toList = '-' :: rest := by
  have hyear : t.date.year < 0 := Int.not_le.mp (mt date_year_nonneg_iff.mp (Int.not_le.mpr h))
  rw [text_eq, yearText, if_pos hyear]
  simp only [String.toList_append, List.append_assoc]
  exact ⟨_, rfl⟩

/-- Without a sign, what is written is at least as long as a timestamp. -/
theorem timestampWidth_le_length_text (h : 0 ≤ t.millis) :
    timestampWidth ≤ t.text.toList.length := by
  obtain ⟨hyear, -⟩ := length_padded t.date.year.toNat (by decide : 0 < 4)
  rw [String.length_toList, length_text, yearText,
    if_neg (Int.not_lt.mpr (date_year_nonneg_iff.mpr h))]
  exact Nat.add_le_add_right hyear 13

theorem text_of_nonneg (h : 0 ≤ t.millis) :
    ∃ c rest, t.text.toList = c :: rest ∧ c.isDigit = true ∧ timestampWidth ≤ rest.length + 1 := by
  have hlength := timestampWidth_le_length_text h
  have hdigits := isDigit_of_mem_text (date_year_nonneg_iff.mpr h)
  cases htext : t.text.toList with
  | nil =>
      rw [htext] at hlength
      cases hlength
  | cons c rest =>
      rw [htext] at hlength hdigits
      exact ⟨c, rest, rfl, hdigits c List.mem_cons_self, hlength⟩

/-- A sign is smaller than all digits. -/
theorem text_lt_of_neg (hs : s.millis < 0) (ht : 0 ≤ t.millis) : s.text < t.text := by
  obtain ⟨rest, hsign⟩ := text_of_neg hs
  obtain ⟨c, rest', hfirst, hc, -⟩ := text_of_nonneg ht
  apply lt_of_head_lt hsign hfirst
  exact Nat.lt_of_lt_of_le (by decide) (digit_range hc).1

/-! ## What a conversion leads to -/

/-- Whether an instant lies at most a day before the year 0, and before the year 20000. These bounds
are not sharp: all instants that timestamps name, in any zone, lie between them. -/
def InSpan (t : Instant) : Prop :=
  -86400000 ≤ t.millis ∧ t.millis < 86400000 * yearStart 20000

/-- Texts of one length are ordered as the instants that they are written for. -/
theorem text_lt_of_length_eq (hs : s.InSpan) (hlength : s.text.length = t.text.length)
    (h : s.millis < t.millis) : s.text < t.text := by
  rcases Int.lt_or_le t.millis 0 with htneg | htnonneg
  · -- There is only one day before the year 0.
    apply text_lt_of_day_eq _ h
    have hstart := hs.1
    omega
  rcases Int.lt_or_le s.millis 0 with hsneg | hsnonneg
  · exact text_lt_of_neg hsneg htnonneg
  · have hsyear := date_year_nonneg_iff.mpr hsnonneg
    have htyear := date_year_nonneg_iff.mpr htnonneg
    rw [String.lt_iff]
    apply lt_of_ofDigitChars_lt _ (isDigit_of_mem_text hsyear) (isDigit_of_mem_text htyear)
    · exact numeral_text_lt hsyear htyear h
    · rw [String.length_toList, String.length_toList, hlength]

theorem text_le_iff_of_length_eq (hs : s.InSpan) (ht : t.InSpan)
    (hlength : s.text.length = t.text.length) : s.text ≤ t.text ↔ s.millis ≤ t.millis := by
  constructor
  · intro hle
    by_contra hlt
    exact String.not_lt.mpr hle (text_lt_of_length_eq ht hlength.symm (Int.not_le.mp hlt))
  · intro hle
    rcases Int.lt_or_eq_of_le hle with hlt | heq
    · exact String.not_lt.mp (String.lt_asymm (text_lt_of_length_eq hs hlength hlt))
    · cases s
      cases t
      cases heq
      exact String.le_refl _

theorem min_le_text_iff : minTimestamp ≤ t.text ↔ 0 ≤ t.millis := by
  have hzeros : minTimestamp.toList = List.replicate timestampWidth '0' := by decide
  constructor
  · intro hle
    by_contra hneg
    obtain ⟨rest, hsign⟩ := text_of_neg (Int.not_le.mp hneg)
    exact String.not_lt.mpr hle (lt_of_head_lt hsign hzeros (by decide))
  · intro h
    rw [← String.not_lt, String.lt_iff, hzeros]
    exact not_lt_zeros (isDigit_of_mem_text (date_year_nonneg_iff.mpr h))
      (timestampWidth_le_length_text h)

theorem numeral_text_bound (h : t.InSpan) (hnonneg : 0 ≤ t.millis) :
    numeral t.text < 10 ^ 17 * 2 := by
  have hstart := date_year_nonneg_iff.mpr hnonneg
  have hyear := date_year_lt_iff.mpr h.2
  obtain ⟨-, ⟨-, hmonth⟩, -, hday⟩ := t.date_range
  have htime := timeNumeral_bound t.timeOfDay_lt
  rw [numeral_text hstart, dateNumeral]
  omega

theorem text_le_max (h : t.InSpan) : t.text ≤ maxTimestamp := by
  have hnines : maxTimestamp.toList = '9' :: List.replicate 16 '9' := by decide
  rcases Int.lt_or_le t.millis 0 with hneg | hnonneg
  · obtain ⟨rest, hsign⟩ := text_of_neg hneg
    exact String.not_lt.mp (String.lt_asymm (lt_of_head_lt hsign hnines (by decide)))
  by_cases hfour : IsTimestamp t.text
  · exact hfour.le_max
  · -- A year of five digits begins with a one.
    obtain ⟨c, rest, hfirst, -, hlength⟩ := text_of_nonneg hnonneg
    have hlong : 17 ≤ rest.length := by
      have hwidth : t.text.length ≠ timestampWidth := fun heq =>
        hfour ⟨heq, isDigit_of_mem_text (date_year_nonneg_iff.mpr hnonneg)⟩
      rw [← String.length_toList, hfirst, List.length_cons] at hwidth
      exact Nat.le_of_lt_succ (Nat.lt_of_le_of_ne hlength hwidth.symm)
    have hone : c.toNat < 48 + 2 := by
      apply head_lt_of_ofDigitChars_lt
      rw [← hfirst]
      apply Nat.lt_of_lt_of_le (numeral_text_bound h hnonneg)
      exact Nat.mul_le_mul_right 2 (Nat.pow_le_pow_right (by decide) hlong)
    exact String.not_lt.mp (String.lt_asymm (lt_of_head_lt hfirst hnines
      (Nat.lt_trans hone (by decide))))

end Instant

/-- What the parts of a timestamp are carried over to, and a zone behind them, stays in the span. -/
theorem Parts.inSpan_of_read? {text : String} {p : Parts} (h : read? text = some p) {seconds : Int}
    (hseconds : -86400 < seconds ∧ seconds < 86400) : (p.instant.later seconds).InSpan := by
  have hcount := count_lt_of_read? h
  have hmillis : (p.instant.later seconds).millis = p.count + 1000 * seconds := by
    rw [Instant.later, millis_instant]
  have hend : 4000001 < yearStart 20000 := by decide
  unfold Instant.InSpan
  rw [hmillis]
  omega

end ArchiveSearch.Calendar
