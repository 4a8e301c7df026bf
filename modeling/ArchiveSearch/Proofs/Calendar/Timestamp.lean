import ArchiveSearch.Calendar.Zone
import ArchiveSearch.Proofs.Calendar.Day
import Mathlib.Tactic.Ring

/-! # The order of timestamps

Texts of equally many digits are ordered as the numbers that they stand for. As the parts of a
timestamp stand in it from the largest to the smallest, each at its own width, timestamps are
ordered as the instants that they name, and all zones agree on that order.
-/

namespace ArchiveSearch.Calendar

/-! ## Texts of digits -/

/-- The number that the digits of a text stand for. -/
def numeral (text : String) : Nat := Nat.ofDigitChars 10 text.toList 0

theorem numeral_append (a b : String) :
    numeral (a ++ b) = 10 ^ b.length * numeral a + numeral b := by
  rw [numeral, String.toList_append, Nat.ofDigitChars_append, Nat.ofDigitChars_eq_ofDigitChars_zero,
    String.length_toList]
  rfl

theorem digit_range {c : Char} (hc : c.isDigit = true) : 48 ≤ c.toNat ∧ c.toNat ≤ 57 :=
  Char.isDigit_iff_toNat.mp hc

theorem ofDigitChars_cons (c : Char) (digits : List Char) : Nat.ofDigitChars 10 (c :: digits) 0 =
    10 ^ digits.length * (c.toNat - 48) + Nat.ofDigitChars 10 digits 0 := by
  rw [Nat.ofDigitChars_cons, Nat.ofDigitChars_eq_ofDigitChars_zero, Nat.mul_zero, Nat.zero_add]
  rfl

theorem ofDigitChars_lt {digits : List Char} (hdigits : ∀ c ∈ digits, c.isDigit = true) :
    Nat.ofDigitChars 10 digits 0 < 10 ^ digits.length := by
  induction digits with
  | nil => exact Nat.one_pos
  | cons c digits ih =>
      have hc := digit_range (hdigits c List.mem_cons_self)
      have hrest := ih fun d hd => hdigits d (List.mem_cons_of_mem c hd)
      have hfirst : 10 ^ digits.length * (c.toNat - 48) ≤ 10 ^ digits.length * 9 :=
        Nat.mul_le_mul_left _ (by omega)
      rw [ofDigitChars_cons, List.length_cons, Nat.pow_succ]
      omega

/-- Equally many digits are ordered as the numbers that they stand for. -/
theorem lt_of_ofDigitChars_lt {a b : List Char} (hlength : a.length = b.length)
    (ha : ∀ c ∈ a, c.isDigit = true) (hb : ∀ c ∈ b, c.isDigit = true)
    (h : Nat.ofDigitChars 10 a 0 < Nat.ofDigitChars 10 b 0) : a < b := by
  induction a generalizing b with
  | nil =>
      rw [List.length_nil, eq_comm, List.length_eq_zero_iff] at hlength
      rw [hlength] at h
      exact absurd h (Nat.lt_irrefl _)
  | cons c a ih =>
      cases b with
      | nil => cases hlength
      | cons d b =>
          have hrest : a.length = b.length := Nat.succ.inj hlength
          have hc := digit_range (ha c List.mem_cons_self)
          have hd := digit_range (hb d List.mem_cons_self)
          have ha' := fun e he => ha e (List.mem_cons_of_mem c he)
          have hb' := fun e he => hb e (List.mem_cons_of_mem d he)
          rw [ofDigitChars_cons, ofDigitChars_cons, hrest] at h
          rw [List.cons_lt_cons_iff]
          rcases Nat.lt_trichotomy c.toNat d.toNat with hlt | heq | hgt
          · exact .inl (Char.lt_def.mpr (UInt32.lt_iff_toNat_lt.mpr hlt))
          · rw [heq] at h
            exact .inr ⟨Char.toNat_inj.mp heq, ih hrest ha' hb' (by omega)⟩
          · -- A larger first digit outweighs all digits behind it.
            have hbound := ofDigitChars_lt hb'
            have hstep : 10 ^ b.length * (d.toNat - 48) + 10 ^ b.length ≤
                10 ^ b.length * (c.toNat - 48) := by
              rw [← Nat.mul_succ]
              exact Nat.mul_le_mul_left _ (by omega)
            omega

section Padded

variable {width : Nat}

theorem isDigit_of_mem_padded (width n : Nat) :
    ∀ c ∈ (padded width n).toList, c.isDigit = true := by
  intro c hc
  rw [padded, String.toList_ofList, List.mem_append] at hc
  rcases hc with hc | hc
  · rw [List.eq_of_mem_replicate hc]
    rfl
  · exact Nat.isDigit_of_mem_toDigits (by decide) (by decide) hc

theorem numeral_padded (width n : Nat) : numeral (padded width n) = n := by
  rw [numeral, padded, String.toList_ofList, Nat.ofDigitChars_append,
    Nat.ofDigitChars_replicate_zero, Nat.mul_zero, Nat.ofDigitChars_ten_toDigits]

/-- A padded number has its width if and only if it fits it. -/
theorem length_padded (n : Nat) (hwidth : 0 < width) :
    width ≤ (padded width n).length ∧ ((padded width n).length ≤ width ↔ n < 10 ^ width) := by
  have hlength : (padded width n).length = (width - (Nat.toDigits 10 n).length) +
      (Nat.toDigits 10 n).length := by
    rw [padded, String.length_ofList, List.length_append, List.length_replicate]
  have hfits := Nat.length_toDigits_le_iff (b := 10) (n := n) (by decide) hwidth
  rw [hlength, ← hfits]
  omega

theorem length_padded_of_lt {n : Nat} (hwidth : 0 < width) (hn : n < 10 ^ width) :
    (padded width n).length = width := by
  obtain ⟨hle, hfits⟩ := length_padded n hwidth
  exact Nat.le_antisymm (hfits.mpr hn) hle

end Padded

/-- A text is not larger than another of its length if its characters are not, one by one. -/
theorem not_lt_of_zip {a b : List Char} (hlength : a.length = b.length)
    (h : ∀ c d, (c, d) ∈ a.zip b → c.toNat ≤ d.toNat) : ¬ b < a := by
  induction a generalizing b with
  | nil => exact List.not_lt_nil b
  | cons c a ih =>
      cases b with
      | nil => cases hlength
      | cons d b =>
          have hrest := ih (Nat.succ.inj hlength) fun e f hmem =>
            h e f (List.mem_cons_of_mem _ hmem)
          rw [List.cons_lt_cons_iff]
          rintro (hlt | ⟨-, hlt⟩)
          · have hle := h c d List.mem_cons_self
            exact Nat.not_lt.mpr hle (UInt32.lt_iff_toNat_lt.mp (Char.lt_def.mp hlt))
          · exact hrest hlt

/-! ## Timestamps -/

/-- Whether a text is a timestamp: 17 digits. -/
def IsTimestamp (text : String) : Prop :=
  text.length = timestampWidth ∧ ∀ c ∈ text.toList, c.isDigit = true

instance (text : String) : Decidable (IsTimestamp text) :=
  decidable_of_iff (text.length = timestampWidth ∧ text.toList.all Char.isDigit = true)
    (and_congr_right' List.all_eq_true)

theorem IsTimestamp.lt_of_numeral_lt {a b : String} (ha : IsTimestamp a) (hb : IsTimestamp b)
    (h : numeral a < numeral b) : a < b := by
  refine String.lt_iff.mpr (lt_of_ofDigitChars_lt ?_ ha.2 hb.2 h)
  rw [String.length_toList, String.length_toList, ha.1, hb.1]

theorem IsTimestamp.ne_empty {text : String} (h : IsTimestamp text) : text ≠ "" := by
  rintro rfl
  exact absurd h.1 (by decide)

theorem IsTimestamp.empty_lt {text : String} (h : IsTimestamp text) : "" < text := by
  refine String.lt_iff.mpr ?_
  cases hchars : text.toList with
  | nil => exact absurd (String.toList_eq_nil_iff.mp hchars) h.ne_empty
  | cons c chars => exact List.nil_lt_cons c chars

theorem IsTimestamp.min_le {text : String} (h : IsTimestamp text) : minTimestamp ≤ text := by
  have hzeros : minTimestamp.toList = List.replicate timestampWidth '0' := by decide
  refine String.not_lt.mp (mt String.lt_iff.mp (not_lt_of_zip ?_ fun c d hmem => ?_))
  · rw [hzeros, List.length_replicate, String.length_toList, h.1]
  · obtain ⟨hc, hd⟩ := List.of_mem_zip hmem
    rw [hzeros] at hc
    exact List.eq_of_mem_replicate hc ▸ (digit_range (h.2 d hd)).1

theorem IsTimestamp.le_max {text : String} (h : IsTimestamp text) : text ≤ maxTimestamp := by
  have hnines : maxTimestamp.toList = List.replicate timestampWidth '9' := by decide
  refine String.not_lt.mp (mt String.lt_iff.mp (not_lt_of_zip ?_ fun c d hmem => ?_))
  · rw [hnines, List.length_replicate, String.length_toList, h.1]
  · obtain ⟨hc, hd⟩ := List.of_mem_zip hmem
    rw [hnines] at hd
    exact List.eq_of_mem_replicate hd ▸ (digit_range (h.2 c hc)).2

/-- Every timestamp names an instant. -/
theorem IsTimestamp.read? {text : String} (h : IsTimestamp text) :
    ∃ t, Instant.read? text = some t := by
  have hdigits : text.toList.length = timestampWidth ∧ text.toList.all Char.isDigit := by
    refine ⟨?_, List.all_eq_true.mpr h.2⟩
    rw [String.length_toList, h.1]
  rw [Instant.read?, Parts.read?]
  simp only [if_pos hdigits]
  exact ⟨_, rfl⟩

namespace Instant

/-- The date of an instant. -/
def date (t : Instant) : Date := Date.ofDayNumber (t.millis / 86400000)

/-- The milliseconds of its day that have gone by at an instant. -/
def timeOfDay (t : Instant) : Nat := (t.millis % 86400000).toNat

variable {s t : Instant}

theorem text_eq (t : Instant) : t.text = yearText t.date.year ++ padded 2 t.date.month ++
    padded 2 t.date.day ++ padded 2 (t.timeOfDay / 3600000) ++
    padded 2 (t.timeOfDay / 60000 % 60) ++ padded 2 (t.timeOfDay / 1000 % 60) ++
    padded 3 (t.timeOfDay % 1000) := rfl

theorem date_range (t : Instant) : t.date.year = yearOf (t.millis / 86400000) ∧
    (1 ≤ t.date.month ∧ t.date.month ≤ 12) ∧ 1 ≤ t.date.day ∧ t.date.day ≤ 31 :=
  Date.ofDayNumber_range _

theorem timeOfDay_lt (t : Instant) : t.timeOfDay < 86400000 := by
  unfold timeOfDay
  omega

/-- Behind the year all parts of a timestamp have their widths. -/
theorem lengths_parts (t : Instant) :
    (padded 2 t.date.month).length = 2 ∧ (padded 2 t.date.day).length = 2 ∧
    (padded 2 (t.timeOfDay / 3600000)).length = 2 ∧
    (padded 2 (t.timeOfDay / 60000 % 60)).length = 2 ∧
    (padded 2 (t.timeOfDay / 1000 % 60)).length = 2 ∧
    (padded 3 (t.timeOfDay % 1000)).length = 3 := by
  obtain ⟨-, ⟨-, hmonth⟩, -, hday⟩ := t.date_range
  have htime := t.timeOfDay_lt
  refine ⟨?_, ?_, ?_, ?_, ?_, ?_⟩ <;> exact length_padded_of_lt (by decide) (by omega)

theorem length_text (t : Instant) : t.text.length = (yearText t.date.year).length + 13 := by
  obtain ⟨hmonth, hday, hhour, hminute, hsecond, hmilli⟩ := t.lengths_parts
  simp only [text_eq, String.length_append, hmonth, hday, hhour, hminute, hsecond, hmilli]

/-- Years from the first one on are written without a sign. -/
theorem isDigit_of_mem_text (hyear : 0 ≤ t.date.year) :
    ∀ c ∈ t.text.toList, c.isDigit = true := by
  have htext : yearText t.date.year = padded 4 t.date.year.toNat :=
    if_neg (Int.not_lt.mpr hyear)
  simp only [text_eq, htext, String.toList_append, List.mem_append]
  rintro c ((((((h | h) | h) | h) | h) | h) | h) <;> exact isDigit_of_mem_padded _ _ c h

/-- An instant is written as a timestamp if and only if its year has at most four digits. -/
theorem isTimestamp_text_iff :
    IsTimestamp t.text ↔ 0 ≤ t.date.year ∧ t.date.year < 10000 := by
  constructor
  · intro h
    have hyear : 0 ≤ t.date.year := by
      by_contra hneg
      -- The sign of a year before the first one is no digit.
      have hsign : '-' ∈ t.text.toList := by
        simp [text_eq, yearText, Int.not_le.mp hneg]
      exact absurd (h.2 _ hsign) (by decide)
    obtain ⟨-, hfits⟩ := length_padded t.date.year.toNat (by decide : 0 < 4)
    have hwidth : (yearText t.date.year).length = 4 := by
      have htotal := h.1
      rw [length_text] at htotal
      exact Nat.add_right_cancel htotal
    rw [yearText, if_neg (Int.not_lt.mpr hyear)] at hwidth
    have hlt := hfits.mp hwidth.le
    omega
  · rintro ⟨hyear, hlt⟩
    refine ⟨?_, isDigit_of_mem_text hyear⟩
    rw [length_text, yearText, if_neg (Int.not_lt.mpr hyear),
      length_padded_of_lt (by decide) (by omega)]
    rfl

/-- The digits of a date as a number. -/
def dateNumeral (d : Date) : Nat := (d.year.toNat * 100 + d.month) * 100 + d.day

/-- The digits of a time of the day as a number. -/
def timeNumeral (millis : Nat) : Nat :=
  ((millis / 3600000 * 100 + millis / 60000 % 60) * 100 + millis / 1000 % 60) * 1000 + millis % 1000

theorem numeral_text (hyear : 0 ≤ t.date.year) :
    numeral t.text = dateNumeral t.date * 1000000000 + timeNumeral t.timeOfDay := by
  obtain ⟨hmonth, hday, hhour, hminute, hsecond, hmilli⟩ := t.lengths_parts
  have htext : yearText t.date.year = padded 4 t.date.year.toNat :=
    if_neg (Int.not_lt.mpr hyear)
  simp only [text_eq, htext, numeral_append, numeral_padded, hmonth, hday, hhour, hminute, hsecond,
    hmilli, dateNumeral, timeNumeral]
  ring

theorem dateNumeral_lt {d e : Date} (h : d.Earlier e) (hyear : 0 ≤ d.year)
    (hmonth : d.month ≤ 12) (hday : d.day ≤ 31) : dateNumeral d < dateNumeral e := by
  unfold dateNumeral
  unfold Date.Earlier at h
  omega

/-- Writing the lowest `k` units apart, with room for them, keeps numbers in their order. -/
theorem carry_lt {f : Nat → Nat} (k room : Nat) (hroom : k ≤ room) (hk : 0 < k)
    (hf : ∀ m n, m < n → f m < f n) (m n : Nat) (h : m < n) :
    f (m / k) * room + m % k < f (n / k) * room + n % k := by
  have hm := Nat.mod_lt m hk
  rcases Nat.lt_or_eq_of_le (Nat.div_le_div_right h.le) with hlt | heq
  · have hstep : f (m / k) * room + room ≤ f (n / k) * room := by
      rw [← Nat.succ_mul]
      exact Nat.mul_le_mul_right _ (hf _ _ hlt)
    omega
  · have hmdiv := Nat.div_add_mod m k
    have hndiv := Nat.div_add_mod n k
    rw [heq] at hmdiv ⊢
    omega

theorem timeNumeral_lt {m n : Nat} (h : m < n) : timeNumeral m < timeNumeral n := by
  have hminutes := carry_lt (f := id) 60 100 (by decide) (by decide) fun _ _ h => h
  have hseconds := carry_lt 60 100 (by decide) (by decide) hminutes
  have hmillis := carry_lt 1000 1000 (by decide) (by decide) hseconds m n h
  simpa only [timeNumeral, id, Nat.div_div_eq_div_mul] using hmillis

theorem timeNumeral_bound {n : Nat} (h : n < 86400000) : timeNumeral n < 1000000000 := by
  unfold timeNumeral
  omega

/-- Later instants have larger timestamps. -/
theorem numeral_text_lt (hs : 0 ≤ s.date.year) (ht : 0 ≤ t.date.year) (h : s.millis < t.millis) :
    numeral s.text < numeral t.text := by
  rw [numeral_text hs, numeral_text ht]
  rcases Int.lt_or_eq_of_le (Int.ediv_le_ediv (by decide : (0 : Int) < 86400000) h.le) with
    hdays | hdays
  · obtain ⟨-, ⟨-, hmonth⟩, -, hday⟩ := s.date_range
    have hdate : dateNumeral s.date < dateNumeral t.date :=
      dateNumeral_lt (Date.ofDayNumber_earlier hdays) hs hmonth hday
    have htime := timeNumeral_bound s.timeOfDay_lt
    omega
  · have hdate : s.date = t.date := congrArg Date.ofDayNumber hdays
    have htime : timeNumeral s.timeOfDay < timeNumeral t.timeOfDay := by
      refine timeNumeral_lt ?_
      unfold timeOfDay
      omega
    rw [hdate]
    omega

/-- Timestamps are ordered as the instants that they are written for. -/
theorem text_lt_iff (hs : IsTimestamp s.text) (ht : IsTimestamp t.text) :
    s.text < t.text ↔ s.millis < t.millis := by
  have hlt {s t : Instant} (hs : IsTimestamp s.text) (ht : IsTimestamp t.text)
      (h : s.millis < t.millis) : s.text < t.text :=
    hs.lt_of_numeral_lt ht (numeral_text_lt (isTimestamp_text_iff.mp hs).1
      (isTimestamp_text_iff.mp ht).1 h)
  refine ⟨fun h => ?_, hlt hs ht⟩
  rcases Int.lt_trichotomy s.millis t.millis with hbefore | hsame | hafter
  · exact hbefore
  · have heq : s = t := by
      cases s
      cases t
      cases hsame
      rfl
    exact absurd h (heq ▸ String.lt_irrefl _)
  · exact absurd (hlt ht hs hafter) (String.lt_asymm h)

end Instant

/-! ## Zones -/

/-- Whether two timestamps name the same instant, each in a zone of its own. -/
def SameInstant (here there : Zone) (u v : String) : Prop :=
  IsTimestamp u ∧ IsTimestamp v ∧
    ∃ t : Instant, u = (t.later here.ahead).text ∧ v = (t.later there.ahead).text

theorem IsTimestamp.utcToLocal? {text : String} (h : IsTimestamp text) :
    ∃ t, ∀ z : Zone, z.utcToLocal? text = some (Instant.later t z.ahead).text := by
  obtain ⟨t, ht⟩ := h.read?
  exact ⟨t, fun z => by rw [Zone.utcToLocal?, ht, Option.map_some]⟩

namespace SameInstant

variable {here there : Zone} {u v u' v' : String}

theorem of_utcToLocal? {text : String} (htext : IsTimestamp text)
    (hu : here.utcToLocal? text = some u) (hv : there.utcToLocal? text = some v)
    (hu' : IsTimestamp u) (hv' : IsTimestamp v) : SameInstant here there u v := by
  obtain ⟨t, ht⟩ := htext.utcToLocal?
  rw [ht, Option.some.injEq] at hu hv
  exact ⟨hu', hv', t, hu.symm, hv.symm⟩

/-- All zones order timestamps alike. -/
theorem lt_iff (h : SameInstant here there u v) (h' : SameInstant here there u' v') :
    u < u' ↔ v < v' := by
  obtain ⟨hu, hv, t, rfl, rfl⟩ := h
  obtain ⟨hu', hv', t', rfl, rfl⟩ := h'
  rw [Instant.text_lt_iff hu hu', Instant.text_lt_iff hv hv']
  simp only [Instant.later, Int.add_lt_add_iff_right]

theorem le_iff (h : SameInstant here there u v) (h' : SameInstant here there u' v') :
    u ≤ u' ↔ v ≤ v' := by
  rw [← String.not_lt, ← String.not_lt, h'.lt_iff h]

end SameInstant

end ArchiveSearch.Calendar
