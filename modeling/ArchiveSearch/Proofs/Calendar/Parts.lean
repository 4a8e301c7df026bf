import ArchiveSearch.Proofs.Calendar.Width

/-! # The parts of a timestamp

Every part of a timestamp is a number of its own width, and nothing is lost when the parts are read:
two timestamps with the same parts are the same text. What a zone writes for a timestamp depends
on nothing but its parts.
-/

namespace ArchiveSearch.Calendar

/-! ## Digits -/

/-- Equally many digits that stand for the same number are the same. -/
theorem ofDigitChars_inj {a b : List Char} (hlength : a.length = b.length)
    (ha : ∀ c ∈ a, c.isDigit = true) (hb : ∀ c ∈ b, c.isDigit = true)
    (h : Nat.ofDigitChars 10 a 0 = Nat.ofDigitChars 10 b 0) : a = b := by
  induction a generalizing b with
  | nil => exact (List.length_eq_zero_iff.mp hlength.symm).symm
  | cons c a ih =>
      cases b with
      | nil => cases hlength
      | cons d b =>
          obtain ⟨hc, ha⟩ := List.forall_mem_cons.mp ha
          obtain ⟨hd, hb⟩ := List.forall_mem_cons.mp hb
          have hrest : a.length = b.length := Nat.succ.inj hlength
          have hbounda := ofDigitChars_lt ha
          have hboundb := ofDigitChars_lt hb
          rw [ofDigitChars_cons, ofDigitChars_cons, hrest] at h
          rw [hrest] at hbounda
          have hfirst : c.toNat - 48 = d.toNat - 48 := by
            calc c.toNat - 48
                = (10 ^ b.length * (c.toNat - 48) + Nat.ofDigitChars 10 a 0) / 10 ^ b.length := by
                  rw [Nat.mul_add_div (Nat.pow_pos (by decide)), Nat.div_eq_of_lt hbounda,
                    Nat.add_zero]
              _ = d.toNat - 48 := by
                  rw [h, Nat.mul_add_div (Nat.pow_pos (by decide)), Nat.div_eq_of_lt hboundb,
                    Nat.add_zero]
          rw [hfirst, Nat.add_right_inj] at h
          have hcRange := digit_range hc
          have hdRange := digit_range hd
          rw [ih hrest ha hb h, Char.toNat_inj.mp (by omega : c.toNat = d.toNat)]

namespace Parts

theorem number_lt {digits : List Char} (hdigits : ∀ c ∈ digits, c.isDigit = true)
    (start count : Nat) : number digits start count < 10 ^ count := by
  have hpart : ∀ c ∈ (digits.drop start).take count, c.isDigit = true := by
    intro c hc
    exact hdigits c (List.mem_of_mem_drop (List.mem_of_mem_take hc))
  calc number digits start count
      < 10 ^ ((digits.drop start).take count).length := ofDigitChars_lt hpart
    _ ≤ 10 ^ count := Nat.pow_le_pow_right (by decide) (List.length_take_le _ _)

/-- Digits that agree behind a part, and in the number of the part, agree from the part on. -/
theorem drop_eq_of_number {a b : List Char} {start count : Nat} (hlength : a.length = b.length)
    (ha : ∀ c ∈ a, c.isDigit = true) (hb : ∀ c ∈ b, c.isDigit = true)
    (hrest : a.drop (start + count) = b.drop (start + count))
    (h : number a start count = number b start count) : a.drop start = b.drop start := by
  have hpart : (a.drop start).take count = (b.drop start).take count := by
    apply ofDigitChars_inj
    · simp only [List.length_take, List.length_drop, hlength]
    · intro c hc
      exact ha c (List.mem_of_mem_drop (List.mem_of_mem_take hc))
    · intro c hc
      exact hb c (List.mem_of_mem_drop (List.mem_of_mem_take hc))
    · exact h
  rw [← List.take_append_drop count (a.drop start), ← List.take_append_drop count (b.drop start),
    hpart, List.drop_drop, List.drop_drop, hrest]

theorem read?_eq_some {text : String} {p : Parts} (h : read? text = some p) :
    IsTimestamp text ∧ p = {
      year := number text.toList 0 4
      month := number text.toList 4 2
      day := number text.toList 6 2
      hour := number text.toList 8 2
      minute := number text.toList 10 2
      second := number text.toList 12 2
      milli := number text.toList 14 3 } := by
  unfold read? at h
  simp only at h
  split at h
  next hdigits =>
    cases h
    exact ⟨⟨by rw [← String.length_toList, hdigits.1], List.all_eq_true.mp hdigits.2⟩, rfl⟩
  next => cases h

/-- The parts of a timestamp are no larger than their widths allow. -/
theorem lt_of_read? {text : String} {p : Parts} (h : read? text = some p) :
    p.year < 10000 ∧ p.month < 100 ∧ p.day < 100 ∧ p.hour < 100 ∧ p.minute < 100 ∧
      p.second < 100 ∧ p.milli < 1000 := by
  obtain ⟨⟨-, hdigits⟩, rfl⟩ := read?_eq_some h
  exact ⟨number_lt hdigits 0 4, number_lt hdigits 4 2, number_lt hdigits 6 2, number_lt hdigits 8 2,
    number_lt hdigits 10 2, number_lt hdigits 12 2, number_lt hdigits 14 3⟩

/-- Timestamps with the same parts are the same. -/
theorem read?_inj {a b : String} {p : Parts} (ha : read? a = some p) (hb : read? b = some p) :
    a = b := by
  obtain ⟨⟨halength, hadigits⟩, hap⟩ := read?_eq_some ha
  obtain ⟨⟨hblength, hbdigits⟩, hbp⟩ := read?_eq_some hb
  have hlength : a.toList.length = b.toList.length := by
    rw [String.length_toList, String.length_toList, halength, hblength]
  have hend : a.toList.drop 17 = b.toList.drop 17 := by
    rw [List.drop_eq_nil_of_le (by rw [String.length_toList, halength]; exact Nat.le_refl _),
      List.drop_eq_nil_of_le (by rw [String.length_toList, hblength]; exact Nat.le_refl _)]
  rw [hap, Parts.mk.injEq] at hbp
  obtain ⟨hyear, hmonth, hday, hhour, hminute, hsecond, hmilli⟩ := hbp
  have h14 := drop_eq_of_number hlength hadigits hbdigits hend hmilli
  have h12 := drop_eq_of_number hlength hadigits hbdigits h14 hsecond
  have h10 := drop_eq_of_number hlength hadigits hbdigits h12 hminute
  have h8 := drop_eq_of_number hlength hadigits hbdigits h10 hhour
  have h6 := drop_eq_of_number hlength hadigits hbdigits h8 hday
  have h4 := drop_eq_of_number hlength hadigits hbdigits h6 hmonth
  have h0 := drop_eq_of_number hlength hadigits hbdigits h4 hyear
  exact String.toList_inj.mp h0

end Parts

/-! ## Timestamps -/

namespace Instant

@[simp] theorem later_zero (t : Instant) : t.later 0 = t := by
  simp only [later, Int.mul_zero, Int.add_zero]

@[simp] theorem later_later_neg (t : Instant) (seconds : Int) :
    (t.later seconds).later (-seconds) = t := by
  simp only [later, Int.mul_neg, Int.add_neg_cancel_right]

end Instant

/-- A timestamp has parts, and every zone writes it for the instant that they name. -/
theorem IsTimestamp.parts {text : String} (h : IsTimestamp text) :
    ∃ p, Parts.read? text = some p ∧ Instant.read? text = some p.instant ∧
      ∀ z : Zone, z.utcToLocal? text = some (p.instant.later z.ahead).text := by
  obtain ⟨t, ht⟩ := h.read?
  obtain ⟨p, hp, rfl⟩ := Option.map_eq_some_iff.mp ht
  exact ⟨p, hp, ht, fun z => by rw [Zone.utcToLocal?, ht, Option.map_some]⟩

end ArchiveSearch.Calendar
