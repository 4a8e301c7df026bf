import ArchiveSearch.Proofs.Calendar.Span
import ArchiveSearch.Proofs.Query.RangeTerm

/-! # The order of the bounds of a range

The sides of a date term are read apart from each other, and nothing compares them. So the bounds of
a range are in order only if the sides are, and a range with a later bound first holds nothing. At
the ends of the calendar the zone takes part too: a bound with a sign is below all timestamps, and
bounds of different widths are compared without regard to the instants that they are written for.
-/

namespace ArchiveSearch.Query

open Calendar

namespace DateRange

variable {zone : Zone} {missing bound term : String} {side : List Char} {range : DateRange}

/-! ## Ranges by their bounds -/

theorem contains_iff {timestamp : String} :
    range.contains timestamp = true ↔ range.first ≤ timestamp ∧ timestamp ≤ range.last := by
  rw [contains, Bool.and_eq_true, decide_eq_true_iff, decide_eq_true_iff]

theorem contains_first_iff : range.contains range.first = true ↔ range.first ≤ range.last := by
  rw [contains_iff]
  exact and_iff_right (String.le_refl _)

theorem contains_last_iff : range.contains range.last = true ↔ range.first ≤ range.last := by
  rw [contains_iff]
  exact and_iff_left (String.le_refl _)

/-- A range is empty unless its bounds are in order. -/
theorem exists_contains_iff :
    (∃ timestamp, range.contains timestamp = true) ↔ range.first ≤ range.last := by
  constructor
  · rintro ⟨timestamp, h⟩
    obtain ⟨hfirst, hlast⟩ := contains_iff.mp h
    exact String.le_trans hfirst hlast
  · exact fun h => ⟨range.first, contains_first_iff.mpr h⟩

/-! ## Sides -/

/-- The instant that a side names in universal time, unless it is left out. -/
def sideInstant? (side : List Char) : Option Instant :=
  if side.isEmpty then none else Instant.read? (fillTimestamp (String.ofList side) '0')

/-- Whether two sides name instants in order. A side that is left out is an end of all timestamps,
and no zone moves it; only days before the year 0 lie ahead of the first one. -/
def InOrder (zone : Zone) : Option Instant → Option Instant → Prop
  | _, none => True
  | none, some last => 0 ≤ (last.later zone.ahead).millis
  | some first, some last => first.millis ≤ last.millis

instance (zone : Zone) (first last : Option Instant) : Decidable (InOrder zone first last) :=
  match first, last with
  | _, none => inferInstanceAs (Decidable True)
  | none, some last => inferInstanceAs (Decidable (0 ≤ (last.later zone.ahead).millis))
  | some first, some last => inferInstanceAs (Decidable (first.millis ≤ last.millis))

/-- A side that is not left out names an instant, and its bound is what the zone writes for it. -/
theorem bound?_eq_some (hside : isSide side = true) (h : bound? zone missing side = some bound) :
    (side = [] ∧ sideInstant? side = none ∧ bound = missing) ∨
    ∃ t, side ≠ [] ∧ sideInstant? side = some t ∧ bound = (t.later zone.ahead).text ∧
      (t.later zone.ahead).InSpan := by
  cases side with
  | nil => exact .inl ⟨rfl, rfl, bound?_of_isEmpty rfl h⟩
  | cons c side =>
      obtain ⟨p, hp, hread, hwrite⟩ := (isTimestamp_fillTimestamp hside).parts
      have hbound := (hwrite zone).symm.trans h
      exact .inr ⟨p.instant, List.cons_ne_nil c side, hread, (Option.some.inj hbound).symm,
        Parts.inSpan_of_read? hp zone.ahead_within⟩

/-- The bounds of two sides are in order exactly if the sides are, as long as both bounds have the
same width or one of the sides is left out. -/
theorem bound_le_bound_iff {first last : List Char} {b b' : String} (hside : isSide first = true)
    (hside' : isSide last = true) (hb : bound? zone minTimestamp first = some b)
    (hb' : bound? zone maxTimestamp last = some b')
    (hwidth : first = [] ∨ last = [] ∨ b.length = b'.length) :
    b ≤ b' ↔ InOrder zone (sideInstant? first) (sideInstant? last) := by
  rcases bound?_eq_some hside hb with ⟨-, hs, rfl⟩ | ⟨s, hfirst, hs, rfl, hspan⟩ <;>
    rcases bound?_eq_some hside' hb' with ⟨-, ht, rfl⟩ | ⟨t, hlast, ht, rfl, hspan'⟩ <;>
    rw [hs, ht]
  · exact iff_of_true (by decide) trivial
  · -- Only a sign is below the first of all timestamps.
    exact Instant.min_le_text_iff
  · exact iff_of_true (Instant.text_le_max hspan) trivial
  · -- Both sides are written, and the zone moves both of them alike.
    have hlength := (hwidth.resolve_left hfirst).resolve_left hlast
    rw [Instant.text_le_iff_of_length_eq hspan hspan' hlength]
    simp only [Instant.later, Int.add_le_add_iff_right, InOrder]

/-- A range holds its own bounds exactly if they are in order, and otherwise nothing at all. They
are in order exactly if the sides of the term name instants in order, unless both sides are written
and one bound alone lies in a year of five digits. -/
theorem ofTerm?_ordered (offset : Offset) (h : ofTerm? (.fixed offset) term = some range) :
    ∃ first last, RangeForm term first last ∧
      (range.contains range.first = true ↔ range.first ≤ range.last) ∧
      (range.contains range.last = true ↔ range.first ≤ range.last) ∧
      ((∃ timestamp, range.contains timestamp = true) ↔ range.first ≤ range.last) ∧
      (first = [] ∨ last = [] ∨ range.first.length = range.last.length →
        (range.first ≤ range.last ↔
          InOrder (.fixed offset) (sideInstant? first) (sideInstant? last))) := by
  obtain ⟨⟨first, last⟩, hsides, hfirst, hlast⟩ := ofTerm?_eq_some h
  obtain ⟨hside, hside'⟩ := isSide_of_sides? hsides
  refine ⟨first, last, form_of_sides? hsides, contains_first_iff, contains_last_iff,
    exists_contains_iff, ?_⟩
  exact bound_le_bound_iff hside hside' hfirst hlast

/-- Two years in order, in a zone that is ahead. -/
theorem ofTerm?_ordered_years :
    ∃ range, ofTerm? (.fixed ⟨19800, by decide⟩) "2020-2021" = some range ∧
      range.first ≤ range.last ∧ range.contains range.first = true ∧
      range.contains range.last = true := by
  have hrange : ofTerm? (.fixed ⟨19800, by decide⟩) "2020-2021" =
      some ⟨"20200101053000000", "20210101053000000"⟩ := by decide +kernel
  obtain ⟨first, last, hform, hfirst, hlast, -, horder⟩ := ofTerm?_ordered _ hrange
  have hsides : sides? "2020-2021" = some (['2', '0', '2', '0'], ['2', '0', '2', '1']) := by
    decide +kernel
  obtain ⟨rfl, rfl⟩ := Prod.mk.inj (Option.some.inj (hsides.symm.trans (sides?_of_form hform)))
  have hle := (horder (.inr (.inr (by decide)))).mpr (by decide +kernel)
  exact ⟨_, hrange, hle, hfirst.mpr hle, hlast.mpr hle⟩

/-- Not every range is in order: of two years with the later one first nothing is left. At the end
of the calendar a zone can turn sides that are in order around, and at its beginning it can lead
below the first timestamp. -/
theorem ofTerm?_not_ordered :
    (∃ range, ofTerm? .utc "2021-2020" = some range ∧ ¬ range.first ≤ range.last ∧
      range.contains range.first = false ∧ range.contains range.last = false) ∧
    (∃ range, ofTerm? (.fixed ⟨3600, by decide⟩) "9999-99991231235959999" = some range ∧
      ¬ range.first ≤ range.last) ∧
    ∃ range, ofTerm? (.fixed ⟨-3600, by decide⟩) "-0" = some range ∧
      ¬ range.first ≤ range.last := by
  refine ⟨?_, ?_, ?_⟩
  · exact ⟨⟨"20210101000000000", "20200101000000000"⟩, by decide +kernel, by decide +kernel,
      by decide +kernel, by decide +kernel⟩
  · exact ⟨⟨"99990101010000000", "100000101005959999"⟩, by decide +kernel, by decide +kernel⟩
  · exact ⟨⟨"00000000000000000", "-0011231230000000"⟩, by decide +kernel, by decide +kernel⟩

end DateRange

end ArchiveSearch.Query
