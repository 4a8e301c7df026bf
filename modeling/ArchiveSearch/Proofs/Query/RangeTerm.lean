import ArchiveSearch.Proofs.Calendar.Reach
import ArchiveSearch.Proofs.Json.Scalar
import ArchiveSearch.Proofs.Query.DateRange
import ArchiveSearch.Query.Reader

/-! # The form of a date term

A term on a date field is one side of a range, or two with a dash between them, and a side is at
most 17 digits. Every such term is read, whatever its digits: a side that is left out is an end of
all timestamps, and any other side is filled up with zeros and converted within the reach of the
calendar. All other terms are reported as they are.
-/

namespace ArchiveSearch.Query

open Calendar

/-! ## Sides -/

/-- Whether a text may be the beginning of a timestamp: at most 17 digits. -/
def IsTimestampPrefix (side : List Char) : Prop :=
  side.length ≤ timestampWidth ∧ ∀ c ∈ side, c.isDigit = true

/-- The terms for a range, with the two sides that they write. -/
inductive RangeForm : String → List Char → List Char → Prop
  | single {first : List Char} (hfirst : IsTimestampPrefix first) :
      RangeForm (String.ofList first) first []
  | pair {first last : List Char} (hfirst : IsTimestampPrefix first)
      (hlast : IsTimestampPrefix last) :
      RangeForm (String.ofList (first ++ '-' :: last)) first last

/-- The bound that a side stands for, given the one for a side that is left out. -/
inductive SideBound (zone : Zone) (missing : String) : List Char → String → Prop
  | absent : SideBound zone missing [] missing
  | present {side : List Char} {bound : String} (hside : side ≠ [])
      (hbound : zone.carryToLocal?
        (String.ofList (side ++ List.replicate (timestampWidth - side.length) '0')) = some bound) :
      SideBound zone missing side bound

namespace DateRange

variable {zone : Zone} {missing term : String} {first last side : List Char}

theorem ne_dash_of_isSide (h : isSide side = true) : ∀ c ∈ side, (c != '-') = true := by
  intro c hc
  have hdigit := (isSide_iff.mp h).2 c hc
  rw [bne_iff_ne]
  rintro rfl
  exact absurd hdigit (by decide)

theorem sides?_of_form (h : RangeForm term first last) : sides? term = some (first, last) := by
  cases h with
  | single hfirst =>
      have hside : isSide first = true := isSide_iff.mpr hfirst
      have hend : ∀ c ∈ ([] : List Char).head?, (c != '-') = false := nofun
      obtain ⟨htake, hdrop⟩ := takeWhile_append_eq (ne_dash_of_isSide hside) hend
      rw [List.append_nil] at htake hdrop
      have hempty : isSide [] = true := by decide
      simp only [sides?, String.toList_ofList, htake, hdrop, List.drop_nil, hside, hempty,
        Bool.and_self, if_true]
  | pair hfirst hlast =>
      have hside : isSide first = true := isSide_iff.mpr hfirst
      have hside' : isSide last = true := isSide_iff.mpr hlast
      have hstop : ∀ c ∈ ('-' :: last).head?, (c != '-') = false := by
        intro c hc
        cases hc
        rfl
      obtain ⟨htake, hdrop⟩ := takeWhile_append_eq (ne_dash_of_isSide hside) hstop
      simp only [sides?, String.toList_ofList, htake, hdrop, List.drop_one, List.tail_cons, hside,
        hside', Bool.and_self, if_true]

/-- The text is put together again from the sides, with the dash if there is one. -/
theorem form_of_sides? (h : sides? term = some (first, last)) : RangeForm term first last := by
  obtain ⟨hside, hside'⟩ := isSide_of_sides? h
  unfold sides? at h
  simp only at h
  split at h
  next =>
    obtain ⟨hfirst, hlast⟩ := Prod.mk.inj (Option.some.inj h)
    have hwhole : term.toList.takeWhile (· != '-') ++ term.toList.dropWhile (· != '-') =
        term.toList := List.takeWhile_append_dropWhile
    rw [hfirst] at hwhole
    cases hrest : term.toList.dropWhile (· != '-') with
    | nil =>
        rw [hrest, List.append_nil] at hwhole
        rw [hrest, List.drop_nil] at hlast
        rw [← String.ofList_toList (s := term), ← hwhole, ← hlast]
        exact .single (isSide_iff.mp hside)
    | cons c rest =>
        have hdash : c = '-' := by
          have hstop := List.head?_dropWhile_not (· != '-') term.toList
          rw [hrest] at hstop
          simpa using hstop
        rw [hrest, hdash] at hwhole
        rw [hrest, List.drop_one, List.tail_cons] at hlast
        rw [← String.ofList_toList (s := term), ← hwhole, hlast]
        exact .pair (isSide_iff.mp hside) (isSide_iff.mp hside')
  next => cases h

theorem sides?_eq_some_iff : sides? term = some (first, last) ↔ RangeForm term first last :=
  ⟨form_of_sides?, sides?_of_form⟩

/-- A side yields exactly one bound. -/
theorem bound?_eq_some_iff {bound : String} (h : isSide side = true) :
    bound? zone missing side = some bound ↔ SideBound zone missing side bound := by
  cases side with
  | nil =>
      constructor
      · intro hb
        cases hb
        exact .absent
      · intro hb
        cases hb with
        | absent => rfl
        | present hside => exact absurd rfl hside
  | cons c side =>
      have hbound : bound? zone missing (c :: side) = zone.carryToLocal? (String.ofList
          (c :: side ++ List.replicate (timestampWidth - (c :: side).length) '0')) := by
        rw [Zone.carryToLocal?_eq, ← fillTimestamp_eq h]
        rfl
      rw [hbound]
      constructor
      · exact fun hb => .present (List.cons_ne_nil c side) hb
      · intro hb
        cases hb with
        | present _ hb => exact hb

theorem ofTerm?_eq_some_iff {range : DateRange} : ofTerm? zone term = some range ↔
    ∃ first last, RangeForm term first last ∧ SideBound zone minTimestamp first range.first ∧
      SideBound zone maxTimestamp last range.last := by
  constructor
  · intro h
    obtain ⟨⟨first, last⟩, hsides, hfirst, hlast⟩ := ofTerm?_eq_some h
    obtain ⟨hside, hside'⟩ := isSide_of_sides? hsides
    exact ⟨first, last, form_of_sides? hsides, (bound?_eq_some_iff hside).mp hfirst,
      (bound?_eq_some_iff hside').mp hlast⟩
  · rintro ⟨first, last, hform, hfirst, hlast⟩
    have hsides := sides?_of_form hform
    obtain ⟨hside, hside'⟩ := isSide_of_sides? hsides
    rw [← bound?_eq_some_iff hside] at hfirst
    rw [← bound?_eq_some_iff hside'] at hlast
    simp [ofTerm?, hsides, hfirst, hlast]

theorem ofTerm?_ne_none_iff (zone : Zone) :
    ofTerm? zone term ≠ none ↔ ∃ first last, RangeForm term first last := by
  rw [← Option.isSome_iff_ne_none, isSome_ofTerm?, Option.isSome_iff_exists, Prod.exists]
  simp only [sides?_eq_some_iff]

end DateRange

/-! ## Terms -/

variable {zone : Zone} {mode : PatternMode} {field : DateField} {term : String}

theorem Test.ofValue_date_ok_iff {range : DateRange} :
    Test.ofValue zone mode term (.date field) = .ok (.date field range) ↔
      DateRange.ofTerm? zone term = some range := by
  unfold Test.ofValue
  cases DateRange.ofTerm? zone term with
  | none => simp only [reduceCtorEq]
  | some found => simp only [Except.ok.injEq, Test.date.injEq, true_and, Option.some.injEq]

theorem Test.ofValue_date_error_iff {e : TermError} :
    Test.ofValue zone mode term (.date field) = .error e ↔
      e = .invalidDate term ∧ DateRange.ofTerm? zone term = none := by
  unfold Test.ofValue
  cases DateRange.ofTerm? zone term with
  | none => simp only [Except.error.injEq, and_true, eq_comm]
  | some found => simp only [reduceCtorEq, and_false]

/-- A date term is read exactly if it has the form of a range, and otherwise it is reported itself.
It stands for the range between the bounds of its sides, and there is no timestamp that cannot be
converted to one. -/
theorem Test.ofValue_date (offset : Offset) (mode : PatternMode) (field : DateField)
    (term : String) :
    ((∃ range, Test.ofValue (.fixed offset) mode term (.date field) = .ok (.date field range)) ↔
      ∃ first last, RangeForm term first last) ∧
    (∀ e, Test.ofValue (.fixed offset) mode term (.date field) = .error e ↔
      e = .invalidDate term ∧ ¬ ∃ first last, RangeForm term first last) ∧
    (∀ range, Test.ofValue (.fixed offset) mode term (.date field) = .ok (.date field range) ↔
      ∃ first last, RangeForm term first last ∧
        SideBound (.fixed offset) minTimestamp first range.first ∧
        SideBound (.fixed offset) maxTimestamp last range.last) ∧
    ∀ digits, IsTimestamp digits →
      ∃ bound, (Zone.fixed offset).carryToLocal? digits = some bound := by
  refine ⟨?_, ?_, ?_, ?_⟩
  · simp only [Test.ofValue_date_ok_iff]
    rw [← DateRange.ofTerm?_ne_none_iff (.fixed offset), Option.ne_none_iff_exists']
  · intro e
    rw [Test.ofValue_date_error_iff, ← DateRange.ofTerm?_ne_none_iff (.fixed offset), not_not]
  · intro range
    rw [Test.ofValue_date_ok_iff, DateRange.ofTerm?_eq_some_iff]
  · intro digits h
    obtain ⟨p, -, -, hconvert⟩ := h.parts
    rw [Zone.carryToLocal?_eq]
    exact ⟨_, hconvert _⟩

end ArchiveSearch.Query
