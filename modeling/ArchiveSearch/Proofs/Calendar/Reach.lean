import ArchiveSearch.Proofs.Calendar.Chronology

/-! # The reach of the calendar

Computations with dates are limited to years of up to six digits, and fail where a result lies
outside of them. A timestamp is carried over in stages, from the beginning of its year by months,
days, hours, minutes, seconds and milliseconds, and then moved to a zone. No digits make any stage
fail, as all of them together do not lead far beyond the year 10000.
-/

namespace ArchiveSearch.Calendar

/-- The first year within reach. -/
def firstYear : Int := -262143

/-- The last year within reach. -/
def lastYear : Int := 262142

namespace Instant

/-- Whether an instant lies in the years within reach. -/
def InReach (t : Instant) : Prop :=
  86400000 * yearStart firstYear ≤ t.millis ∧ t.millis < 86400000 * yearStart (lastYear + 1)

instance (t : Instant) : Decidable t.InReach := inferInstanceAs (Decidable (_ ∧ _))

theorem inReach_of_le {s t u : Instant} (hs : s.InReach) (hu : u.InReach)
    (hst : s.millis ≤ t.millis) (htu : t.millis ≤ u.millis) : t.InReach :=
  ⟨hs.1.trans hst, htu.trans_lt hu.2⟩

/-- The instant some milliseconds later, if it is within reach. -/
def advance? (t : Instant) (millis : Int) : Option Instant :=
  if InReach ⟨t.millis + millis⟩ then some ⟨t.millis + millis⟩ else none

theorem advance?_of_inReach {t : Instant} {millis : Int} (h : InReach ⟨t.millis + millis⟩) :
    t.advance? millis = some ⟨t.millis + millis⟩ := if_pos h

/-- The length of some stages together, in milliseconds. -/
def total (stages : List Nat) : Nat := stages.foldl (· + ·) 0

theorem total_cons (stage : Nat) (stages : List Nat) :
    total (stage :: stages) = stage + total stages := by
  rw [total, List.foldl_cons, foldl_add_eq, Nat.zero_add, total]

/-- Goes on by stages, if the end of each of them is within reach. -/
def follow? (t : Instant) (stages : List Nat) : Option Instant :=
  stages.foldlM (fun (t : Instant) (stage : Nat) => t.advance? stage) t

/-- Stages that begin and end within reach do not leave it in between. -/
theorem follow?_eq (stages : List Nat) {t : Instant} (hstart : t.InReach)
    (hend : InReach ⟨t.millis + total stages⟩) :
    t.follow? stages = some ⟨t.millis + total stages⟩ := by
  induction stages generalizing t with
  | nil =>
      change some t = some ⟨t.millis + (0 : Nat)⟩
      rw [Int.natCast_zero, Int.add_zero]
  | cons stage stages ih =>
      have hsum : t.millis + (total (stage :: stages) : Nat) =
          t.millis + stage + (total stages : Nat) := by
        rw [total_cons]
        omega
      rw [hsum] at hend ⊢
      -- Stages only lead forward, so what they reach first lies before what they reach last.
      have hnext : InReach ⟨t.millis + stage⟩ := by
        apply inReach_of_le hstart hend
        · exact Int.le_add_of_nonneg_right (Int.natCast_nonneg stage)
        · exact Int.le_add_of_nonneg_right (Int.natCast_nonneg (total stages))
      rw [follow?, List.foldlM_cons, advance?_of_inReach hnext]
      exact ih hnext hend

end Instant

namespace Parts

/-- The stages in which the parts are carried over, in milliseconds: to the beginning of the year,
on by its months, and on by each of the smaller parts. -/
def stages (p : Parts) : List Nat :=
  let start := daysBefore (12 * p.year)
  [86400000 * start, 86400000 * (daysBefore (12 * p.year + (p.month - 1)) - start),
    86400000 * (p.day - 1), 3600000 * p.hour, 60000 * p.minute, 1000 * p.second, p.milli]

/-- The instant that is reached by the stages, if all of them are within reach. -/
def carry? (p : Parts) : Option Instant := Instant.follow? ⟨0⟩ p.stages

theorem total_stages (p : Parts) : Instant.total p.stages = p.count := by
  have hmonths := daysBefore_mono (Nat.le_add_right (12 * p.year) (p.month - 1))
  simp only [stages, Instant.total, List.foldl_cons, List.foldl_nil, count]
  omega

/-- The parts of a timestamp, and a zone behind them, do not lead out of reach. -/
theorem inReach_of_read? {text : String} {p : Parts} (h : read? text = some p) (seconds : Int)
    (hseconds : -86400 < seconds ∧ seconds < 86400) : (p.instant.later seconds).InReach := by
  have hcount := count_lt_of_read? h
  have hmillis : (p.instant.later seconds).millis = p.count + 1000 * seconds := by
    rw [Instant.later, millis_instant]
  have hfirst : yearStart firstYear < -1 := by decide
  have hlast : 4000001 < yearStart (lastYear + 1) := by decide
  unfold Instant.InReach
  rw [hmillis]
  omega

/-- No stage of a timestamp fails, and together they lead to the instant that it names. -/
theorem carry?_of_read? {text : String} {p : Parts} (h : read? text = some p) :
    p.carry? = some p.instant := by
  have hstart : Instant.InReach ⟨0⟩ := by decide
  have hsame : (⟨0 + (Instant.total p.stages : Nat)⟩ : Instant) = p.instant := by
    rw [total_stages, Int.zero_add, ← millis_instant]
  have hend := inReach_of_read? h 0 (by decide)
  rw [Instant.later_zero, ← hsame] at hend
  rw [carry?, Instant.follow?_eq p.stages hstart hend, hsame]

end Parts

/-! ## Conversions -/

/-- Converts a timestamp of universal time by stages, as long as all of them are within reach. -/
def Zone.carryToLocal? (z : Zone) (digits : String) : Option String :=
  (Parts.read? digits).bind fun p =>
    p.carry?.bind fun t => (t.advance? (1000 * z.ahead)).map Instant.text

theorem Instant.advance?_seconds {t : Instant} {seconds : Int} (h : (t.later seconds).InReach) :
    t.advance? (1000 * seconds) = some (t.later seconds) :=
  advance?_of_inReach h

theorem Zone.ahead_within (z : Zone) : -86400 < z.ahead ∧ z.ahead < 86400 := by
  cases z with
  | localZone offset => exact offset.within
  | fixed offset => exact offset.within

/-- Conversions by stages never leave the reach of the calendar. -/
theorem Zone.carryToLocal?_eq (z : Zone) (digits : String) :
    z.carryToLocal? digits = z.utcToLocal? digits := by
  rw [carryToLocal?, utcToLocal?, Instant.read?]
  cases h : Parts.read? digits with
  | none => rw [Option.bind_none, Option.map_none, Option.map_none]
  | some p =>
      have hshift := Instant.advance?_seconds (Parts.inReach_of_read? h z.ahead z.ahead_within)
      rw [Option.bind_some, Parts.carry?_of_read? h, Option.bind_some, hshift, Option.map_some,
        Option.map_some, Option.map_some]

end ArchiveSearch.Calendar
