import ArchiveSearch.Proofs.Calendar.Timestamp
import ArchiveSearch.Query.DateRange

/-! # Ranges of timestamps

Every side of a range is filled up to a timestamp and so can be converted to any zone; whether a
term is a range is a matter of its form alone. In two zones the ranges of a term hold the same
instants, as long as their bounds keep the form of timestamps.
-/

namespace ArchiveSearch.Query

open Calendar

namespace DateRange

/-- Whether both bounds of a range are timestamps. -/
def Fits (range : DateRange) : Prop := IsTimestamp range.first ∧ IsTimestamp range.last

instance (range : DateRange) : Decidable range.Fits := inferInstanceAs (Decidable (_ ∧ _))

variable {here there : Zone} {side : List Char} {term u v b b' : String} {range range' : DateRange}

/-- Digits take one byte each. -/
theorem utf8ByteSize_ofList {digits : List Char} (h : ∀ c ∈ digits, c.isDigit = true) :
    (String.ofList digits).utf8ByteSize = digits.length := by
  induction digits with
  | nil => rfl
  | cons c digits ih =>
      obtain ⟨hc, hdigits⟩ := List.forall_mem_cons.mp h
      have hbound : c.toNat ≤ 127 := (digit_range hc).2.trans (by decide)
      have hsize : c.utf8Size = 1 :=
        Char.utf8Size_eq_one_iff.mpr (UInt32.le_iff_toNat_le.mpr hbound)
      rw [String.ofList_cons, String.utf8ByteSize_append, ih hdigits, String.utf8ByteSize_singleton,
        hsize, List.length_cons, Nat.add_comm]

theorem isSide_iff : isSide side = true ↔
    side.length ≤ timestampWidth ∧ ∀ c ∈ side, c.isDigit = true := by
  rw [isSide, Bool.and_eq_true, decide_eq_true_iff, List.all_eq_true]

/-- What stands on a side of a range is filled up at its end. -/
theorem fillTimestamp_eq (h : isSide side = true) : fillTimestamp (String.ofList side) '0' =
    String.ofList (side ++ List.replicate (timestampWidth - side.length) '0') := by
  obtain ⟨-, hdigits⟩ := isSide_iff.mp h
  have hsize : '0'.utf8Size = 1 := rfl
  simp only [fillTimestamp, utf8ByteSize_ofList hdigits, hsize, Nat.add_sub_cancel, Nat.div_one,
    String.ofList_append]

/-- What stands on a side of a range is filled up to a timestamp. -/
theorem isTimestamp_fillTimestamp (h : isSide side = true) :
    IsTimestamp (fillTimestamp (String.ofList side) '0') := by
  obtain ⟨hlength, hdigits⟩ := isSide_iff.mp h
  rw [fillTimestamp_eq h, IsTimestamp, String.length_ofList, String.toList_ofList,
    List.length_append, List.length_replicate]
  refine ⟨Nat.add_sub_cancel' hlength, fun c hc => ?_⟩
  rcases List.mem_append.mp hc with hc | hc
  · exact hdigits c hc
  · rw [List.eq_of_mem_replicate hc]
    rfl

theorem isSide_of_sides? {sides : List Char × List Char} (h : sides? term = some sides) :
    isSide sides.1 = true ∧ isSide sides.2 = true := by
  unfold sides? at h
  simp only at h
  split at h
  next hsides =>
    cases h
    exact (Bool.and_eq_true ..).mp hsides
  next => cases h

theorem bound?_ne_none (zone : Zone) (missing : String) (h : isSide side = true) :
    bound? zone missing side ≠ none := by
  obtain ⟨t, ht⟩ := (isTimestamp_fillTimestamp h).utcToLocal?
  unfold bound?
  split
  next => exact nofun
  next =>
    rw [ht]
    exact nofun

/-- Whether a term is a range does not depend on the zone. -/
theorem isSome_ofTerm? (zone : Zone) (term : String) :
    (ofTerm? zone term).isSome = (sides? term).isSome := by
  unfold ofTerm?
  cases h : sides? term with
  | none => rfl
  | some sides =>
      obtain ⟨hfirst, hlast⟩ := isSide_of_sides? h
      obtain ⟨first, hfirst⟩ := Option.ne_none_iff_exists'.mp
        (bound?_ne_none zone minTimestamp hfirst)
      obtain ⟨last, hlast⟩ := Option.ne_none_iff_exists'.mp
        (bound?_ne_none zone maxTimestamp hlast)
      simp [hfirst, hlast]

theorem ofTerm?_eq_some {zone : Zone} (h : ofTerm? zone term = some range) :
    ∃ sides, sides? term = some sides ∧ bound? zone minTimestamp sides.1 = some range.first ∧
      bound? zone maxTimestamp sides.2 = some range.last := by
  unfold ofTerm? at h
  simp only [Option.bind_eq_bind, Option.bind_eq_some_iff, Option.pure_def, Option.some.injEq] at h
  obtain ⟨sides, hsides, first, hfirst, last, hlast, rfl⟩ := h
  exact ⟨sides, hsides, hfirst, hlast⟩

/-- Two bounds that are read from the same side name the same instant, if it is not left out. -/
theorem sameInstant_of_bound? {missing : String} (hside : isSide side = true)
    (hpresent : side.isEmpty = false) (hb : bound? here missing side = some b)
    (hb' : bound? there missing side = some b') (hfit : IsTimestamp b) (hfit' : IsTimestamp b') :
    SameInstant here there b b' := by
  rw [bound?, hpresent, if_neg Bool.false_ne_true] at hb hb'
  exact .of_utcToLocal? (isTimestamp_fillTimestamp hside) hb hb' hfit hfit'

theorem bound?_of_isEmpty {zone : Zone} {missing : String} (h : side.isEmpty = true)
    (hb : bound? zone missing side = some b) : b = missing := by
  rw [bound?, if_pos h] at hb
  exact (Option.some.inj hb).symm

/-- The ranges of a term in two zones hold the same instants. -/
theorem contains_eq (hrange : ofTerm? here term = some range)
    (hrange' : ofTerm? there term = some range') (hfits : range.Fits) (hfits' : range'.Fits)
    (htime : SameInstant here there u v) : range.contains u = range'.contains v := by
  obtain ⟨sides, hsides, hfirst, hlast⟩ := ofTerm?_eq_some hrange
  obtain ⟨sides', hsides', hfirst', hlast'⟩ := ofTerm?_eq_some hrange'
  obtain rfl : sides = sides' := Option.some.inj (hsides.symm.trans hsides')
  obtain ⟨hside, hside'⟩ := isSide_of_sides? hsides
  have hsince : range.first ≤ u ↔ range'.first ≤ v := by
    cases hempty : sides.1.isEmpty with
    | true =>
        rw [bound?_of_isEmpty hempty hfirst, bound?_of_isEmpty hempty hfirst']
        exact iff_of_true htime.1.min_le htime.2.1.min_le
    | false =>
        exact (sameInstant_of_bound? hside hempty hfirst hfirst' hfits.1 hfits'.1).le_iff htime
  have huntil : u ≤ range.last ↔ v ≤ range'.last := by
    cases hempty : sides.2.isEmpty with
    | true =>
        rw [bound?_of_isEmpty hempty hlast, bound?_of_isEmpty hempty hlast']
        exact iff_of_true htime.1.le_max htime.2.1.le_max
    | false =>
        exact htime.le_iff (sameInstant_of_bound? hside' hempty hlast hlast' hfits.2 hfits'.2)
  rw [contains, contains, decide_eq_decide.mpr hsince, decide_eq_decide.mpr huntil]

end DateRange

end ArchiveSearch.Query
