import ArchiveSearch.Proofs.Query.DateRange
import ArchiveSearch.Proofs.Query.Reports
import ArchiveSearch.Proofs.Search.Conjunction
import ArchiveSearch.Proofs.Search.Order

/-! # Searching in another zone

Stored timestamps and the ranges of a query are expressed in the same zone. In another zone all of
them move by the same time, so that a search finds the same records and puts them in the same
order, as long as all of them keep the form of timestamps.
-/

namespace ArchiveSearch

open Calendar Query

namespace Query

/-! ## Selections -/

namespace Selection

variable {α β : Type}

/-- Applies a function to both sides of a selection. -/
def map (p : α → β) (s : Selection α) : Selection β := ⟨s.included.map p, s.excluded.map p⟩

theorem holdTime_none (ranges : Selection DateRange) : ranges.holdTime none = false := rfl

/-- Whether a time is in all ranges that it has to be in depends on the verdict of each. -/
theorem holdTime_eq_of_map {s t : Selection DateRange} {u v : String} (hu : u ≠ "") (hv : v ≠ "")
    (h : s.map (·.contains u) = t.map (·.contains v)) :
    s.holdTime (some u) = t.holdTime (some v) := by
  have hverdicts (s : Selection DateRange) {u : String} (hu : u ≠ "") : s.holdTime (some u) =
      (!(s.map (·.contains u)).excluded.any id && (s.map (·.contains u)).included.all id) := by
    simp [holdTime, map, hu]
  rw [hverdicts s hu, hverdicts t hv, h]

end Selection

/-! ## Reading in two zones -/

namespace Reader

variable {here there : Reader} {tokens : List Token} {i : Nat} {token : Token}

theorem map_valuesOf {α β : Type} (r : Reader) (tokens : List Token) (name : String)
    (f : Nat → Token → Option α) (p : α → β) : (r.valuesOf tokens name f).map p =
      r.valuesOf tokens name fun i token => (f i token).map p := by
  unfold valuesOf Selection.map
  simp only [List.map_filterMap, apply_ite (Option.map p), Option.map_none]

/-- The values of one name depend on the tokens that go by it. -/
theorem valuesOf_congr {α : Type} {r : Reader} {name : String} {f g : Nat → Token → Option α}
    (h : ∀ i token, tokens[i]? = some token → r.nameAt tokens i = name → f i token = g i token) :
    r.valuesOf tokens name f = r.valuesOf tokens name g := by
  have hvalue (positive : Bool) (token : Token) (i : Nat) (hmem : (token, i) ∈ tokens.zipIdx) :
      (if r.nameAt tokens i = name ∧ token.positive = positive then f i token else none) =
        if r.nameAt tokens i = name ∧ token.positive = positive then g i token else none := by
    split
    next hname => exact h i token (List.mk_mem_zipIdx_iff_getElem?.mp hmem) hname.1
    next => rfl
  unfold valuesOf
  congr 1
  · exact List.filterMap_congr fun (token, i) hmem => hvalue true token i hmem
  · exact List.filterMap_congr fun (token, i) hmem => hvalue false token i hmem

/-- The names that tokens go by do not depend on the zone. -/
theorem nameAt_congr (h : here.bareName = there.bareName) (tokens : List Token) (i : Nat) :
    here.nameAt tokens i = there.nameAt tokens i := by
  -- Whether a token in front goes by `default` is a question of names again.
  induction i using Nat.strongRecOn with
  | ind i ih =>
      have hnames : (fun j : Fin i => if here.nameAt tokens j.val = "default" then tokens[j.val]?
          else none) = fun j => if there.nameAt tokens j.val = "default" then tokens[j.val]?
          else none := by
        funext j
        rw [ih j.val j.isLt]
      rw [nameAt, nameAt, h, hnames]

theorem modeAt_congr (h : here.bareName = there.bareName) (tokens : List Token) (i : Nat) :
    here.modeAt tokens i = there.modeAt tokens i := by
  simp only [modeAt, lastNamed, nameAt_congr h]

theorem patternAt?_congr (h : here.bareName = there.bareName) (tokens : List Token) :
    here.patternAt? tokens = there.patternAt? tokens := by
  funext f i token
  rw [patternAt?, patternAt?, modeAt_congr h]

theorem valuesOf_congr_zone {α : Type} (h : here.bareName = there.bareName) (tokens : List Token)
    (name : String) (f : Nat → Token → Option α) :
    here.valuesOf tokens name f = there.valuesOf tokens name f := by
  simp only [valuesOf, nameAt_congr h]

/-- Which terms fail does not depend on the zone. -/
theorem failureAt?_congr (h : here.bareName = there.bareName) (tokens : List Token) (i : Nat)
    (token : Token) : here.failureAt? tokens i token = there.failureAt? tokens i token := by
  unfold failureAt?
  simp only [nameAt_congr h, patternAt?_congr h, DateRange.isSome_ofTerm?]

theorem errors_congr (h : here.bareName = there.bareName) (tokens : List Token) :
    (here.readTokens tokens).errors = (there.readTokens tokens).errors := by
  simp only [errors_readTokens, failureAt?_congr h]

end Reader

/-! ## Rules in two zones -/

/-- The ranges of a rule. -/
def Rule.ranges : Rule → List DateRange
  | .date _ ranges => ranges.included ++ ranges.excluded
  | _ => []

/-- The ranges of all rules of a query. -/
def ranges (q : Query) : List DateRange := q.rules.flatMap Rule.ranges

namespace Reader

variable {here there : Reader} {tokens : List Token} {i : Nat} {token : Token}

theorem rule?_readTokens (r : Reader) (tokens : List Token) (f : Field) :
    (r.readTokens tokens).rule? f =
      if (r.ruleAt tokens f).isEmpty then none else some (r.ruleAt tokens f) := by
  rw [readTokens_eq, ← ofTerms_eq_ruleAt]
  rfl

/-- A record matches a query if it has metadata and the rules at the positions of the tokens let it
pass. -/
theorem isMatch_readTokens (r : Reader) (tokens : List Token) (x : Record) :
    (r.readTokens tokens).isMatch x =
      (x.metadata.isSome && Field.all.all fun f => (r.ruleAt tokens f).allows x) := by
  simp only [readTokens_eq, isMatch_ofEntries, ofTerms_eq_ruleAt]

/-- The ranges of a query are those of the tokens that go by the names of date fields. -/
theorem mem_ranges_readTokens {r : Reader} {f : DateField} {range : DateRange}
    (hget : tokens[i]? = some token) (hname : r.nameAt tokens i = f.name)
    (hrange : DateRange.ofTerm? r.zone token.value = some range) :
    range ∈ (r.readTokens tokens).ranges := by
  have hempty : (r.ruleAt tokens (.date f)).isEmpty = false :=
    (isEmpty_ruleAt (.date f)).mpr
      ⟨i, token, hget, hname, Option.ne_none_iff_exists'.mpr ⟨range, hrange⟩⟩
  refine List.mem_flatMap.mpr ⟨r.ruleAt tokens (.date f), ?_, ?_⟩
  · refine List.mem_filterMap.mpr ⟨.date f, ?_, ?_⟩
    · cases f <;> decide
    · rw [rule?_readTokens, hempty, if_neg Bool.false_ne_true]
  · have hmem : (token, i) ∈ tokens.zipIdx := List.mk_mem_zipIdx_iff_getElem?.mpr hget
    rw [ruleAt, Rule.ranges, valuesOf, List.mem_append]
    cases hpositive : token.positive with
    | true => exact .inl (List.mem_filterMap.mpr ⟨_, hmem, by simp [hname, hpositive, hrange]⟩)
    | false => exact .inr (List.mem_filterMap.mpr ⟨_, hmem, by simp [hname, hpositive, hrange]⟩)

/-- The ranges that tokens amount to in two zones give the same verdicts on the same instants. -/
theorem map_contains_congr (h : here.bareName = there.bareName) {f : DateField} {u v : String}
    (hhere : ∀ range ∈ (here.readTokens tokens).ranges, range.Fits)
    (hthere : ∀ range ∈ (there.readTokens tokens).ranges, range.Fits)
    (htime : SameInstant here.zone there.zone u v) :
    (here.valuesOf tokens f.name fun _ token => DateRange.ofTerm? here.zone token.value).map
        (·.contains u) =
      (there.valuesOf tokens f.name fun _ token => DateRange.ofTerm? there.zone token.value).map
        (·.contains v) := by
  rw [map_valuesOf, map_valuesOf, valuesOf_congr_zone h]
  refine valuesOf_congr fun i token hget hname => ?_
  have hsome : (DateRange.ofTerm? here.zone token.value).isSome =
      (DateRange.ofTerm? there.zone token.value).isSome := by
    rw [DateRange.isSome_ofTerm?, DateRange.isSome_ofTerm?]
  cases hrange : DateRange.ofTerm? here.zone token.value with
  | none =>
      rw [hrange, Option.isSome_none] at hsome
      rw [Option.isNone_iff_eq_none.mp (Option.isSome_eq_false_iff.mp hsome.symm)]
      rfl
  | some range =>
      rw [hrange, Option.isSome_some] at hsome
      obtain ⟨range', hrange'⟩ := Option.isSome_iff_exists.mp hsome.symm
      have hfits := hhere range
        (mem_ranges_readTokens hget ((nameAt_congr h ..).trans hname) hrange)
      have hfits' := hthere range' (mem_ranges_readTokens hget hname hrange')
      rw [hrange', Option.map_some, Option.map_some,
        DateRange.contains_eq hrange hrange' hfits hfits' htime]

theorem canUse_congr (h : here.bareName = there.bareName) (tokens : List Token) (f : Field)
    (i : Nat) (token : Token) : here.CanUse tokens f i token ↔ there.CanUse tokens f i token := by
  cases f with
  | text f => rw [CanUse, CanUse, patternAt?_congr h]
  | date f =>
      rw [CanUse, CanUse, ← Option.isSome_iff_ne_none, ← Option.isSome_iff_ne_none,
        DateRange.isSome_ofTerm?, DateRange.isSome_ofTerm?]
  | flag f => exact Iff.rfl

theorem isEmpty_ruleAt_congr (h : here.bareName = there.bareName) (tokens : List Token)
    (f : Field) : (here.ruleAt tokens f).isEmpty = (there.ruleAt tokens f).isEmpty := by
  rw [← Bool.not_inj_iff, Bool.eq_iff_iff, Bool.not_eq_true', Bool.not_eq_true', isEmpty_ruleAt,
    isEmpty_ruleAt]
  simp only [nameAt_congr h, canUse_congr h]

end Reader

end Query

/-! ## Records in two zones -/

namespace Record

/-- The record with its times, of universal time, converted to a zone. -/
def inZone (z : Zone) (x : Record) : Record where
  id := x.id
  file := x.file
  metadata := x.metadata.map fun m => { m with
    create := m.create.bind z.utcToLocal?
    modify := m.modify.bind z.utcToLocal? }
  segment := x.segment

/-- Whether the times of a record are timestamps, and stay so in a zone. -/
def FitsIn (z : Zone) (x : Record) : Prop :=
  ∀ f, ∀ time ∈ x.time? f, IsTimestamp time ∧ ∀ moved ∈ z.utcToLocal? time, IsTimestamp moved

instance (z : Zone) (x : Record) : Decidable (x.FitsIn z) :=
  decidable_of_iff (∀ f ∈ [DateField.create, .modify], ∀ time ∈ x.time? f,
      IsTimestamp time ∧ ∀ moved ∈ z.utcToLocal? time, IsTimestamp moved)
    ⟨fun h f => h f (by cases f <;> decide), fun h f _ => h f⟩

variable {here there : Zone} {x y : Record}

theorem isSome_metadata_inZone (z : Zone) (x : Record) :
    (x.inZone z).metadata.isSome = x.metadata.isSome := Option.isSome_map

theorem time?_inZone (z : Zone) (x : Record) (f : DateField) :
    (x.inZone z).time? f = (x.time? f).bind z.utcToLocal? := by
  cases x with
  | mk id file metadata segment => cases metadata <;> cases f <;> rfl

theorem text_inZone (z : Zone) (x : Record) (f : TextField) : (x.inZone z).text f = x.text f := by
  cases x with
  | mk id file metadata segment => cases metadata <;> cases f <;> rfl

theorem flag_inZone (z : Zone) (x : Record) (f : FlagField) : (x.inZone z).flag f = x.flag f := by
  cases x with
  | mk id file metadata segment => cases metadata <;> cases f <;> rfl

/-- A key on a time compares it as a text, empty if it is missing. -/
theorem sortText_time (x : Record) (f : DateField) :
    x.sortText (.metadata f.name) = (x.time? f).getD "" := by
  cases f <;> rfl

/-- A time of a record is missing in both zones, or is the same instant in both. -/
theorem time?_inZone_cases (hhere : x.FitsIn here) (hthere : x.FitsIn there) (f : DateField) :
    ((x.inZone here).time? f = none ∧ (x.inZone there).time? f = none) ∨
      ∃ u v, (x.inZone here).time? f = some u ∧ (x.inZone there).time? f = some v ∧
        SameInstant here there u v := by
  rw [time?_inZone, time?_inZone]
  cases htime : x.time? f with
  | none => exact .inl ⟨rfl, rfl⟩
  | some time =>
      obtain ⟨hfits, hmoved⟩ := hhere f time htime
      obtain ⟨-, hmoved'⟩ := hthere f time htime
      obtain ⟨t, ht⟩ := hfits.utcToLocal?
      exact .inr ⟨_, _, ht here, ht there,
        .of_utcToLocal? hfits (ht here) (ht there) (hmoved _ (ht here)) (hmoved' _ (ht there))⟩

theorem sortText_inZone_lt_iff (hx : x.FitsIn here) (hx' : x.FitsIn there) (hy : y.FitsIn here)
    (hy' : y.FitsIn there) (f : DateField) :
    (x.inZone here).sortText (.metadata f.name) < (y.inZone here).sortText (.metadata f.name) ↔
      (x.inZone there).sortText (.metadata f.name) <
        (y.inZone there).sortText (.metadata f.name) := by
  simp only [sortText_time]
  obtain ⟨hu, hv⟩ | ⟨u, v, hu, hv, htime⟩ := time?_inZone_cases hx hx' f
  · obtain ⟨hu', hv'⟩ | ⟨u', v', hu', hv', htime'⟩ := time?_inZone_cases hy hy' f
    · simp only [hu, hv, hu', hv', Option.getD_none]
    · simp only [hu, hv, hu', hv', Option.getD_none, Option.getD_some]
      exact iff_of_true htime'.1.empty_lt htime'.2.1.empty_lt
  · obtain ⟨hu', hv'⟩ | ⟨u', v', hu', hv', htime'⟩ := time?_inZone_cases hy hy' f
    · simp only [hu, hv, hu', hv', Option.getD_none, Option.getD_some]
      exact iff_of_false (String.lt_asymm htime.1.empty_lt) (String.lt_asymm htime.2.1.empty_lt)
    · simp only [hu, hv, hu', hv', Option.getD_some]
      exact htime.lt_iff htime'

/-- All other keys compare what the zone does not change. -/
theorem sortText_inZone (z : Zone) (x : Record) {field : SortField}
    (h : ∀ f : DateField, field ≠ .metadata f.name) :
    (x.inZone z).sortText field = x.sortText field := by
  cases field with
  | metadata key =>
      obtain ⟨id, file, metadata, segment⟩ := x
      cases metadata with
      | none => rfl
      | some m =>
          change (Metadata.field? _ key).getD "" = (m.field? key).getD ""
          unfold Metadata.field?
          split
          all_goals first
            | rfl
            | exact absurd rfl (h .create)
            | exact absurd rfl (h .modify)
  | _ => rfl

end Record

namespace Query

/-- A rule at the positions of the tokens lets a record pass in both zones or in none. -/
theorem Reader.allows_ruleAt_inZone {here there : Reader} {tokens : List Token} {x : Record}
    (h : here.bareName = there.bareName)
    (hhere : ∀ range ∈ (here.readTokens tokens).ranges, range.Fits)
    (hthere : ∀ range ∈ (there.readTokens tokens).ranges, range.Fits)
    (hx : x.FitsIn here.zone) (hx' : x.FitsIn there.zone) (f : Field) :
    (here.ruleAt tokens f).allows (x.inZone here.zone) =
      (there.ruleAt tokens f).allows (x.inZone there.zone) := by
  rw [Rule.allows, Rule.allows, isEmpty_ruleAt_congr h]
  refine congrArg ((there.ruleAt tokens f).isEmpty || ·) ?_
  cases f with
  | text f =>
      simp only [ruleAt, Rule.isMet, Record.text_inZone, valuesOf_congr_zone h, patternAt?_congr h]
  | flag f => simp only [ruleAt, Rule.isMet, Record.flag_inZone, valuesOf_congr_zone h]
  | date f =>
      simp only [ruleAt, Rule.isMet]
      obtain ⟨hnone, hnone'⟩ | ⟨u, v, hu, hv, htime⟩ := Record.time?_inZone_cases hx hx' f
      · rw [hnone, hnone', Selection.holdTime_none, Selection.holdTime_none]
      · rw [hu, hv]
        exact Selection.holdTime_eq_of_map htime.1.ne_empty htime.2.1.ne_empty
          (map_contains_congr h hhere hthere htime)

/-- Comparing texts depends only on which of them is smaller. -/
theorem compare_text_congr {s t s' t' : String} (hlt : s < t ↔ s' < t') (hgt : t < s ↔ t' < s') :
    Ord.compare s t = Ord.compare s' t' := by
  have heq (s t : String) : s = t ↔ ¬ s < t ∧ ¬ t < s := by
    constructor
    · rintro rfl
      exact ⟨String.lt_irrefl s, String.lt_irrefl s⟩
    · rintro ⟨hle, hge⟩
      exact String.le_antisymm (String.not_lt.mp hge) (String.not_lt.mp hle)
  change compareOfLessAndEq s t = compareOfLessAndEq s' t'
  simp only [compareOfLessAndEq, heq, hlt, hgt]

/-- A key orders two records alike in both zones. -/
theorem SortKey.compare_inZone {here there : Zone} {x y : Record} (key : SortKey)
    (hx : x.FitsIn here) (hx' : x.FitsIn there) (hy : y.FitsIn here) (hy' : y.FitsIn there) :
    key.compare (x.inZone here) (y.inZone here) =
      key.compare (x.inZone there) (y.inZone there) := by
  by_cases htime : ∃ f : DateField, key.field = .metadata f.name
  · obtain ⟨f, hkey⟩ := htime
    have hlt := Record.sortText_inZone_lt_iff hx hx' hy hy' f
    have hgt := Record.sortText_inZone_lt_iff hy hy' hx hx' f
    rw [compare_eq, compare_eq, hkey, compare_text_congr hlt hgt, compare_text_congr hgt hlt]
  · have hfield := not_exists.mp htime
    rw [compare_eq, compare_eq, Record.sortText_inZone here x hfield,
      Record.sortText_inZone here y hfield, Record.sortText_inZone there x hfield,
      Record.sortText_inZone there y hfield]

theorem compareBy_inZone {here there : Zone} {x y : Record} (keys : List SortKey)
    (hx : x.FitsIn here) (hx' : x.FitsIn there) (hy : y.FitsIn here) (hy' : y.FitsIn there) :
    compareBy keys (x.inZone here) (y.inZone here) =
      compareBy keys (x.inZone there) (y.inZone there) := by
  induction keys with
  | nil => rfl
  | cons key keys ih => rw [compareBy, compareBy, key.compare_inZone hx hx' hy hy', ih]

/-- The zone that timestamps are stored in does not change what a search finds. A query reports the
same errors in every zone as in universal time. If all times and ranges keep the form of
timestamps, the same records match, and any sort keys, on times or not, put them in the same
order. -/
theorem isMatch_read_inZone (offset : Offset) (bareName text : String) :
    let zone := Zone.fixed offset
    let here := ({ zone, bareName } : Reader).read text
    let there := ({ zone := .utc, bareName } : Reader).read text
    here.errors = there.errors ∧
    (∀ x : Record, x.FitsIn zone → x.FitsIn .utc →
      (∀ range ∈ here.ranges, range.Fits) → (∀ range ∈ there.ranges, range.Fits) →
      here.isMatch (x.inZone zone) = there.isMatch (x.inZone .utc)) ∧
    ∀ (x y : Record) (keys : List SortKey),
      x.FitsIn zone → x.FitsIn .utc → y.FitsIn zone → y.FitsIn .utc →
      compareBy keys (x.inZone zone) (y.inZone zone) =
        compareBy keys (x.inZone .utc) (y.inZone .utc) := by
  intro zone here there
  have hname : ({ zone, bareName } : Reader).bareName =
      ({ zone := .utc, bareName } : Reader).bareName := rfl
  refine ⟨Reader.errors_congr hname (tokenize text), fun x hx hx' hhere hthere => ?_,
    fun x y keys => compareBy_inZone keys⟩
  have hrules := Reader.allows_ruleAt_inZone hname hhere hthere hx hx'
  change (Reader.readTokens _ (tokenize text)).isMatch _ =
    (Reader.readTokens _ (tokenize text)).isMatch _
  rw [Reader.isMatch_readTokens, Reader.isMatch_readTokens, Record.isSome_metadata_inZone,
    Record.isSome_metadata_inZone, List.all_congr rfl hrules]

/-- Two records at the turn of a year and a range between years, eight hours ahead. They are ordered
by their last changes, then by their making. -/
theorem isMatch_read_inZone_newYear :
    let offset : Offset := { seconds := 28800 }
    let zone := Zone.fixed offset
    let here := ({ zone } : Reader).read "create:2020-2021 modify:"
    let there := ({ zone := .utc } : Reader).read "create:2020-2021 modify:"
    let x : Record := { id := "x", metadata := some {
      create := some "20201231200000000", modify := some "20210101000000000" } }
    let y : Record := { id := "y", metadata := some {
      create := some "20191231235959999", modify := some "20210101000000000" } }
    let keys : List SortKey := [⟨.metadata "modify", false⟩, ⟨.metadata "create", true⟩]
    x.FitsIn zone ∧ x.FitsIn .utc ∧ y.FitsIn zone ∧ y.FitsIn .utc ∧
    (∀ range ∈ here.ranges, range.Fits) ∧ (∀ range ∈ there.ranges, range.Fits) ∧
    here.isMatch (x.inZone zone) = there.isMatch (x.inZone .utc) ∧
    compareBy keys (x.inZone zone) (y.inZone zone) =
      compareBy keys (x.inZone .utc) (y.inZone .utc) := by
  intro offset zone here there x y keys
  have hx : x.FitsIn zone := by decide +kernel
  have hx' : x.FitsIn .utc := by decide +kernel
  have hy : y.FitsIn zone := by decide +kernel
  have hy' : y.FitsIn .utc := by decide +kernel
  have hhere : ∀ range ∈ here.ranges, range.Fits := by decide +kernel
  have hthere : ∀ range ∈ there.ranges, range.Fits := by decide +kernel
  obtain ⟨-, hmatch, hcompare⟩ :=
    isMatch_read_inZone offset defaultField "create:2020-2021 modify:"
  exact ⟨hx, hx', hy, hy', hhere, hthere, hmatch x hx hx' hhere hthere,
    hcompare x y keys hx hx' hy hy'⟩

end Query

end ArchiveSearch
