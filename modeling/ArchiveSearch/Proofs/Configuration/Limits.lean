import ArchiveSearch.Configuration.Basic
import ArchiveSearch.Proofs.Storage.Texts

/-! # The limits of a configuration

Hours and mebibytes become limits within 64 bits, and zero is no limit. The largest limit stands for
all that are beyond it. No file is that large, so its size is judged as if the limits were exact.
Texts may just be that old, if they are of the first second that can be told and the present is in
the last one; then they are out of date under every limit that is beyond. All others are judged by
their exact age.
-/

namespace ArchiveSearch.Configuration

theorem limitOf_eq_some_iff {unit n limit : Nat} :
    limitOf unit n = some limit ↔ 0 < n ∧ limit = min (n * unit) largest := by
  unfold limitOf
  by_cases hn : n = 0
  · simp [hn]
  · simp [hn, Nat.pos_of_ne_zero hn, eq_comm]

variable {c : Configuration}

/-- No file is larger than the largest limit, so it blocks none. -/
theorem blocks_loadOptions_iff {texts : File} (hsize : texts.bytes.size ≤ largest) :
    c.loadOptions.Blocks texts ↔
      0 < c.textSizeMebibytes ∧ c.textSizeMebibytes * (1024 * 1024) < texts.bytes.size := by
  unfold LoadOptions.Blocks loadOptions
  simp only [limitOf_eq_some_iff]
  constructor
  · rintro ⟨limit, ⟨hpos, rfl⟩, hlt⟩
    exact ⟨hpos, by omega⟩
  · rintro ⟨hpos, hlt⟩
    exact ⟨_, ⟨hpos, rfl⟩, by omega⟩

theorem span?_loadOptions_eq_some_iff {nanos : Nat} :
    c.loadOptions.span? = some nanos ↔
      0 < c.textAgeHours ∧ nanos = 1000000000 * min (c.textAgeHours * 3600) largest := by
  simp only [LoadOptions.span?, loadOptions, Option.map_eq_some_iff, limitOf_eq_some_iff]
  constructor
  · rintro ⟨seconds, ⟨hpos, rfl⟩, rfl⟩
    exact ⟨hpos, rfl⟩
  · rintro ⟨hpos, rfl⟩
    exact ⟨_, ⟨hpos, rfl⟩, rfl⟩

/-- The exact threshold decides whether texts are out of date, but for those that are older than the
largest limit. -/
theorem outOfDate_loadOptions_iff {now book texts : Time} :
    c.loadOptions.OutOfDate now book texts ↔
      0 < c.textAgeHours ∧ texts.nanos < book.nanos ∧
        (texts.nanos + 1000000000 * (3600 * c.textAgeHours) < now.nanos ∨
          largest < 3600 * c.textAgeHours ∧
            texts.nanos + 1000000000 * largest < now.nanos) := by
  unfold LoadOptions.OutOfDate
  simp only [span?_loadOptions_eq_some_iff]
  constructor
  · rintro ⟨nanos, ⟨hpos, rfl⟩, hnewer, hover⟩
    exact ⟨hpos, hnewer, by omega⟩
  · rintro ⟨hpos, hnewer, hover⟩
    exact ⟨_, ⟨hpos, rfl⟩, hnewer, by omega⟩

/-- Files of texts are judged by the exact limits of a configuration, however large these are. Only
texts that are older than the largest limit are out of date under every threshold beyond it. -/
theorem loadBook_loadOptions (c : Configuration) {t : Tree} {p : Path} {f texts : File}
    {book : Book} (hfile : t.file? p = some f) (hbook : Book.ofBytes? f.bytes = some book)
    (htexts : t.file? (textsPath p) = some texts) (hsize : texts.bytes.size ≤ largest)
    (now : Time) :
    ((∃ b size, loadBook t now c.loadOptions p = .ok b ∧ b.status = .blocked size) ↔
      0 < c.textSizeMebibytes ∧ c.textSizeMebibytes * (1024 * 1024) < texts.bytes.size) ∧
    ∀ read, Texts.ofBytes? texts.bytes = some read →
      ¬(0 < c.textSizeMebibytes ∧ c.textSizeMebibytes * (1024 * 1024) < texts.bytes.size) →
      ∃ b, loadBook t now c.loadOptions p = .ok b ∧
        (b.status = .outdated ↔
          0 < c.textAgeHours ∧ texts.modified.nanos < f.modified.nanos ∧
            (texts.modified.nanos + 1000000000 * (3600 * c.textAgeHours) < now.nanos ∨
              largest < 3600 * c.textAgeHours ∧
                texts.modified.nanos + 1000000000 * largest < now.nanos)) := by
  rw [loadBook_eq hfile hbook, htexts, ← blocks_loadOptions_iff hsize]
  refine ⟨exists_blocked_iff hfile, ?_⟩
  intro read hread hblocks
  obtain ⟨status, hload, hstatus⟩ := loadTexts_of_read hfile htexts hblocks hread
  refine ⟨_, hload, ?_⟩
  rw [← outOfDate_loadOptions_iff]
  rcases hstatus with ⟨rfl, hold⟩ | ⟨rfl, hold⟩
  · exact iff_of_true rfl hold
  · exact iff_of_false nofun hold

/-- The most hours that fit 64 bits as seconds, and more mebibytes than fit them as bytes, for texts
of the first moment that can be told. -/
theorem loadBook_loadOptions_extremes :
    let c : Configuration := { textAgeHours := 5124095576030431, textSizeMebibytes := largest }
    let now : Time := { nanos := 1000000000 * 9223372036854775807 }
    let t : Tree := { nodes := [(["a.json"], .file ⟨"\x7b\x7d".toUTF8, { nanos := 0 }⟩),
      (["a.fulltext.json"], .file ⟨"\x7b\x7d".toUTF8, { nanos := -(1000000000 <<< 63) }⟩)] }
    (¬∃ b size, loadBook t now c.loadOptions ⟨"/a.json"⟩ = .ok b ∧ b.status = .blocked size) ∧
      ∃ b, loadBook t now c.loadOptions ⟨"/a.json"⟩ = .ok b ∧ b.status = .outdated := by
  intro c now t
  have hbook : (Book.ofBytes? "\x7b\x7d".toUTF8).isSome = true := by decide +kernel
  have htexts : (Texts.ofBytes? "\x7b\x7d".toUTF8).isSome = true := by decide +kernel
  obtain ⟨book, hbook⟩ := Option.isSome_iff_exists.mp hbook
  obtain ⟨read, hread⟩ := Option.isSome_iff_exists.mp htexts
  obtain ⟨hblocked, hloaded⟩ := @loadBook_loadOptions c t ⟨"/a.json"⟩ _ _ book rfl hbook rfl
    (by decide) now
  have hsmall : ¬(0 < c.textSizeMebibytes ∧
      c.textSizeMebibytes * (1024 * 1024) < "\x7b\x7d".toUTF8.size) := by
    decide
  obtain ⟨b, hb, hstatus⟩ := hloaded read hread hsmall
  exact ⟨mt hblocked.mp hsmall, b, hb, hstatus.mpr (by decide)⟩

/-- One hour more is beyond the largest limit. In the last second that can be told, texts of the
first one are out of date under it, although that many hours are not over. -/
theorem loadBook_loadOptions_saturated :
    let c : Configuration := { textAgeHours := 5124095576030432 }
    let first : Time := { nanos := -(1000000000 <<< 63) }
    let now : Time := { nanos := 1000000000 * 9223372036854775807 + 1 }
    let t : Tree := { nodes := [(["a.json"], .file ⟨"\x7b\x7d".toUTF8, now⟩),
      (["a.fulltext.json"], .file ⟨"\x7b\x7d".toUTF8, first⟩)] }
    (∃ b, loadBook t now c.loadOptions ⟨"/a.json"⟩ = .ok b ∧ b.status = .outdated) ∧
      ¬first.nanos + 1000000000 * (3600 * c.textAgeHours) < now.nanos := by
  intro c first now t
  have hload : (loadBook t now c.loadOptions ⟨"/a.json"⟩).map (·.status) = .ok .outdated := by
    decide +kernel
  refine ⟨?_, by decide⟩
  cases hb : loadBook t now c.loadOptions ⟨"/a.json"⟩ with
  | error f =>
      rw [hb] at hload
      cases hload
  | ok b =>
      rw [hb] at hload
      exact ⟨b, rfl, Except.ok.inj hload⟩

end ArchiveSearch.Configuration
