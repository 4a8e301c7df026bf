import ArchiveSearch.Configuration.File
import ArchiveSearch.Proofs.Storage.Writing
import ArchiveSearch.Proofs.Toml.Document

/-! # The configuration in its file

A configuration reads back from its text, whatever its strings hold, as long as its numbers have at
most 63 bits. Saving puts this text at the path from which it is loaded. Where a number is too large
nothing is written, and every file stays as it was.
-/

namespace ArchiveSearch.Configuration

/-- Whether the numbers of a configuration can be written. -/
def IsWritable (c : Configuration) : Prop :=
  c.maxResults ≤ 2 ^ 63 - 1 ∧ c.textAgeHours ≤ 2 ^ 63 - 1 ∧ c.textSizeMebibytes ≤ 2 ^ 63 - 1

instance : DecidablePred IsWritable := fun _ => inferInstanceAs (Decidable (_ ∧ _ ∧ _))

/-! ## The text -/

section Text

variable (c : Configuration)

open Toml (HeadedTable Line)

def stringLine (name value : String) : Line := ⟨name, Toml.writeString value, .string value⟩

def naturalLine (name : String) (n : Nat) : Line := ⟨name, toString n, .integer n⟩

def booleanLine (name : String) (b : Bool) : Line := ⟨name, boolText b, .boolean b⟩

def generalTable : HeadedTable where
  name := "general"
  lines := (c.libraryPath.toList.map (stringLine "library_path")) ++
    [naturalLine "max_results" c.maxResults, stringLine "log_level" c.logLevel]

def searchTable : HeadedTable where
  name := "search"
  lines := [stringLine "default_search" c.defaultSearch, stringLine "default_field" c.defaultField,
    booleanLine "parallel_books" c.parallelBooks,
    naturalLine "cache_update_threshold_hours" c.textAgeHours,
    naturalLine "cache_size_limit_mib" c.textSizeMebibytes]

def timeTable : HeadedTable where
  name := "time"
  lines := [stringLine "timezone" c.zoneName]

theorem toList_line (l : Line) : (line l.name l.text).toList = l.chars := by
  have hequals : " = ".toList = [' ', '=', ' '] := rfl
  have hend : "\n".toList = ['\n'] := rfl
  simp only [line, String.toList_append, hequals, hend, Line.chars, List.append_assoc,
    List.cons_append, List.nil_append]

theorem toList_text : c.text.toList = c.generalTable.chars ++
    [c.searchTable, c.timeTable].flatMap fun table => '\n' :: table.chars := by
  have hstring (name value : String) : (line name (Toml.writeString value)).toList =
      (stringLine name value).chars := toList_line (stringLine name value)
  have hnatural (name : String) (n : Nat) : (line name (toString n)).toList =
      (naturalLine name n).chars := toList_line (naturalLine name n)
  have hboolean (name : String) (b : Bool) : (line name (boolText b)).toList =
      (booleanLine name b).chars := toList_line (booleanLine name b)
  have hgeneral : "[general]\n".toList = c.generalTable.header := by
    simp [HeadedTable.header, generalTable]
  have hsearch : "\n[search]\n".toList = '\n' :: c.searchTable.header := by
    simp [HeadedTable.header, searchTable]
  have htime : "\n[time]\n".toList = '\n' :: c.timeTable.header := by
    simp [HeadedTable.header, timeTable]
  unfold text
  cases hpath : c.libraryPath with
  | none | some _ =>
      simp only [String.toList_append, String.toList_empty, hstring, hnatural, hboolean, hgeneral,
        hsearch, htime, HeadedTable.chars, List.flatMap_cons, List.flatMap_nil]
      simp only [generalTable, searchTable, timeTable, hpath, Option.toList, List.map_cons,
        List.map_nil, List.flatMap_cons, List.flatMap_nil, List.append_assoc, List.cons_append,
        List.nil_append, List.append_nil]

theorem isWritten_stringLine {name : String} (h : Toml.IsBareName name) (value : String) :
    (stringLine name value).IsWritten := ⟨h, Toml.writes_writeString value⟩

theorem isWritten_naturalLine {name : String} (h : Toml.IsBareName name) {n : Nat}
    (hn : n ≤ 2 ^ 63 - 1) : (naturalLine name n).IsWritten :=
  ⟨h, Toml.writes_natural (Nat.lt_of_le_of_lt hn (by decide))⟩

theorem isWritten_booleanLine {name : String} (h : Toml.IsBareName name) (b : Bool) :
    (booleanLine name b).IsWritten := ⟨h, Toml.writes_boolean b⟩

theorem isWritten_generalTable (h : c.IsWritable) : c.generalTable.IsWritten where
  name := (by decide : Toml.IsBareName "general")
  lines := by
    rw [generalTable, List.forall_mem_append, List.forall_mem_cons, List.forall_mem_singleton]
    refine ⟨?_, isWritten_naturalLine (by decide) h.1, isWritten_stringLine (by decide) _⟩
    intro l hl
    obtain ⟨path, -, rfl⟩ := List.mem_map.mp hl
    exact isWritten_stringLine (by decide) path
  nodup := by
    cases hpath : c.libraryPath with
    | none | some _ => simp [generalTable, hpath, stringLine, naturalLine]

theorem isWritten_searchTable (h : c.IsWritable) : c.searchTable.IsWritten where
  name := (by decide : Toml.IsBareName "search")
  lines := by
    simp only [searchTable, List.forall_mem_cons, List.not_mem_nil, false_imp_iff, implies_true,
      and_true]
    exact ⟨isWritten_stringLine (by decide) _, isWritten_stringLine (by decide) _,
      isWritten_booleanLine (by decide) _, isWritten_naturalLine (by decide) h.2.1,
      isWritten_naturalLine (by decide) h.2.2⟩
  nodup := by simp [searchTable, stringLine, naturalLine, booleanLine]

theorem isWritten_timeTable : c.timeTable.IsWritten where
  name := (by decide : Toml.IsBareName "time")
  lines := by
    rw [timeTable, List.forall_mem_singleton]
    exact isWritten_stringLine (by decide) _
  nodup := by simp [timeTable]

/-- The text of a configuration reads as its three tables. -/
theorem read?_text (h : c.IsWritable) : Toml.read? c.text =
    some (.table .headed ([c.generalTable, c.searchTable, c.timeTable].map HeadedTable.entry)) := by
  refine Toml.read?_tables c.toList_text ?_ ?_
  · rw [List.forall_mem_cons, List.forall_mem_cons, List.forall_mem_singleton]
    exact ⟨c.isWritten_generalTable h, c.isWritten_searchTable h, c.isWritten_timeTable⟩
  · simp [generalTable, searchTable, timeTable]

/-- A library path that was left out stays left out. -/
theorem readGeneral?_generalTable :
    readGeneral? {} c.generalTable.entry.2 = some { ({} : Configuration) with
      libraryPath := c.libraryPath
      maxResults := c.maxResults
      logLevel := c.logLevel } := by
  cases hpath : c.libraryPath with
  | none | some _ =>
      simp [readGeneral?, HeadedTable.entry, generalTable, hpath, Toml.fields?, generalNames,
        Toml.find?, Line.entry, stringLine, naturalLine, Toml.orElse?, Toml.string?,
        Toml.natural?]

theorem readSearch?_searchTable (d : Configuration) :
    readSearch? d c.searchTable.entry.2 = some { d with
      defaultSearch := c.defaultSearch
      defaultField := c.defaultField
      parallelBooks := c.parallelBooks
      textAgeHours := c.textAgeHours
      textSizeMebibytes := c.textSizeMebibytes } := by
  simp [readSearch?, HeadedTable.entry, searchTable, Toml.fields?, searchNames, Toml.find?,
    Line.entry, stringLine, naturalLine, booleanLine, Toml.orElse?, Toml.string?, Toml.natural?,
    Toml.boolean?]

theorem readTime?_timeTable (d : Configuration) :
    readTime? d c.timeTable.entry.2 = some { d with zoneName := c.zoneName } := by
  simp [readTime?, HeadedTable.entry, timeTable, Toml.fields?, timeNames, Toml.find?, Line.entry,
    stringLine, Toml.orElse?, Toml.string?]

/-- A configuration reads back from its text. -/
theorem ofText?_text (h : c.IsWritable) : ofText? c.text = some c := by
  have hfields : Toml.fields? tableNames (.table .headed
      ([c.generalTable, c.searchTable, c.timeTable].map HeadedTable.entry)) =
        some [some c.generalTable.entry.2, some c.searchTable.entry.2,
          some c.timeTable.entry.2] := by
    simp [Toml.fields?, tableNames, Toml.find?, HeadedTable.entry, generalTable, searchTable,
      timeTable]
  rw [ofText?, c.read?_text h, Option.bind_eq_bind, Option.bind_some, hfields]
  simp [Toml.orElse?, readGeneral?_generalTable, readSearch?_searchTable, readTime?_timeTable]

end Text

/-! ## Saving and loading -/

section Saving

variable {t made saved : Tree} {now : Time} {p : Path} {c : Configuration}

theorem text?_of_isWritable (h : c.IsWritable) : c.text? = some c.text := by
  obtain ⟨hresults, hhours, hmebibytes⟩ := h
  have hlimit : (1 <<< 63 : Nat) = 2 ^ 63 := rfl
  rw [text?, if_pos]
  simp only [List.all_cons, List.all_nil, Bool.and_true, Bool.and_eq_true, decide_eq_true_eq,
    hlimit]
  omega

theorem text?_of_not_isWritable (h : ¬c.IsWritable) : c.text? = none := by
  have hlimit : (1 <<< 63 : Nat) = 2 ^ 63 := rfl
  rw [text?, if_neg]
  simp only [List.all_cons, List.all_nil, Bool.and_true, Bool.and_eq_true, decide_eq_true_eq,
    hlimit]
  unfold IsWritable at h
  omega

/-- Nothing is written for a configuration that cannot be written. -/
theorem saving_of_not_isWritable (h : ¬c.IsWritable)
    (hmade : t.makeDirectory p.parent = .ok made) :
    saving t now p c = .ok (made, some .tooLarge) := by
  rw [saving, hmade, text?_of_not_isWritable h]
  rfl

theorem save_of_not_isWritable (h : ¬c.IsWritable) (hmade : t.makeDirectory p.parent = .ok made) :
    save t now p c = .error (.settings .tooLarge) := by
  rw [save, saving_of_not_isWritable h hmade]
  rfl

/-- Saving writes the text of the configuration into the directory that has been made. -/
theorem save_of_isWritable (h : c.IsWritable) (hmade : t.makeDirectory p.parent = .ok made) :
    save t now p c = (made.writeFile p ⟨c.text.toUTF8, now⟩).mapError .file := by
  have hsaving : saving t now p c =
      do return (← made.writeFile p ⟨c.text.toUTF8, now⟩, none) := by
    rw [saving, hmade, text?_of_isWritable h]
    rfl
  rw [save, hsaving]
  cases made.writeFile p ⟨c.text.toUTF8, now⟩ with
  | error fault => rfl
  | ok saved => rfl

theorem save_of_makeDirectory_error {fault : FileFault}
    (hmade : t.makeDirectory p.parent = .error fault) :
    save t now p c = .error (.file fault) := by
  rw [save, saving, hmade]
  rfl

theorem save_eq_ok_iff : save t now p c = .ok saved ↔
    c.IsWritable ∧ ∃ made, t.makeDirectory p.parent = .ok made ∧
      made.writeFile p ⟨c.text.toUTF8, now⟩ = .ok saved := by
  cases hmade : t.makeDirectory p.parent with
  | error fault => simp [save_of_makeDirectory_error hmade]
  | ok made =>
      by_cases h : c.IsWritable
      · rw [save_of_isWritable h hmade]
        cases hwrite : made.writeFile p ⟨c.text.toUTF8, now⟩ with
        | error fault =>
            simp only [Except.mapError, reduceCtorEq, Except.ok.injEq, exists_eq_left', hwrite,
              and_false]
        | ok written =>
            simp only [Except.mapError, Except.ok.injEq, exists_eq_left', hwrite, h, true_and]
      · simp [save_of_not_isWritable h hmade, h]

/-- A configuration can be saved wherever a file can be written, if its numbers are not too
large. -/
theorem exists_save_eq_ok_iff :
    (∃ saved, save t now p c = .ok saved) ↔ c.IsWritable ∧ t.Admits p := by
  constructor
  · rintro ⟨saved, hsave⟩
    obtain ⟨hc, made, hmade, hwrite⟩ := save_eq_ok_iff.mp hsave
    obtain ⟨l, hlocate, hnode, -⟩ := Tree.writeFile_eq_ok_iff.mp hwrite
    exact ⟨hc, made, hmade, l, hlocate, hnode⟩
  · rintro ⟨hc, made, hmade, l, hlocate, hnode⟩
    exact ⟨_, save_eq_ok_iff.mpr
      ⟨hc, made, hmade, Tree.writeFile_eq_ok_iff.mpr ⟨l, hlocate, hnode, rfl⟩⟩⟩

/-- Elsewhere it is the files that do not allow it. -/
theorem save_of_not_admits (h : c.IsWritable) (hadmits : ¬t.Admits p) :
    ∃ fault, save t now p c = .error (.file fault) := by
  cases hmade : t.makeDirectory p.parent with
  | error fault => exact ⟨fault, save_of_makeDirectory_error hmade⟩
  | ok made =>
      have hsave : save t now p c = (made.writeFile p ⟨c.text.toUTF8, now⟩).mapError .file :=
        save_of_isWritable h hmade
      cases hwrite : made.writeFile p ⟨c.text.toUTF8, now⟩ with
      | error fault =>
          rw [hwrite] at hsave
          exact ⟨fault, hsave⟩
      | ok saved =>
          rw [hwrite] at hsave
          exact absurd (exists_save_eq_ok_iff.mp ⟨saved, hsave⟩).2 hadmits

/-- What has been saved is loaded from the same path. -/
theorem load_of_save (h : save t now p c = .ok saved) : load saved p = .ok c := by
  obtain ⟨hc, made, -, hwrite⟩ := save_eq_ok_iff.mp h
  have hat := Tree.at?_of_writeFile hwrite
  have hread := Tree.readText_of_at? hat
  have hparse := ofText?_text c hc
  simp only [load, hat, hread, Except.mapError]
  simp [hparse, bind, Except.bind]

end Saving

/-- A configuration is loaded as it was saved, whatever its strings hold, unless the files do not
allow it to be saved. One with a number of more than 63 bits is not saved: what was there before
stays as it was, and where there was a file at the path nothing changes at all. -/
theorem save_then_load (t : Tree) (now : Time) (p : Path) (c : Configuration) :
    (c.IsWritable → t.Admits p →
      ∃ saved, save t now p c = .ok saved ∧ load saved p = .ok c) ∧
    (c.IsWritable → ¬t.Admits p → ∃ fault, save t now p c = .error (.file fault)) ∧
    (¬c.IsWritable → ∀ made, t.makeDirectory p.parent = .ok made →
      save t now p c = .error (.settings .tooLarge) ∧
        saving t now p c = .ok (made, some .tooLarge) ∧
        ∀ q n, t.at? q = some n → made.at? q = some n) ∧
    (¬c.IsWritable → ∀ f, t.at? p = some (.file f) →
      save t now p c = .error (.settings .tooLarge) ∧
        saving t now p c = .ok (t, some .tooLarge)) := by
  refine ⟨?_, save_of_not_admits, ?_, ?_⟩
  · intro hc hadmits
    obtain ⟨saved, hsave⟩ := exists_save_eq_ok_iff.mpr ⟨hc, hadmits⟩
    exact ⟨saved, hsave, load_of_save hsave⟩
  · intro hc made hmade
    refine ⟨save_of_not_isWritable hc hmade, saving_of_not_isWritable hc hmade, ?_⟩
    intro q n hat
    exact (Tree.extends_makeDirectory hmade).at? hat
  · intro hc f hat
    have hmade := Tree.makeDirectory_parent hat
    exact ⟨save_of_not_isWritable hc hmade, saving_of_not_isWritable hc hmade⟩

/-- Strings with quotes of both kinds, slashes, line breaks and control characters are saved into a
directory that has to be made, but not in place of the root directory. A number of 64 bits then
leaves the file as it was. -/
theorem save_then_load_quotes :
    let c : Configuration := {
      libraryPath := some "/books/'\"\\", maxResults := 2 ^ 63 - 1, logLevel := "\n'''\t\"\"\""
      defaultSearch := "\r\n\x00\x7f'''", zoneName := "\"\"" }
    let large : Configuration := { c with textAgeHours := 2 ^ 63 }
    let p : Path := ⟨"settings/program.toml"⟩
    let made : Tree := { nodes := [(["settings"], .directory)] }
    let now : Time := { nanos := 0 }
    (∃ fault, save {} now ⟨"/"⟩ c = .error (.file fault)) ∧
      saving {} now p large = .ok (made, some .tooLarge) ∧
      ∃ saved, save {} now p c = .ok saved ∧ load saved p = .ok c ∧
        save saved now p large = .error (.settings .tooLarge) ∧
        saving saved now p large = .ok (saved, some .tooLarge) := by
  intro c large p made now
  have hparent : p.parent = ⟨"settings"⟩ := by decide
  have hmade : Tree.makeDirectory {} p.parent = .ok made := by
    rw [hparent]
    rfl
  have hadmits : Tree.Admits {} p :=
    ⟨made, hmade, ["settings", "program.toml"], by decide, nofun⟩
  have hroot : ¬Tree.Admits {} ⟨"/"⟩ := by
    rintro ⟨made, -, l, hlocate, hnode⟩
    have hhere : made.locate? ⟨"/"⟩ = some [] := rfl
    obtain rfl : [] = l := Option.some.inj (hhere.symm.trans hlocate)
    exact hnode rfl
  have hrefused := (save_then_load {} now ⟨"/"⟩ c).2.1 (by decide) hroot
  obtain ⟨-, hleft, -⟩ := (save_then_load {} now p large).2.2.1 (by decide) made hmade
  obtain ⟨saved, hsave, hload⟩ := (save_then_load {} now p c).1 (by decide) hadmits
  obtain ⟨-, _, -, hwrite⟩ := save_eq_ok_iff.mp hsave
  have hat := Tree.at?_of_writeFile hwrite
  obtain ⟨hfails, hsaving⟩ := (save_then_load saved now p large).2.2.2 (by decide) _ hat
  exact ⟨hrefused, hleft, saved, hsave, hload, hfails, hsaving⟩

end ArchiveSearch.Configuration
