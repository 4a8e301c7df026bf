import ArchiveSearch.Proofs.Book.Document
import ArchiveSearch.Proofs.Storage.Listing
import ArchiveSearch.Proofs.Storage.Writing
import Mathlib.Data.List.Nodup

/-! # Books that are saved and loaded

Books that are saved one after the other into an empty directory are files of their own in it. They
are loaded again in the order of their identifiers, unless an identifier ends in such a way that
its file counts as a file of texts.
-/

namespace ArchiveSearch

open ArchiveSearch.Path (IsEntryName)

/-! ## Names of files -/

theorem isEntryName_append {id suffix : String} (hid : '/' ∉ id.toList)
    (hsuffix : '/' ∉ suffix.toList) (hlength : 2 < suffix.toList.length) :
    IsEntryName (id ++ suffix).toList := by
  have hlong : 2 < (id ++ suffix).toList.length := by
    rw [String.toList_append, List.length_append]
    omega
  refine ⟨?_, ?_, ?_⟩
  · rw [String.toList_append, List.mem_append]
    rintro (h | h)
    · exact hid h
    · exact hsuffix h
  · unfold Path.isIdle
    rw [Bool.or_eq_false_iff]
    constructor
    · exact beq_eq_false_iff_ne.mpr fun h => by simp [h] at hlong
    · exact beq_eq_false_iff_ne.mpr fun h => by simp [h] at hlong
  · intro h
    simp [h] at hlong

theorem isEntryName_book {id : String} (hid : '/' ∉ id.toList) :
    IsEntryName (id ++ ".json").toList :=
  isEntryName_append hid (by decide) (by decide)

theorem isEntryName_texts {id : String} (hid : '/' ∉ id.toList) :
    IsEntryName (id ++ textsSuffix).toList :=
  isEntryName_append hid (by decide) (by decide)

theorem splitExtension_book {id : String} (hne : id ≠ "") :
    Path.splitExtension (id ++ ".json").toList = (id.toList, some "json".toList) := by
  rw [String.toList_append]
  exact Path.splitExtension_append (by simpa using hne) (by decide)

theorem textsPath_join (directory : Path) {id : String} (hne : id ≠ "") (hid : '/' ∉ id.toList) :
    textsPath (directory.join (id ++ ".json")) =
      (directory.join (id ++ ".json")).withFileName (id ++ textsSuffix) := by
  rw [textsPath, Path.stem, Path.fileName?_join directory (isEntryName_book hid), Option.map_some,
    splitExtension_book hne, Option.getD_some, String.ofList_toList]

/-- The file of a book is one by its name, unless it looks like a file of texts. -/
theorem isBookName_iff {id : String} (hne : id ≠ "") (hid : '/' ∉ id.toList) :
    isBookName (id ++ ".json") = true ↔ ¬ ".fulltext".toList <:+ id.toList := by
  have hextension : (Path.mk (id ++ ".json")).extension? = some "json" := by
    have hjoin : Path.mk (id ++ ".json") = (Path.mk "").join (id ++ ".json") := by
      simp [Path.join]
    rw [Path.extension?, hjoin, Path.fileName?_join ⟨""⟩ (isEntryName_book hid), Option.bind_some,
      splitExtension_book hne]
    rfl
  have hsuffix : textsSuffix.toList <:+ (id ++ ".json").toList ↔
      ".fulltext".toList <:+ id.toList := by
    rw [String.toList_append]
    exact (List.suffix_append_self_iff : ".fulltext".toList ++ ".json".toList <:+ _ ↔ _)
  rw [isBookName, hextension, Bool.and_eq_true, Bool.not_eq_true', ← Bool.not_eq_true,
    List.isSuffixOf_iff_suffix, hsuffix]
  simp

/-! ## Saving -/

theorem saveText_eq_ok_iff {t saved : Tree} {now : Time} {directory p : Path} {name text : String} :
    saveText t now directory name text = .ok (p, saved) ↔
    p = directory.join name ∧ ∃ made, t.makeDirectory directory = .ok made ∧
      made.writeFile (directory.join name) ⟨text.toUTF8, now⟩ = .ok saved := by
  unfold saveText
  generalize File.mk text.toUTF8 now = f
  cases hmade : t.makeDirectory directory with
  | error fault => simp [bind, Except.bind, Except.mapError]
  | ok made =>
      cases hwrite : made.writeFile (directory.join name) f with
      | error fault => simp [bind, Except.bind, Except.mapError, hwrite]
      | ok u => simp [bind, Except.bind, Except.mapError, pure, Except.pure, hwrite, eq_comm]

/-- In a directory that is there, a text can be saved under a name that no directory has. -/
theorem saveText_eq_put {t : Tree} {now : Time} {directory : Path} {name text : String}
    {l : Location} (hdirectory : t.locate? directory = some l)
    (hnode : t.node? l = some .directory) (hentry : IsEntryName name.toList)
    (hname : Path.isName name.toList = true) (hfree : t.node? (l ++ [name]) ≠ some .directory) :
    saveText t now directory name text =
      .ok (directory.join name, t.put (l ++ [name]) (.file ⟨text.toUTF8, now⟩)) := by
  have hmade := Tree.makeDirectory_eq hdirectory hnode
  have hlocate := Tree.locate?_join hdirectory hnode hentry hname
  exact saveText_eq_ok_iff.mpr
    ⟨rfl, t, hmade, Tree.writeFile_eq_ok_iff.mpr ⟨_, hlocate, hfree, rfl⟩⟩

/-- Saves books one after the other, each at a time of its own. -/
def saveBooks (t : Tree) (directory : Path) (saves : List (Time × Book)) : Except Failure Tree :=
  saves.foldlM (fun t s => (saveBook t s.1 directory s.2).map (·.2)) t

/-- The file that a book is saved in. -/
def bookFile (s : Time × Book) : String × File :=
  (s.2.id ++ ".json", ⟨s.2.json.indentedText.toUTF8, s.1⟩)

/-- Whether a book can be saved under its identifier. -/
structure Book.HasFileName (b : Book) : Prop where
  ne : b.id ≠ ""
  slash : '/' ∉ b.id.toList
  isName : Path.isName (b.id ++ ".json").toList = true

/-- Whether a directory holds files, in the order in which they are listed, and nothing else. -/
structure Tree.Holds (t : Tree) (p : Path) (l : Location) (files : List (String × File)) :
    Prop where
  located : t.locate? p = some l
  isDirectory : t.node? l = some .directory
  listed : t.names p = files.map (·.1)
  found : ∀ name, t.node? (l ++ [name]) = (files.find? fun f => f.1 = name).map (.file ·.2)

section Directory

variable {t : Tree} {directory : Path} {l : Location} {files : List (String × File)}

/-- An empty directory holds no files. -/
theorem Tree.exists_holds_nil (hdirectory : t.isDirectory directory = true)
    (hempty : t.names directory = []) : ∃ l, t.Holds directory l [] := by
  obtain ⟨l, hlocated, hnode⟩ := Tree.isDirectory_iff.mp hdirectory
  exact ⟨l, hlocated, hnode, hempty, node?_entry_eq_none hlocated hempty⟩

namespace Tree.Holds

theorem node?_of_not_mem (h : t.Holds directory l files) {name : String}
    (hnew : name ∉ files.map (·.1)) : t.node? (l ++ [name]) = none := by
  rw [h.found, Option.map_eq_none_iff, List.find?_eq_none]
  intro f hf heq
  exact hnew (List.mem_map.mpr ⟨f, hf, of_decide_eq_true heq⟩)

/-- A file with a new name comes behind the others. -/
theorem put (h : t.Holds directory l files) {name : String} (hnew : name ∉ files.map (·.1))
    (f : File) : (t.put (l ++ [name]) (.file f)).Holds directory l (files ++ [(name, f)]) := by
  have hnone := h.node?_of_not_mem hnew
  have hfree : t.node? (l ++ [name]) ≠ some .directory := by
    rw [hnone]
    exact nofun
  have hplace : l ++ [name] ≠ [] := Tree.ne_nil_of_node?_ne hfree
  have hself : l ≠ l ++ [name] := by simp
  refine ⟨?_, ?_, ?_, ?_⟩
  · rw [Tree.locate?_put_file hfree, h.located]
  · rw [Tree.node?_put hplace, if_neg hself, h.isDirectory]
  · rw [Tree.names_put_file h.located hnone, h.listed, List.map_append, List.map_singleton]
  · intro other
    rw [Tree.node?_put hplace, h.found, List.find?_append]
    by_cases hother : other = name
    · subst hother
      have hnew : files.find? (fun f => f.1 = other) = none := by
        rw [h.found, Option.map_eq_none_iff] at hnone
        exact hnone
      simp [hnew]
    · simp [hother, Ne.symm hother]

end Tree.Holds

/-- A text that is saved under a new name is a file behind the others. -/
theorem saveText_holds (h : t.Holds directory l files) {name : String}
    (hentry : IsEntryName name.toList) (hname : Path.isName name.toList = true)
    (hnew : name ∉ files.map (·.1)) (now : Time) (text : String) :
    ∃ saved, saveText t now directory name text = .ok (directory.join name, saved) ∧
      saved.Holds directory l (files ++ [(name, ⟨text.toUTF8, now⟩)]) := by
  refine ⟨_, saveText_eq_put h.located h.isDirectory hentry hname ?_, h.put hnew _⟩
  rw [h.node?_of_not_mem hnew]
  exact nofun

/-- Every book that is saved adds its file. -/
theorem saveBooks_holds (h : t.Holds directory l files) {saves : List (Time × Book)}
    (hsaves : ∀ s ∈ saves, s.2.HasFileName)
    (hnew : ((files ++ saves.map bookFile).map (·.1)).Nodup) :
    ∃ saved, saveBooks t directory saves = .ok saved ∧
      saved.Holds directory l (files ++ saves.map bookFile) := by
  -- Every save leaves one more file, so the induction is for any files that are there already.
  induction saves generalizing t files with
  | nil =>
      rw [List.map_nil, List.append_nil]
      exact ⟨t, rfl, h⟩
  | cons s saves ih =>
      obtain ⟨hfirst, hrest⟩ := List.forall_mem_cons.mp hsaves
      have hassoc : files ++ (s :: saves).map bookFile =
          files ++ [bookFile s] ++ saves.map bookFile := by
        simp
      rw [hassoc] at hnew ⊢
      have hname : (bookFile s).1 ∉ files.map (·.1) := by
        rw [List.map_append, List.map_append] at hnew
        have hfront := (List.nodup_append.mp hnew).1
        intro hmem
        exact (List.nodup_append.mp hfront).2.2 _ hmem _ (List.mem_singleton_self _) rfl
      obtain ⟨saved, hsave, hholds⟩ :=
        saveText_holds h (isEntryName_book hfirst.slash) hfirst.isName hname s.1 _
      obtain ⟨last, hlast, hholds⟩ := ih hholds hrest hnew
      refine ⟨last, ?_, hholds⟩
      rw [saveBooks, List.foldlM_cons, saveBook, hsave]
      exact hlast

/-! ## Loading -/

/-- A text that was saved is read as it was. -/
theorem readText_of_holds (h : t.Holds directory l files) (hnodup : (files.map (·.1)).Nodup)
    {name text : String} {now : Time} (hentry : IsEntryName name.toList)
    (hname : Path.isName name.toList = true) (hfile : (name, ⟨text.toUTF8, now⟩) ∈ files) :
    t.readText (directory.join name) = .ok text := by
  have hfind : files.find? (fun f => f.1 = name) = some (name, ⟨text.toUTF8, now⟩) := by
    rw [← List.head?_filter, filter_key_eq_singleton hnodup hfile]
    rfl
  have hat : t.at? (directory.join name) = some (.file ⟨text.toUTF8, now⟩) := by
    rw [Tree.at?, Tree.locate?_join h.located h.isDirectory hentry hname, Option.bind_some, h.found,
      hfind, Option.map_some]
  exact Tree.readText_of_at? hat

/-- A book as it is loaded from a file of its own. -/
def Book.reloaded (b : Book) : Book :=
  { b with status := if b.hasTexts then .current else .missing }

/-- The file of texts of a book is missing if no file has its name. -/
theorem file?_textsPath (h : t.Holds directory l files) {id : String} (hne : id ≠ "")
    (hid : '/' ∉ id.toList) (hmissing : id ++ textsSuffix ∉ files.map (·.1)) :
    t.file? (textsPath (directory.join (id ++ ".json"))) = none := by
  have hat : t.at? (textsPath (directory.join (id ++ ".json"))) = none := by
    rw [textsPath_join directory hne hid, Tree.at?]
    -- Whether the path leads anywhere is of no matter, as long as it leads to no other entry.
    cases hlocate : t.locate?
        ((directory.join (id ++ ".json")).withFileName (id ++ textsSuffix)) with
    | none => rfl
    | some l' =>
        rw [Tree.eq_of_locate?_withFileName h.located (isEntryName_book hid)
          (isEntryName_texts hid) hlocate, Option.bind_some, h.node?_of_not_mem hmissing]
  rw [Tree.file?, hat]

/-- A book that was saved is loaded as it was. -/
theorem loadBook_of_holds (h : t.Holds directory l files) (hnodup : (files.map (·.1)).Nodup)
    {s : Time × Book} (hs : bookFile s ∈ files) (hb : s.2.HasFileName)
    (hmissing : s.2.id ++ textsSuffix ∉ files.map (·.1)) (hkept : s.2.Kept)
    (hnumbers : ∀ n ∈ s.2.numbers, n.IsInteger) (now : Time) (options : LoadOptions) :
    loadBook t now options (directory.join (bookFile s).1) = .ok s.2.reloaded := by
  have hread : t.readText (directory.join (bookFile s).1) = .ok s.2.json.indentedText :=
    readText_of_holds h hnodup (isEntryName_book hb.slash) hb.isName hs
  have htexts : t.file? (textsPath (directory.join (bookFile s).1)) = none :=
    file?_textsPath h hb.ne hb.slash hmissing
  have hdocument : readDocument t (directory.join (bookFile s).1) Book.ofText? =
      .ok { s.2 with status := .current } := by
    simp only [readDocument, hread, Except.mapError, bind, Except.bind,
      hkept.ofText?_indentedText hnumbers s.2.isJson_json]
  rw [loadBook, hdocument]
  simp only [htexts, bind, Except.bind]
  rfl

end Directory

/-! ## Loading what was saved -/

/-- As many books are loaded as there are files of books. -/
theorem length_of_loadEntries {t : Tree} {now : Time} {options : LoadOptions} {directory : Path}
    {names : List String} {books : List Book}
    (h : loadEntries t now options directory names = .ok books) :
    books.length = (names.filter isBookName).length := by
  obtain ⟨loaded, hloaded, rfl⟩ := loadEntries_eq_ok_iff.mp h
  rw [(sortBooks_perm loaded).length_eq, ← hloaded.length_eq, filter_isBookName]

/-- What is asked of a book that is saved: its identifier makes the name of a file, and its metadata
have been read from JSON, where they lay two levels below the book, with integers only. -/
structure Book.IsStorable (b : Book) : Prop extends b.HasFileName where
  decoded : ∀ e ∈ b.items.entries, ∃ w, Metadata.read? (Json.nestingLimit - 2) w = some e.2
  integers : ∀ n ∈ b.numbers, n.IsInteger

theorem Book.IsStorable.kept {b : Book} (h : b.IsStorable) : b.Kept := by
  intro e he
  obtain ⟨w, hread⟩ := h.decoded e he
  exact Metadata.kept_of_read? hread

/-- Files of books with different identifiers have different names. -/
theorem nodup_bookFile {saves : List (Time × Book)} (h : (saves.map (·.2.id)).Nodup) :
    ((saves.map bookFile).map (·.1)).Nodup := by
  have hnames : (saves.map bookFile).map (·.1) = (saves.map (·.2.id)).map (· ++ ".json") := by
    simp [bookFile, Function.comp_def]
  rw [hnames]
  exact h.map fun _ _ heq => (String.append_left_inj ".json").mp heq

/-- The file of a book is no file of texts of another one, if it counts as a file of a book. -/
theorem textsName_not_mem {saves : List (Time × Book)}
    (hids : ∀ s ∈ saves, ¬ ".fulltext".toList <:+ s.2.id.toList) (id : String) :
    id ++ textsSuffix ∉ (saves.map bookFile).map (·.1) := by
  rw [List.map_map]
  intro hmem
  obtain ⟨s, hs, heq⟩ := List.mem_map.mp hmem
  have hid : s.2.id = id ++ ".fulltext" := by
    have hsplit : s.2.id ++ ".json" = id ++ ".fulltext" ++ ".json" := by
      rw [String.append_assoc]
      exact heq
    exact (String.append_left_inj ".json").mp hsplit
  refine hids s hs ?_
  rw [hid, String.toList_append]
  exact List.suffix_append _ _

section Directory

variable {t : Tree} {directory : Path} {l : Location}

theorem loadBooks_of_holds {files : List (String × File)} (h : t.Holds directory l files)
    (now : Time) (options : LoadOptions) :
    loadBooks t now options directory =
      loadEntries t now options directory (files.map (·.1)) := by
  have hdirectory : t.isDirectory directory = true :=
    Tree.isDirectory_iff.mpr ⟨l, h.located, h.isDirectory⟩
  rw [loadBooks, if_pos hdirectory, h.listed]

/-- Books that were saved are loaded as they were. -/
theorem loadEntries_bookFile {saves : List (Time × Book)}
    (h : t.Holds directory l (saves.map bookFile)) (hdistinct : (saves.map (·.2.id)).Nodup)
    (hsaves : ∀ s ∈ saves, s.2.IsStorable)
    (hids : ∀ s ∈ saves, ¬ ".fulltext".toList <:+ s.2.id.toList) (now : Time)
    (options : LoadOptions) :
    loadEntries t now options directory ((saves.map bookFile).map (·.1)) =
      .ok (sortBooks (saves.map (·.2.reloaded))) := by
  have hnames : ((saves.map bookFile).map (·.1)).filter isBookName =
      (saves.map bookFile).map (·.1) := by
    rw [List.filter_eq_self, List.map_map]
    intro name hname
    obtain ⟨s, hs, rfl⟩ := List.mem_map.mp hname
    have hstorable := hsaves s hs
    exact (isBookName_iff hstorable.ne hstorable.slash).mpr (hids s hs)
  refine loadEntries_eq_ok_iff.mpr ⟨saves.map (·.2.reloaded), ?_, rfl⟩
  rw [LoadedFrom, ← filter_isBookName, hnames, List.map_map, List.forall₂_map_left_iff,
    List.forall₂_map_right_iff, List.forall₂_same]
  intro s hs
  have hstorable := hsaves s hs
  exact loadBook_of_holds h (nodup_bookFile hdistinct) (List.mem_map_of_mem hs)
    hstorable.toHasFileName (textsName_not_mem hids s.2.id) hstorable.kept hstorable.integers
    now options

end Directory

/-- Books with different identifiers that are saved into an empty directory, in any order and at any
times, are the books that are loaded from it, exactly if the file of none of them counts as a file
of texts. -/
theorem loadBooks_saveBooks_iff {t : Tree} {directory : Path}
    (hdirectory : t.isDirectory directory = true) (hempty : t.names directory = [])
    {saves : List (Time × Book)} (hdistinct : (saves.map (·.2.id)).Nodup)
    (hsaves : ∀ s ∈ saves, s.2.IsStorable) (now : Time) (options : LoadOptions) :
    ∃ saved, saveBooks t directory saves = .ok saved ∧
      ((∃ books, loadBooks saved now options directory = .ok books ∧
          (books.Pairwise fun a b => a.id < b.id) ∧ books.Perm (saves.map (·.2.reloaded))) ↔
        ∀ s ∈ saves, ¬ ".fulltext".toList <:+ s.2.id.toList) := by
  obtain ⟨l, h⟩ := Tree.exists_holds_nil hdirectory hempty
  have hnodup := nodup_bookFile hdistinct
  obtain ⟨saved, hsave, hholds⟩ :=
    saveBooks_holds h (fun s hs => (hsaves s hs).toHasFileName) hnodup
  rw [List.nil_append] at hholds
  refine ⟨saved, hsave, ?_⟩
  rw [loadBooks_of_holds hholds]
  constructor
  · -- No fewer books are loaded than were saved, so no file is left out.
    rintro ⟨books, hload, -, hperm⟩ s hs
    have hlength := length_of_loadEntries hload
    rw [hperm.length_eq, List.length_map, ← List.length_map (f := bookFile),
      ← List.length_map (f := fun f : String × File => f.1)] at hlength
    have hname := List.length_filter_eq_length_iff.mp hlength.symm (bookFile s).1
      (List.mem_map_of_mem (List.mem_map_of_mem hs))
    exact (isBookName_iff (hsaves s hs).ne (hsaves s hs).slash).mp hname
  · intro hids
    refine ⟨_, loadEntries_bookFile hholds hdistinct hsaves hids now options, ?_,
      sortBooks_perm _⟩
    apply pairwise_sortBooks
    rw [List.map_map]
    exact hdistinct

/-- Two books that are saved in the wrong order, one with other metadata, the other with an
identifier that has the ending of texts in its middle. -/
theorem loadBooks_saveBooks_iff_twoBooks :
    ∃ saved, saveBooks {} ⟨"/"⟩ [({ nanos := 2 }, { id := "b", items := .ofList [("i",
        { extra := .ofList [("n", .array [.number (.integer (-1))])] })] }),
        ({ nanos := 1 }, { id := "a.fulltext.b" })] = .ok saved ∧
      ∃ books, loadBooks saved { nanos := 3 } {} ⟨"/"⟩ = .ok books ∧
        (books.Pairwise fun a b => a.id < b.id) ∧
        books.Perm [{ id := "b", status := .missing, items := .ofList [("i",
          { extra := .ofList [("n", .array [.number (.integer (-1))])] })] },
          { id := "a.fulltext.b", status := .missing }] := by
  have hfirst : Book.IsStorable { id := "b", items := .ofList [("i",
      { extra := .ofList [("n", .array [.number (.integer (-1))])] })] } := by
    refine ⟨⟨by decide, by decide, by decide⟩, ?_, by decide⟩
    intro e he
    refine ⟨.object [(some "n", .array [.number (some (.integer (-1)))])], ?_⟩
    rw [List.mem_singleton.mp he]
    rfl
  have hsecond : Book.IsStorable { id := "a.fulltext.b" } := by
    refine ⟨⟨by decide, by decide, by decide⟩, ?_, by decide⟩
    intro e he
    exact absurd he List.not_mem_nil
  obtain ⟨saved, hsaved, hiff⟩ := @loadBooks_saveBooks_iff {} ⟨"/"⟩ rfl rfl
    [({ nanos := 2 }, _), ({ nanos := 1 }, _)] (by decide)
    (List.forall_mem_cons.mpr ⟨hfirst, List.forall_mem_singleton.mpr hsecond⟩) { nanos := 3 } {}
  exact ⟨saved, hsaved, hiff.mpr (by decide)⟩

/-- A book whose file counts as a file of texts is saved but not loaded. -/
theorem loadBooks_saveBooks_lost :
    let now : Time := { nanos := 0 }
    ∃ saved, saveBooks {} ⟨"/"⟩ [(now, { id := "a.fulltext" })] = .ok saved ∧
      loadBooks saved now {} ⟨"/"⟩ = .ok [] := by
  intro now
  obtain ⟨l, hroot⟩ := @Tree.exists_holds_nil {} ⟨"/"⟩ rfl rfl
  have hname : Book.HasFileName { id := "a.fulltext" } := ⟨by decide, by decide, by decide⟩
  obtain ⟨saved, hsave, hholds⟩ := @saveBooks_holds _ _ _ _ hroot [(now, { id := "a.fulltext" })]
    (List.forall_mem_singleton.mpr hname) (List.nodup_singleton _)
  have hfilter : ["a.fulltext.json"].filter isBookName = [] := by decide
  have hload : loadEntries saved now {} ⟨"/"⟩ ["a.fulltext.json"] = .ok (sortBooks []) := by
    rw [loadEntries, hfilter]
    rfl
  refine ⟨saved, hsave, ?_⟩
  rw [loadBooks_of_holds hholds]
  refine hload.trans ?_
  rw [sortBooks, List.mergeSort_nil]

end ArchiveSearch
