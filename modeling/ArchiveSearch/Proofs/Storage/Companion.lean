import ArchiveSearch.Proofs.Storage.Saved
import ArchiveSearch.Proofs.Storage.Texts
import ArchiveSearch.Proofs.Storage.Writing

/-! # A book and its texts that are saved apart

The file of the texts is named after the identifier of a book when it is saved, and after the stem
of the name of the book's file when it is loaded. Both are the same entry of the directory, so a
book that is saved together with texts under its identifier is loaded with these texts, whichever
was saved first. No other identifier leads to that entry.
-/

namespace ArchiveSearch

open ArchiveSearch.Path (IsEntryName)

/-! ## Texts that are saved under names -/

section Saving

variable {t saved : Tree} {now : Time} {directory p : Path} {name other text : String}

theorem at?_of_saveText (h : saveText t now directory name text = .ok (p, saved)) :
    saved.at? (directory.join name) = some (.file ⟨text.toUTF8, now⟩) := by
  obtain ⟨-, made, -, hwrite⟩ := saveText_eq_ok_iff.mp h
  exact Tree.at?_of_writeFile hwrite

/-- What is saved under one name leaves what is found under another one. -/
theorem at?_of_saveText_of_ne {n : Node} (hne : other ≠ name) (hother : IsEntryName other.toList)
    (hname : IsEntryName name.toList) (hat : t.at? (directory.join other) = some n)
    (h : saveText t now directory name text = .ok (p, saved)) :
    saved.at? (directory.join other) = some n := by
  obtain ⟨-, made, hmade, hwrite⟩ := saveText_eq_ok_iff.mp h
  have hkept := (Tree.extends_makeDirectory hmade).at? hat
  exact Tree.at?_of_writeFile_of_ne hne hother hname hkept hwrite

/-- Two texts can be saved one after the other under different names. -/
theorem exists_saveText_saveText {l : Location} {other text' : String} (hne : other ≠ name)
    (hdirectory : t.locate? directory = some l) (hnode : t.node? l = some .directory)
    (hentry : IsEntryName name.toList) (hname : Path.isName name.toList = true)
    (hfree : t.node? (l ++ [name]) ≠ some .directory) (hentry' : IsEntryName other.toList)
    (hname' : Path.isName other.toList = true) (hfree' : t.node? (l ++ [other]) ≠ some .directory)
    (now now' : Time) :
    ∃ saved both, saveText t now directory name text = .ok (directory.join name, saved) ∧
      saveText saved now' directory other text' = .ok (directory.join other, both) := by
  have hplace : l ++ [name] ≠ [] := Tree.ne_nil_of_node?_ne hfree
  have hself : l ≠ l ++ [name] := by simp
  have hother : l ++ [other] ≠ l ++ [name] := by simpa using hne
  refine ⟨_, _, saveText_eq_put hdirectory hnode hentry hname hfree,
    saveText_eq_put (l := l) ?_ ?_ hentry' hname' ?_⟩
  · rw [Tree.locate?_put_file hfree, hdirectory]
  · rw [Tree.node?_put hplace, if_neg hself, hnode]
  · rw [Tree.node?_put hplace, if_neg hother]
    exact hfree'

end Saving

/-! ## A book and its texts -/

/-- A book has been saved at a path, and the texts of another one next to it, one after the
other. -/
inductive SavedInTurn (t : Tree) (directory : Path) (b c : Book) (p : Path) (both : Tree) : Prop
  | bookFirst {now now' : Time} {q : Path} {saved : Tree}
      (hbook : saveBook t now directory b = .ok (p, saved))
      (htexts : saveTexts saved now' directory c = .ok (q, both))
  | textsFirst {now now' : Time} {q : Path} {saved : Tree}
      (htexts : saveTexts t now directory c = .ok (q, saved))
      (hbook : saveBook saved now' directory b = .ok (p, both))

section Companion

variable {t both : Tree} {directory p : Path} {b c : Book} {id : String}

theorem bookName_ne_textsName (id : String) : id ++ ".json" ≠ id ++ textsSuffix := by
  intro heq
  have hsuffix := (String.append_right_inj id).mp heq
  exact absurd hsuffix (by decide)

/-- Whether a directory is there that takes a book and its texts: their names are not too long, and
no directory has one of them. -/
def Tree.Takes (t : Tree) (directory : Path) (id : String) : Prop :=
  ∃ l, t.locate? directory = some l ∧ t.node? l = some .directory ∧
    Path.isName (id ++ textsSuffix).toList = true ∧
    t.node? (l ++ [id ++ ".json"]) ≠ some .directory ∧
    t.node? (l ++ [id ++ textsSuffix]) ≠ some .directory

/-- The name of the file of texts is the longer one. -/
theorem isName_book (h : Path.isName (id ++ textsSuffix).toList = true) :
    Path.isName (id ++ ".json").toList = true := by
  unfold Path.isName at h ⊢
  rw [Bool.and_eq_true, decide_eq_true_eq, String.ofList_toList] at h ⊢
  obtain ⟨hchars, hsize⟩ := h
  rw [String.utf8ByteSize_append] at hsize ⊢
  constructor
  · have hchars : '\x00' ∉ id.toList ∧ '\x00' ∉ textsSuffix.toList := by simpa using hchars
    simpa using hchars.1
  · have hsuffix : ".json".utf8ByteSize ≤ textsSuffix.utf8ByteSize := by decide
    omega

/-- Where both are taken, they can be saved in either order. -/
theorem exists_saved (h : t.Takes directory b.id) (hslash : '/' ∉ b.id.toList) (hid : c.id = b.id)
    (now now' : Time) :
    (∃ p q saved both, saveBook t now directory b = .ok (p, saved) ∧
      saveTexts saved now' directory c = .ok (q, both)) ∧
    ∃ p q saved both, saveTexts t now directory c = .ok (q, saved) ∧
      saveBook saved now' directory b = .ok (p, both) := by
  obtain ⟨l, hdirectory, hnode, hname, hbook, htexts⟩ := h
  have hbookName := isEntryName_book hslash
  have htextsName := isEntryName_texts hslash
  have hne := bookName_ne_textsName b.id
  simp only [saveBook, saveTexts, hid]
  constructor
  · obtain ⟨saved, both, hfirst, hsecond⟩ := exists_saveText_saveText hne.symm hdirectory hnode
      hbookName (isName_book hname) hbook htextsName hname htexts now now'
    exact ⟨_, _, saved, both, hfirst, hsecond⟩
  · obtain ⟨saved, both, hfirst, hsecond⟩ := exists_saveText_saveText hne hdirectory hnode
      htextsName hname htexts hbookName (isName_book hname) hbook now now'
    exact ⟨_, _, saved, both, hfirst, hsecond⟩

/-- Both files are there in the end, whichever was saved first. -/
theorem SavedInTurn.exists_files (h : SavedInTurn t directory b c p both)
    (hslash : '/' ∉ b.id.toList) (hid : c.id = b.id) :
    p = directory.join (b.id ++ ".json") ∧
      (∃ now, both.file? p = some ⟨b.json.indentedText.toUTF8, now⟩) ∧
      ∃ now, both.file? (directory.join (b.id ++ textsSuffix)) =
        some ⟨(Texts.json c.texts).compactText.toUTF8, now⟩ := by
  have hbookName := isEntryName_book hslash
  have htextsName := isEntryName_texts hslash
  have hne := bookName_ne_textsName b.id
  cases h with
  | bookFirst hbook htexts =>
      obtain ⟨rfl, -⟩ := saveText_eq_ok_iff.mp hbook
      rw [saveTexts, hid] at htexts
      have hat := at?_of_saveText_of_ne hne hbookName htextsName (at?_of_saveText hbook) htexts
      have hatTexts := at?_of_saveText htexts
      exact ⟨rfl, ⟨_, Tree.file?_of_at? hat⟩, ⟨_, Tree.file?_of_at? hatTexts⟩⟩
  | textsFirst htexts hbook =>
      obtain ⟨rfl, -⟩ := saveText_eq_ok_iff.mp hbook
      rw [saveTexts, hid] at htexts
      have hat := at?_of_saveText hbook
      have hatTexts :=
        at?_of_saveText_of_ne hne.symm htextsName hbookName (at?_of_saveText htexts) hbook
      exact ⟨rfl, ⟨_, Tree.file?_of_at? hat⟩, ⟨_, Tree.file?_of_at? hatTexts⟩⟩

/-- The file of texts that is looked for is the one that is saved under the identifier. -/
theorem locate?_textsPath (t : Tree) (directory : Path) (hne : id ≠ "") (hslash : '/' ∉ id.toList) :
    t.locate? (textsPath (directory.join (id ++ ".json"))) =
      t.locate? (directory.join (id ++ textsSuffix)) := by
  rw [textsPath_join directory hne hslash,
    t.locate?_withFileName directory (isEntryName_book hslash) (isEntryName_texts hslash)]

theorem components_textsPath (directory : Path) (hne : id ≠ "") (hslash : '/' ∉ id.toList) :
    (textsPath (directory.join (id ++ ".json"))).components =
      (directory.join (id ++ textsSuffix)).components := by
  rw [textsPath_join directory hne hslash,
    directory.components_withFileName (isEntryName_book hslash) (isEntryName_texts hslash)]

/-- The book is loaded with the texts that were saved next to it. -/
theorem SavedInTurn.exists_loadBook (h : SavedInTurn t directory b c p both) (hne : b.id ≠ "")
    (hslash : '/' ∉ b.id.toList) (hid : c.id = b.id)
    (hread : Book.ofText? b.json.indentedText = some { b with status := .current }) (now : Time)
    {options : LoadOptions} (hlimit : options.sizeLimit = none) :
    ∃ status, loadBook both now options p = .ok { b with texts := c.texts, status } := by
  obtain ⟨rfl, ⟨_, hfile⟩, ⟨_, htexts⟩⟩ := h.exists_files hslash hid
  rw [← Tree.file?_congr (locate?_textsPath both directory hne hslash)] at htexts
  generalize b.json.indentedText = text at hread hfile
  have hbook : Book.ofBytes? text.toUTF8 = some { b with status := .current } := by
    rw [Book.ofBytes?, Tree.fromUTF8?_toUTF8, Option.bind_some, hread]
  have hdocument : readDocument both (textsPath (directory.join (b.id ++ ".json"))) Texts.ofText? =
      .ok c.texts := by
    apply readDocument_eq_ok htexts
    rw [Tree.fromUTF8?_toUTF8, Option.bind_some,
      Texts.ofText?_compactText (Texts.isJson_json c.texts)]
  have hblocks (texts : File) : ¬options.Blocks texts := by
    rintro ⟨limit, hsome, -⟩
    rw [hlimit] at hsome
    cases hsome
  rw [loadBook_eq hfile hbook, htexts]
  simp only [loadTexts_of_not_blocks hfile (hblocks _), hdocument]
  exact ⟨_, rfl⟩

/-- Different identifiers lead to different files of texts, in whatever directories. -/
theorem textsPath_ne {id id' : String} (hne : id ≠ "") (hne' : id' ≠ "") (hslash : '/' ∉ id.toList)
    (hslash' : '/' ∉ id'.toList) (hid : id' ≠ id) (directory directory' : Path) :
    (textsPath (directory'.join (id' ++ ".json"))).components ≠
        (textsPath (directory.join (id ++ ".json"))).components ∧
      ∀ (t : Tree) (l : Location),
        t.locate? (textsPath (directory'.join (id' ++ ".json"))) = some l →
          t.locate? (textsPath (directory.join (id ++ ".json"))) ≠ some l := by
  have hname := isEntryName_texts hslash
  have hname' := isEntryName_texts hslash'
  have hnames : id' ++ textsSuffix ≠ id ++ textsSuffix := by
    intro heq
    exact hid ((String.append_left_inj textsSuffix).mp heq)
  constructor
  · intro heq
    rw [components_textsPath directory hne hslash, components_textsPath directory' hne' hslash',
      Path.components_eq, Path.components_eq, directory.route_join hname,
      directory'.route_join hname'] at heq
    have hroute := congrArg List.getLast? (Prod.ext_iff.mp heq).2
    rw [List.getLast?_concat, List.getLast?_concat] at hroute
    exact hnames (String.toList_inj.mp (Option.some.inj hroute))
  · intro t l hlocate' hlocate
    rw [locate?_textsPath t directory' hne' hslash'] at hlocate'
    rw [locate?_textsPath t directory hne hslash] at hlocate
    have hlast := Tree.getLast?_of_locate?_join hname hlocate
    rw [Tree.getLast?_of_locate?_join hname' hlocate'] at hlast
    exact hnames (Option.some.inj hlast)

end Companion

/-- A book and the texts that are saved under its identifier find each other. The file of the texts
is the one that is looked for next to the file of the book, so the book is loaded with these texts,
whichever of the two was saved first, and a directory that takes both lets either be the first. No
other identifier shares this file. -/
theorem saved_texts_found (directory : Path) {b c : Book} (hne : b.id ≠ "")
    (hslash : '/' ∉ b.id.toList) (hid : c.id = b.id)
    (hread : Book.ofText? b.json.indentedText = some { b with status := .current }) :
    (∀ t t' now now' p q saved saved', saveBook t now directory b = .ok (p, saved) →
      saveTexts t' now' directory c = .ok (q, saved') →
      q.components = (textsPath p).components ∧
        ∀ u : Tree, u.locate? q = u.locate? (textsPath p)) ∧
    (∀ t : Tree, t.Takes directory b.id → ∀ now now',
      (∃ p q saved both, saveBook t now directory b = .ok (p, saved) ∧
        saveTexts saved now' directory c = .ok (q, both)) ∧
      ∃ p q saved both, saveTexts t now directory c = .ok (q, saved) ∧
        saveBook saved now' directory b = .ok (p, both)) ∧
    (∀ t p both, SavedInTurn t directory b c p both →
      ∀ (now : Time) (options : LoadOptions), options.sizeLimit = none →
        ∃ status, loadBook both now options p = .ok { b with texts := c.texts, status }) ∧
    ∀ (directory' : Path) (id' : String), id' ≠ "" → '/' ∉ id'.toList → id' ≠ b.id →
      (textsPath (directory'.join (id' ++ ".json"))).components ≠
          (textsPath (directory.join (b.id ++ ".json"))).components ∧
        ∀ (u : Tree) (l : Location),
          u.locate? (textsPath (directory'.join (id' ++ ".json"))) = some l →
            u.locate? (textsPath (directory.join (b.id ++ ".json"))) ≠ some l := by
  refine ⟨?_, ?_, ?_, ?_⟩
  · intro t t' now now' p q saved saved' hbook htexts
    obtain ⟨rfl, -⟩ := saveText_eq_ok_iff.mp hbook
    obtain ⟨rfl, -⟩ := saveText_eq_ok_iff.mp htexts
    rw [hid]
    refine ⟨(components_textsPath directory hne hslash).symm, ?_⟩
    intro u
    exact (locate?_textsPath u directory hne hslash).symm
  · intro t h now now'
    exact exists_saved h hslash hid now now'
  · intro t p both h now options hlimit
    exact h.exists_loadBook hne hslash hid hread now hlimit
  · intro directory' id' hne' hslash' hother
    exact textsPath_ne hne hne' hslash hslash' hother directory directory'

/-- An identifier of points only, in a directory that is given with slashes at its end and is not
there yet. The path that is looked for is not written like the one that was saved. -/
theorem saved_texts_found_points :
    let b : Book := { id := "..", name := "B" }
    let c : Book := { id := "..", texts := .ofList [("i", .ofList [("p", ⟨some "x"⟩)])] }
    let now : Time := { nanos := 0 }
    ∃ p q saved both, saveTexts {} now ⟨"/lib//"⟩ c = .ok (q, saved) ∧
      saveBook saved now ⟨"/lib//"⟩ b = .ok (p, both) ∧
      q.text ≠ (textsPath p).text ∧ q.components = (textsPath p).components ∧
      ∃ status, loadBook both now {} p = .ok { b with texts := c.texts, status } := by
  intro b c now
  have hread : Book.ofText? b.json.indentedText = some { b with status := .current } := by
    refine Book.Kept.ofText?_indentedText ?_ ?_ b.isJson_json
    · intro e he
      exact absurd he List.not_mem_nil
    · decide
  obtain ⟨hpath, -, hload, -⟩ :=
    @saved_texts_found ⟨"/lib//"⟩ b c (by decide) (by decide) rfl hread
  let texts : File := ⟨(Texts.json c.texts).compactText.toUTF8, now⟩
  let made : Tree := { nodes := [(["lib"], .directory)] }
  let saved (f : File) : Tree := made.put ["lib", "...fulltext.json"] (.file f)
  let both (f g : File) : Tree := (saved f).put ["lib", "...json"] (.file g)
  have hwrite (f : File) :
      made.writeFile (Path.join ⟨"/lib//"⟩ (".." ++ textsSuffix)) f = .ok (saved f) := rfl
  have hwrite' (f g : File) :
      (saved f).writeFile (Path.join ⟨"/lib//"⟩ (".." ++ ".json")) g = .ok (both f g) := rfl
  have htexts : saveTexts {} now ⟨"/lib//"⟩ c = .ok (_, saved texts) :=
    saveText_eq_ok_iff.mpr ⟨rfl, made, rfl, hwrite texts⟩
  have hbook : saveBook (saved texts) now ⟨"/lib//"⟩ b = .ok (_, both texts _) :=
    saveText_eq_ok_iff.mpr ⟨rfl, saved texts, rfl, hwrite' texts _⟩
  refine ⟨_, _, _, _, htexts, hbook, by decide, ?_, ?_⟩
  · exact (hpath _ _ _ _ _ _ _ _ hbook htexts).1
  · exact hload _ _ _ (.textsFirst htexts hbook) now {} rfl

end ArchiveSearch
