import ArchiveSearch.Proofs.Dictionary
import ArchiveSearch.Proofs.Storage.Tree
import ArchiveSearch.Storage.Load
import Mathlib.Data.List.Perm.Basic

/-! # The order in which a directory is listed

Loading a directory succeeds if every file of a book in it can be loaded. It stops at the first one
that cannot, but whether there is one does not depend on the order of the entries. Then the same
books are loaded, and identifiers that are all different leave only one order for them.
-/

namespace ArchiveSearch

/-! ## Loading one after the other -/

section Lists

variable {α β ε : Type} {load : α → Except ε β} {items : List α}

theorem mapM_eq_ok_iff {results : List β} :
    items.mapM load = .ok results ↔ List.Forall₂ (fun a b => load a = .ok b) items results := by
  induction items generalizing results with
  | nil =>
      rw [List.mapM_nil, List.forall₂_nil_left_iff]
      exact ⟨fun h => (Except.ok.inj h).symm, fun h => h ▸ rfl⟩
  | cons a items ih =>
      rw [List.mapM_cons, List.forall₂_cons_left_iff]
      cases hfirst : load a with
      | error e => simp [bind, Except.bind]
      | ok first =>
          cases hrest : items.mapM load with
          | error e => simp [bind, Except.bind, ← ih, hrest]
          | ok rest => simp [bind, Except.bind, pure, Except.pure, ← ih, hrest, eq_comm]

theorem exists_mapM_eq_ok_iff :
    (∃ results, items.mapM load = .ok results) ↔ ∀ a ∈ items, ∃ b, load a = .ok b := by
  simp only [mapM_eq_ok_iff]
  induction items with
  | nil => simp
  | cons a items ih =>
      rw [List.forall_mem_cons, ← ih]
      constructor
      · rintro ⟨results, hall⟩
        obtain ⟨b, rest, hfirst, hrest, -⟩ := List.forall₂_cons_left_iff.mp hall
        exact ⟨⟨b, hfirst⟩, rest, hrest⟩
      · rintro ⟨⟨b, hfirst⟩, rest, hrest⟩
        exact ⟨b :: rest, .cons hfirst hrest⟩

theorem exists_eq_error_iff {result : Except ε α} :
    (∃ e, result = .error e) ↔ ¬ ∃ a, result = .ok a := by
  cases result <;> simp

end Lists

/-! ## The order of books -/

theorem sortBooks_perm (books : List Book) : (sortBooks books).Perm books :=
  List.mergeSort_perm books _

theorem pairwise_le_sortBooks (books : List Book) :
    (sortBooks books).Pairwise fun a b => a.id ≤ b.id := by
  have hsorted : (sortBooks books).Pairwise fun a b => decide (a.id ≤ b.id) = true := by
    apply List.pairwise_mergeSort
    · intro a b c hab hbc
      exact decide_eq_true (String.le_trans (of_decide_eq_true hab) (of_decide_eq_true hbc))
    · intro a b
      rw [Bool.or_eq_true, decide_eq_true_eq, decide_eq_true_eq]
      exact String.le_total a.id b.id
  exact hsorted.imp of_decide_eq_true

/-- Sorted books with different identifiers ascend strictly. -/
theorem pairwise_sortBooks {books : List Book} (hnodup : (books.map (·.id)).Nodup) :
    (sortBooks books).Pairwise fun a b => a.id < b.id := by
  have hdistinct : (sortBooks books).Pairwise fun a b => a.id ≠ b.id := by
    rw [← List.pairwise_map]
    exact ((sortBooks_perm books).map (·.id)).nodup_iff.mpr hnodup
  refine ((pairwise_le_sortBooks books).and hdistinct).imp ?_
  rintro a b ⟨hle, hne⟩
  by_contra hlt
  exact hne (String.le_antisymm hle (String.not_lt.mp hlt))

/-- Different identifiers leave books only one order. -/
theorem sortBooks_eq_of_perm {books books' : List Book} (h : books.Perm books')
    (hnodup : (books.map (·.id)).Nodup) : sortBooks books = sortBooks books' := by
  have hperm : (sortBooks books).Perm (sortBooks books') :=
    (sortBooks_perm books).trans (h.trans (sortBooks_perm books').symm)
  have hnodup' : (books'.map (·.id)).Nodup := (h.map (·.id)).nodup_iff.mp hnodup
  refine hperm.eq_of_pairwise ?_ (pairwise_sortBooks hnodup) (pairwise_sortBooks hnodup')
  intro a b _ _ hab hba
  exact absurd hba (String.lt_asymm hab)

/-! ## What a load needs -/

/-- Whether an entry of this name is the file of a book: its extension is `json`, and its name does
not end as those of files of texts. -/
def IsBookEntry (name : String) : Prop :=
  (Path.mk name).extension? = some "json" ∧ ¬ textsSuffix.toList <:+ name.toList

theorem isBookName_eq_true_iff {name : String} : isBookName name = true ↔ IsBookEntry name := by
  rw [isBookName, IsBookEntry, Bool.and_eq_true, beq_iff_eq, Bool.not_eq_true', ← Bool.not_eq_true,
    List.isSuffixOf_iff_suffix]

instance (name : String) : Decidable (IsBookEntry name) :=
  decidable_of_iff _ isBookName_eq_true_iff

theorem filter_isBookName (names : List String) :
    names.filter isBookName = names.filter (IsBookEntry ·) :=
  List.filter_congr fun name _ => by simp [← isBookName_eq_true_iff]

section Load

variable {t : Tree} {now : Time} {options : LoadOptions} {directory : Path}

/-- Books that stand for the entries of a directory, one by one. -/
def LoadedFrom (t : Tree) (now : Time) (options : LoadOptions) (directory : Path)
    (names : List String) (books : List Book) : Prop :=
  List.Forall₂ (fun name b => loadBook t now options (directory.join name) = .ok b)
    (names.filter (IsBookEntry ·)) books

theorem loadEntries_eq_ok_iff {names : List String} {books : List Book} :
    loadEntries t now options directory names = .ok books ↔
      ∃ loaded, LoadedFrom t now options directory names loaded ∧ sortBooks loaded = books := by
  simp only [LoadedFrom, ← filter_isBookName, ← mapM_eq_ok_iff]
  rw [loadEntries]
  cases (names.filter isBookName).mapM fun name => loadBook t now options (directory.join name) with
  | error f => simp [bind, Except.bind]
  | ok loaded => simp [bind, Except.bind, pure, Except.pure]

theorem loadBooks_eq_ok_iff {books : List Book} : loadBooks t now options directory = .ok books ↔
    t.isDirectory directory = true ∧ ∃ loaded,
      LoadedFrom t now options directory (t.names directory) loaded ∧
      sortBooks loaded = books := by
  rw [loadBooks, ← loadEntries_eq_ok_iff]
  split <;> simp [*]

/-- A directory can be loaded if it is there and every file of a book in it can be loaded. -/
theorem exists_loadBooks_eq_ok_iff : (∃ books, loadBooks t now options directory = .ok books) ↔
    t.isDirectory directory = true ∧ ∀ name ∈ t.names directory, IsBookEntry name →
      ∃ b, loadBook t now options (directory.join name) = .ok b := by
  have hload : (∃ books, loadBooks t now options directory = .ok books) ↔
      t.isDirectory directory = true ∧ ∃ loaded,
        LoadedFrom t now options directory (t.names directory) loaded := by
    simp only [loadBooks_eq_ok_iff]
    constructor
    · rintro ⟨books, hdirectory, loaded, hloaded, -⟩
      exact ⟨hdirectory, loaded, hloaded⟩
    · rintro ⟨hdirectory, loaded, hloaded⟩
      exact ⟨_, hdirectory, loaded, hloaded, rfl⟩
  simp only [hload, LoadedFrom, ← mapM_eq_ok_iff, exists_mapM_eq_ok_iff, List.mem_filter,
    decide_eq_true_eq, and_imp]

/-- A load fails if the directory is gone or one file of a book in it cannot be loaded. -/
theorem exists_loadBooks_eq_error_iff :
    (∃ f, loadBooks t now options directory = .error f) ↔
      t.isDirectory directory = false ∨ ∃ name ∈ t.names directory, IsBookEntry name ∧
        ∃ f, loadBook t now options (directory.join name) = .error f := by
  simp only [exists_eq_error_iff, exists_loadBooks_eq_ok_iff, not_and_or, Bool.not_eq_true,
    not_forall, exists_prop]

end Load

/-! ## Listings of the same files -/

/-- Whether a tree holds what another one holds, perhaps in another order. -/
structure Tree.Relisted (t u : Tree) : Prop where
  here : t.here = u.here
  nodes : t.nodes.Perm u.nodes

namespace Tree.Relisted

variable {t u : Tree}

theorem node?_eq (h : t.Relisted u) : t.node? = u.node? := by
  funext l
  rw [node?, node?, find?_key_of_perm h.nodes t.once]

theorem locate?_eq (h : t.Relisted u) : t.locate? = u.locate? := by
  funext p
  have hstep : t.step? = u.step? := by
    funext l name
    rw [step?, step?, h.node?_eq]
  rw [locate?, locate?, hstep, start, start, h.here]

theorem at?_eq (h : t.Relisted u) : t.at? = u.at? := by
  funext p
  rw [at?, at?, h.locate?_eq, h.node?_eq]

theorem isDirectory_eq (h : t.Relisted u) : t.isDirectory = u.isDirectory := by
  funext p
  rw [isDirectory, isDirectory, h.at?_eq]

theorem loadBook_eq (h : t.Relisted u) : loadBook t = loadBook u := by
  have hread : t.readText = u.readText := by
    funext p
    rw [readText, readText, h.at?_eq]
  have hfile : t.file? = u.file? := by
    funext p
    rw [file?, file?, h.at?_eq]
  funext now options p
  simp only [loadBook, loadTexts, readDocument, hread, hfile]

theorem names_perm (h : t.Relisted u) (p : Path) : (t.names p).Perm (u.names p) := by
  rw [names, names, h.locate?_eq]
  cases u.locate? p with
  | none => exact .nil
  | some l => exact h.nodes.filterMap _

end Tree.Relisted

section Relisted

variable {t u : Tree} {now : Time} {options : LoadOptions} {directory : Path}

/-- Books of the same entries in another order are the same books in another order. -/
theorem LoadedFrom.perm {names names' : List String} {books books' : List Book}
    (h : LoadedFrom t now options directory names books)
    (h' : LoadedFrom t now options directory names' books') (hnames : names.Perm names') :
    books.Perm books' := by
  refine List.rel_perm_imp ?_ h h' (hnames.filter _)
  intro name b b' hb hb'
  exact Except.ok.inj (hb.symm.trans hb')

theorem LoadedFrom.relisted (h : t.Relisted u) {names : List String} {books : List Book} :
    LoadedFrom t now options directory names books ↔
      LoadedFrom u now options directory names books := by
  rw [LoadedFrom, LoadedFrom, h.loadBook_eq]

theorem exists_loadBooks_relisted (h : t.Relisted u) :
    (∃ books, loadBooks t now options directory = .ok books) ↔
      ∃ books, loadBooks u now options directory = .ok books := by
  simp only [exists_loadBooks_eq_ok_iff, h.isDirectory_eq, h.loadBook_eq,
    (h.names_perm directory).mem_iff]

/-- The books of a directory do not depend on the order in which its entries are listed. -/
theorem loadBooks_relisted (h : t.Relisted u) (now : Time) (options : LoadOptions)
    (directory : Path) :
    ((∃ books, loadBooks t now options directory = .ok books) ↔
      ∃ books, loadBooks u now options directory = .ok books) ∧
    ((∃ f, loadBooks t now options directory = .error f) ↔
      t.isDirectory directory = false ∨ ∃ name ∈ t.names directory, IsBookEntry name ∧
        ∃ f, loadBook t now options (directory.join name) = .error f) ∧
    ∀ books books', loadBooks t now options directory = .ok books →
      loadBooks u now options directory = .ok books' →
      (∃ loaded, LoadedFrom t now options directory (t.names directory) loaded ∧
        books.Perm loaded ∧ books'.Perm loaded) ∧
      ((books.map (·.id)).Nodup → books = books' ∧ books.Pairwise fun a b => a.id < b.id) := by
  refine ⟨exists_loadBooks_relisted h, exists_loadBooks_eq_error_iff, ?_⟩
  intro books books' hload hload'
  obtain ⟨-, loaded, hloaded, rfl⟩ := loadBooks_eq_ok_iff.mp hload
  obtain ⟨-, loaded', hloaded', rfl⟩ := loadBooks_eq_ok_iff.mp hload'
  have hperm : loaded.Perm loaded' :=
    hloaded.perm ((LoadedFrom.relisted h).mpr hloaded') (h.names_perm directory)
  refine ⟨⟨loaded, hloaded, sortBooks_perm loaded, (sortBooks_perm loaded').trans hperm.symm⟩, ?_⟩
  intro hnodup
  have hnodup : (loaded.map (·.id)).Nodup :=
    ((sortBooks_perm loaded).map (·.id)).nodup_iff.mp hnodup
  exact ⟨sortBooks_eq_of_perm hperm hnodup, pairwise_sortBooks hnodup⟩

/-- Two books, texts of one of them and a directory, listed forwards and backwards. -/
theorem loadBooks_relisted_twoBooks :
    let now : Time := { nanos := 0 }
    let book (id : String) : Node := .file ⟨("\x7b\"id\":\"" ++ id ++ "\"\x7d").toUTF8, now⟩
    let entries : List (Location × Node) := [(["b.json"], book "b"), (["notes"], .directory),
      (["a.fulltext.json"], .file ⟨"\x7b\x7d".toUTF8, now⟩), (["a.json"], book "a")]
    let t : Tree := { nodes := entries }
    let u : Tree := { nodes := entries.reverse }
    t.Relisted u ∧ ∃ books, loadBooks t now {} ⟨"/"⟩ = .ok books ∧
      loadBooks u now {} ⟨"/"⟩ = .ok books ∧ (books.map (·.id)).Perm ["b", "a"] ∧
      books.Pairwise fun a b => a.id < b.id := by
  intro now book entries t u
  have h : t.Relisted u := ⟨rfl, (List.reverse_perm entries).symm⟩
  have hids : (((t.names ⟨"/"⟩).filter isBookName).mapM fun name =>
      loadBook t now {} (Path.join ⟨"/"⟩ name)).map (fun books => books.map (·.id)) =
        .ok ["b", "a"] := by
    decide +kernel
  cases hloads : ((t.names ⟨"/"⟩).filter isBookName).mapM fun name =>
      loadBook t now {} (Path.join ⟨"/"⟩ name) with
  | error f =>
      rw [hloads] at hids
      cases hids
  | ok loaded =>
      rw [hloads] at hids
      have hids : loaded.map (·.id) = ["b", "a"] := Except.ok.inj hids
      rw [filter_isBookName, mapM_eq_ok_iff] at hloads
      have hload : loadBooks t now {} ⟨"/"⟩ = .ok (sortBooks loaded) :=
        loadBooks_eq_ok_iff.mpr ⟨by decide, loaded, hloads, rfl⟩
      have hperm : ((sortBooks loaded).map (·.id)).Perm ["b", "a"] :=
        hids ▸ (sortBooks_perm loaded).map (·.id)
      obtain ⟨hsucceeds, -, hsame⟩ := loadBooks_relisted h now {} ⟨"/"⟩
      obtain ⟨books', hload'⟩ := hsucceeds.mp ⟨_, hload⟩
      obtain ⟨-, hdistinct⟩ := hsame _ books' hload hload'
      obtain ⟨rfl, hascending⟩ := hdistinct (hperm.nodup_iff.mpr (by decide))
      exact ⟨h, _, hload, hload', hperm, hascending⟩

end Relisted

end ArchiveSearch
