import ArchiveSearch.Proofs.Query.Entries
import ArchiveSearch.Proofs.Token.Written

/-! # Books and subtrees that are chosen apart from a query

Chosen names are written in front of a query as quoted values of `book` and `root`. The quotes
close before the query begins, whatever the names and the query hold, and the two commands leave
the settings alone. So a chosen name does nothing but to enter the scope that it was chosen for.
-/

namespace ArchiveSearch.Query

variable {zone : Calendar.Zone} {s : Settings}

/-! ## Tokens -/

/-- Names that are written as quoted values of a command read back as they are, and what follows
them is read as if it stood alone. -/
theorem tokenize_intercalate_quoted {command : String} (hne : command ≠ "")
    (hletters : ∀ c ∈ command.toList, c.isAlpha = true) (names parts : List String) :
    tokenize (" ".intercalate (names.map (fun name => command ++ ":" ++ quoteTerm name) ++ parts)) =
      names.map (fun name => ⟨some command, true, name⟩) ++
        tokenize (" ".intercalate parts) := by
  have hnamed (name : String) : (⟨some command, true, name⟩ : Token).IsNamed := by
    rintro _ ⟨⟩
    exact ⟨hne, hletters⟩
  have hwritten (name : String) :
      command ++ ":" ++ quoteTerm name = (⟨some command, true, name⟩ : Token).written {} := by
    simp [Token.written]
  induction names with
  | nil => rfl
  | cons name names ih =>
      rw [List.map_cons, List.cons_append, List.map_cons, List.cons_append, ← ih, hwritten name]
      generalize hrest :
        names.map (fun name => command ++ ":" ++ quoteTerm name) ++ parts = rest
      cases rest with
      | nil =>
          rw [String.intercalate_singleton, String.intercalate_nil]
          unfold tokenize
          rw [Token.scan_written (hnamed name)]
          exact (congrArg _ Token.scan_nil).symm
      | cons next rest =>
          rw [String.intercalate_cons_cons, String.append_assoc]
          unfold tokenize
          rw [String.toList_append, String.toList_append]
          exact Token.scan_written_gap (hnamed name) _

/-- A part of a query that begins with the name of a command is not blank. -/
theorem allBlank_append_eq_false {command : String} (hne : command ≠ "")
    (hletters : ∀ c ∈ command.toList, c.isAlpha = true) (rest : String) :
    Text.allBlank (command ++ rest) = false := by
  obtain ⟨c, letters, hcommand⟩ : ∃ c letters, command.toList = c :: letters :=
    List.exists_cons_of_ne_nil (mt String.toList_eq_nil_iff.mp hne)
  have hc : Text.isBlank c = false := by
    rw [Bool.eq_false_iff]
    intro hblank
    have hletter := hletters c (by simp [hcommand])
    rw [Token.isAlpha_eq_false_of_isBlank hblank] at hletter
    cases hletter
  rw [Text.allBlank, String.toList_append, hcommand, List.cons_append, List.all_cons, hc,
    Bool.false_and]

/-- The tokens of a query that was put together: those of the chosen names, and behind them those
of the parts that are not blank. -/
theorem tokenize_compose (books roots : List String) (always input : String) :
    tokenize (compose books roots always input) =
      books.map (fun name => ⟨some "book", true, name⟩) ++
        (roots.map (fun id => ⟨some "root", true, id⟩) ++
          tokenize (" ".intercalate ([always, input].filter fun part => !Text.allBlank part))) := by
  have hbook : ("book" : String) ≠ "" ∧ ∀ c ∈ "book".toList, c.isAlpha = true :=
    ⟨by decide, List.all_eq_true.mp (by decide)⟩
  have hroot : ("root" : String) ≠ "" ∧ ∀ c ∈ "root".toList, c.isAlpha = true :=
    ⟨by decide, List.all_eq_true.mp (by decide)⟩
  have hkeep {command : String} (hcommand : command ≠ "" ∧ ∀ c ∈ command.toList, c.isAlpha = true)
      (names : List String) :
      (names.map fun name => command ++ ":" ++ quoteTerm name).filter
          (fun part => !Text.allBlank part) =
        names.map fun name => command ++ ":" ++ quoteTerm name := by
    refine List.filter_eq_self.mpr fun part hpart => ?_
    obtain ⟨name, -, rfl⟩ := List.mem_map.mp hpart
    rw [String.append_assoc, allBlank_append_eq_false hcommand.1 hcommand.2, Bool.not_false]
  have hparts : compose books roots always input = " ".intercalate
      (books.map (fun name => "book" ++ ":" ++ quoteTerm name) ++
        (roots.map (fun id => "root" ++ ":" ++ quoteTerm id) ++
          [always, input].filter fun part => !Text.allBlank part)) := by
    rw [← hkeep hbook, ← hkeep hroot, ← List.filter_append, ← List.filter_append,
      ← List.append_assoc]
    rfl
  rw [hparts, tokenize_intercalate_quoted hbook.1 hbook.2,
    tokenize_intercalate_quoted hroot.1 hroot.2]

-- A name that tries to leave its quotes, and an input that leaves one open.
example : tokenize (compose ["a\" root:\"b"] ["\""] " " "\"c") =
    [⟨some "book", true, "a\" root:\"b"⟩, ⟨some "root", true, "\""⟩, ⟨none, true, "c"⟩] := by
  decide +kernel

/-! ## Entries -/

/-- Tokens that leave the settings alone amount to their entries, and those behind them are read
as if they stood alone. -/
theorem Entry.ofTokens_map_append {α : Type} (token : α → Token) (entry : α → Entry)
    (hentry : ∀ a, ofToken zone s (token a) = entry a)
    (hsettings : ∀ a, (entry a).settingsAfter s = s) (as : List α) (rest : List Token) :
    ofTokens zone s (as.map token ++ rest) = as.map entry ++ ofTokens zone s rest := by
  induction as with
  | nil => rfl
  | cons a as ih =>
      rw [List.map_cons, List.cons_append, ofTokens, hentry, hsettings, ih]
      rfl

/-- Entries of chosen books stand in front of the scope of books and change nothing else. -/
theorem ofEntries_books (s : Settings) (books : List String) (entries : List Entry) :
    ofEntries s (books.map (Entry.book true) ++ entries) = { ofEntries s entries with
      books := { (ofEntries s entries).books with
        included := books ++ (ofEntries s entries).books.included } } := by
  induction books with
  | nil => rfl
  | cons name books ih =>
      -- One name more in front of the entries is one more in front of the scope.
      exact congrArg (fun q : Query =>
        { q with books := { q.books with included := name :: q.books.included } }) ih

/-- Entries of chosen subtrees stand in front of the scope of roots and change nothing else. -/
theorem ofEntries_roots (s : Settings) (roots : List String) (entries : List Entry) :
    ofEntries s (roots.map (Entry.root true) ++ entries) = { ofEntries s entries with
      roots := { (ofEntries s entries).roots with
        included := roots ++ (ofEntries s entries).roots.included } } := by
  induction roots with
  | nil => rfl
  | cons id roots ih =>
      exact congrArg (fun q : Query =>
        { q with roots := { q.roots with included := id :: q.roots.included } }) ih

/-- Names that are chosen apart from a query enter their scopes, in front of those that the query
names, and do nothing else. All else is read from the parts of the query that are not blank as if
no names had been chosen, also where these parts leave quotes open. -/
theorem read_compose (r : Reader) (books roots : List String) (always input : String) :
    let query := r.read (" ".intercalate ([always, input].filter fun part => !Text.allBlank part))
    r.read (compose books roots always input) = { query with
      books := { query.books with included := books ++ query.books.included }
      roots := { query.roots with included := roots ++ query.roots.included } } := by
  intro query
  have hquery : query = ofEntries r.settings (Entry.ofTokens r.zone r.settings
      (tokenize (" ".intercalate ([always, input].filter fun part => !Text.allBlank part)))) :=
    r.readTokens_eq _
  rw [Reader.read, tokenize_compose, Reader.readTokens_eq,
    Entry.ofTokens_map_append _ (Entry.book true) (fun _ => rfl) fun _ => rfl,
    Entry.ofTokens_map_append _ (Entry.root true) (fun _ => rfl) fun _ => rfl,
    ofEntries_books, ofEntries_roots, ← hquery]

end ArchiveSearch.Query
