import ArchiveSearch.Proofs.Book.Candidates
import ArchiveSearch.Proofs.Query.Entries
import ArchiveSearch.Proofs.Search.Order
import ArchiveSearch.Search.Basic
import Mathlib

/-! # What a search returns

A search returns, for every book in the scope of a query, exactly the records of the book that
the query asks for, each of them once. They stand in the order of the sort keys, and in that of
the hierarchy where no key tells them apart. It makes no difference whether books are searched
side by side.
-/

namespace ArchiveSearch

open Query

namespace Query

/-! ## Rules -/

/-- Whether a record passes a rule. What is ruled out must not fit, and what is asked for must,
all of it or, for a text that is compared as a whole, one of it. A date must be there, and of a
flag it only counts whether it is asked for or ruled out at all. -/
def Rule.Passes (r : Record) : Rule → Prop
  | .text field patterns =>
      (∀ p ∈ patterns.excluded, p.occursIn (r.text field) = false) ∧
        match field.fit with
        | .anywhere => ∀ p ∈ patterns.included, p.occursIn (r.text field) = true
        | .whole => patterns.included = [] ∨
            ∃ p ∈ patterns.included, p.occursIn (r.text field) = true
  | .date field ranges =>
      ∃ time, r.time? field = some time ∧ time ≠ "" ∧
        (∀ range ∈ ranges.excluded, ¬(range.first ≤ time ∧ time ≤ range.last)) ∧
        ∀ range ∈ ranges.included, range.first ≤ time ∧ time ≤ range.last
  | .flag field marks =>
      (marks.included ≠ [] → r.flag field = true) ∧ (marks.excluded ≠ [] → r.flag field = false)

theorem Selection.holdTime_iff {ranges : Selection DateRange} {time? : Option String} :
    ranges.holdTime time? = true ↔ ∃ time, time? = some time ∧ time ≠ "" ∧
      (∀ range ∈ ranges.excluded, ¬(range.first ≤ time ∧ time ≤ range.last)) ∧
      ∀ range ∈ ranges.included, range.first ≤ time ∧ time ≤ range.last := by
  cases time? with
  | none => simp [holdTime]
  | some time =>
      simp only [holdTime, DateRange.contains, Bool.and_eq_true, Bool.not_eq_true',
        List.any_eq_false, List.all_eq_true, decide_eq_true_eq, Option.some.injEq, exists_eq_left',
        and_assoc]

theorem Selection.agreeWith_iff {marks : Selection Unit} {flag : Bool} :
    marks.agreeWith flag = true ↔
      (marks.included ≠ [] → flag = true) ∧ (marks.excluded ≠ [] → flag = false) := by
  obtain ⟨included, excluded⟩ := marks
  cases included <;> cases excluded <;> cases flag <;> simp [agreeWith]

theorem Selection.allOccur_iff {patterns : Selection Pattern} {text : String} :
    patterns.allOccur text = true ↔ (∀ p ∈ patterns.excluded, p.occursIn text = false) ∧
      ∀ p ∈ patterns.included, p.occursIn text = true := by
  simp [allOccur]

theorem Selection.anyOccurs_iff {patterns : Selection Pattern} {text : String} :
    patterns.anyOccurs text = true ↔ (∀ p ∈ patterns.excluded, p.occursIn text = false) ∧
      (patterns.included = [] ∨ ∃ p ∈ patterns.included, p.occursIn text = true) := by
  simp [anyOccurs]

theorem Rule.isMet_iff {rule : Rule} {r : Record} : rule.isMet r = true ↔ rule.Passes r := by
  cases rule with
  | text field patterns =>
      simp only [isMet, Passes]
      cases hfit : field.fit with
      | anywhere => exact Selection.allOccur_iff
      | whole => exact Selection.anyOccurs_iff
  | date field ranges => exact Selection.holdTime_iff
  | flag field marks => exact Selection.agreeWith_iff

theorem Field.mem_all (f : Field) : f ∈ Field.all := by
  obtain f | f | f := f <;> cases f <;> decide

/-- A record matches if it has metadata and passes the rule of every field that has one. -/
theorem isMatch_iff {q : Query} {r : Record} : q.isMatch r = true ↔
    r.metadata.isSome ∧ ∀ f rule, q.rule? f = some rule → rule.Passes r := by
  simp only [isMatch, matchesRules, Bool.and_eq_true, List.all_eq_true, rules, List.mem_filterMap,
    Rule.isMet_iff]
  refine and_congr_right fun _ => ⟨fun h f rule hrule => ?_, fun h rule hmem => ?_⟩
  · exact h rule ⟨f, Field.mem_all f, hrule⟩
  · obtain ⟨f, -, hrule⟩ := hmem
    exact h f rule hrule

/-! ## One book -/

/-- Whether a query asks for a record of a book: one whose item is in the scope of the roots, and
which passes the rule of every field that has one. -/
structure Finds (q : Query) (b : Book) (r : Record) : Prop where
  holds : b.Holds r
  inScope : b.contents.InScope q.roots r.id
  passes : ∀ f rule, q.rule? f = some rule → rule.Passes r

/-- The item and the file that a record is about. -/
def place (r : Record) : String × String := (r.id, r.file)

/-- Whether records are what a query asks for in a book: every record once and nothing else, in the
order of the sort keys, and in that of the hierarchy where no key tells them apart. -/
structure Answers (q : Query) (b : Book) (records : List Record) : Prop where
  finds_of_mem : ∀ r ∈ records, q.Finds b r
  mem_of_finds : ∀ r, q.Finds b r → r ∈ records
  count_place : ∀ r, q.Finds b r → (records.map place).count (place r) = 1
  inOrder : records.Pairwise (InOrder q.sorts)
  before_of_ties : records.Pairwise fun x y =>
    (∀ key ∈ q.sorts, key.Ties x y) → b.Before q.roots x y

variable {q : Query} {b : Book}

theorem mem_searchBook_iff {r : Record} : r ∈ searchBook q b ↔ q.Finds b r := by
  rw [searchBook, (sortBy_perm _ _).mem_iff, List.mem_filter, Book.mem_candidates_iff, isMatch_iff]
  constructor
  · rintro ⟨⟨hscope, hholds⟩, -, hpasses⟩
    exact ⟨hholds, hscope, hpasses⟩
  · rintro ⟨hholds, hscope, hpasses⟩
    exact ⟨⟨hscope, hholds⟩, hholds.metadata.1, hpasses⟩

/-- Searching a book lists no place twice. -/
theorem nodup_places_searchBook : ((searchBook q b).map place).Nodup := by
  have hperm := (sortBy_perm q.sorts ((b.candidates q.roots).filter q.isMatch)).map place
  refine hperm.nodup_iff.mpr (List.pairwise_map.mpr ?_)
  exact ((Book.pairwise_candidates q.roots).filter _).imp Book.Before.place_ne

/-- Searching a book gives what the query asks for. -/
theorem answers_searchBook (q : Query) (b : Book) : q.Answers b (searchBook q b) where
  finds_of_mem _ hr := mem_searchBook_iff.mp hr
  mem_of_finds _ hr := mem_searchBook_iff.mpr hr
  count_place r hr := by
    refine List.count_eq_one_of_mem nodup_places_searchBook ?_
    exact List.mem_map_of_mem (mem_searchBook_iff.mpr hr)
  inOrder := pairwise_sortBy _ _
  before_of_ties := pairwise_sortBy_of_ties ((Book.pairwise_candidates q.roots).filter _)

-- Two items stand under each other, and the second has two segments.
example :
    let b := ({ name := "loop" } : Book).addItem rootId "a" {}
      |>.addItem "a" "b" {}
      |>.addItem "b" "a" {}
      |>.addSegment "b" "2.html" "second page"
      |>.addSegment "b" "1.html" "first page"
    (searchBook { sorts := [⟨.metadata "title", true⟩] } b).map place =
      [("a", ""), ("b", "1.html"), ("b", "2.html")] := by cbv

/-! ## All books -/

/-- Whether a query searches a book. -/
def Searches (q : Query) (b : Book) : Prop :=
  b.hasNoTree = false ∧ (q.books.included = [] ∨ b.name ∈ q.books.included) ∧
    b.name ∉ q.books.excluded

instance (q : Query) (b : Book) : Decidable (q.Searches b) :=
  inferInstanceAs (Decidable (_ ∧ _ ∧ _))

theorem covers_iff : q.covers b = true ↔ q.Searches b := by
  simp [covers, Scope.admits, Searches]

theorem booksInScope_eq (q : Query) (books : List Book) :
    booksInScope q books = books.filter (q.Searches ·) := by
  refine List.filter_congr fun b _ => ?_
  rw [Bool.eq_iff_iff, covers_iff, decide_eq_true_iff]

end Query

/-- Working on the two halves of a list side by side gives the same as going through it. -/
theorem mapInHalves_eq_map {α β : Type} (f : α → β) (entries : List α) :
    mapInHalves f entries = entries.map f := by
  induction entries using mapInHalves.induct with
  | case1 entries hshort => rw [mapInHalves, if_pos hshort]
  | case2 entries hlong half ihtake ihdrop =>
      rw [mapInHalves, if_neg hlong]
      change mapInHalves f (entries.take half) ++ mapInHalves f (entries.drop half) = _
      rw [ihtake, ihdrop, ← List.map_append, List.take_append_drop]

theorem search_eq_of_isValid {q : Query} (hvalid : q.errors = []) (books : List Book)
    (parallel : Bool) :
    search q books parallel =
      .ok ((books.filter (q.Searches ·)).map fun b => ⟨b, searchBook q b⟩) := by
  have hcheck : q.isValid = true := by rw [isValid, hvalid]; rfl
  rw [search, if_pos hcheck]
  simp only [mapInHalves_eq_map, ite_self, booksInScope_eq]

theorem search_eq_of_not_isValid {q : Query} (hinvalid : q.errors ≠ []) (books : List Book)
    (parallel : Bool) :
    search q books parallel = .error (.invalidQuery (q.errors.map TermError.message)) := by
  have hcheck : ¬q.isValid = true := by simpa [isValid] using hinvalid
  rw [search, if_neg hcheck]
  rfl

/-- What is reported of tokens stands behind what is reported of the tokens before them. -/
theorem Query.Reader.errors_prefix (r : Reader) (tokens more : List Token) :
    (r.readTokens tokens).errors <+: (r.readTokens (tokens ++ more)).errors := by
  rw [r.readTokens_eq, r.readTokens_eq, Entry.ofTokens_append]
  simp only [ofEntries, List.filterMap_append]
  exact List.prefix_append _ _

/-- A search with a query whose terms could all be used answers for every book that the query
searches, in the order of the books, whether they are searched side by side or not. With any other
query it reports all terms that could not be used, in the order in which they were read. -/
theorem search_answers (q : Query) (books : List Book) (parallel : Bool) :
    (q.errors = [] → ∃ results, search q books parallel = .ok results ∧
      results.map (·.book) = books.filter (q.Searches ·) ∧
      ∀ result ∈ results, q.Answers result.book result.records) ∧
    (q.errors ≠ [] →
      search q books parallel = .error (.invalidQuery (q.errors.map TermError.message))) ∧
    ∀ (r : Reader) (tokens more : List Token),
      (r.readTokens tokens).errors <+: (r.readTokens (tokens ++ more)).errors := by
  refine ⟨fun hvalid => ?_, fun hinvalid => search_eq_of_not_isValid hinvalid books parallel,
    Reader.errors_prefix⟩
  refine ⟨_, search_eq_of_isValid hvalid books parallel, ?_, ?_⟩
  · rw [List.map_map]
    exact List.map_id _
  intro result hresult
  obtain ⟨b, -, rfl⟩ := List.mem_map.mp hresult
  exact answers_searchBook q b

set_option maxRecDepth 1000 in
/-- Two books are searched and a third one is not, for a word in the titles, without notes and
without what lies under one item. The segments of an item are put in order backwards. A query with
dates that cannot be used is not run. -/
theorem search_answers_twoBooks :
    let q := ({ zone := .utc } : Reader).read
      "-book:drafts -root:c title:page -type:note sort:type -sort:file"
    let first := ({ name := "first" } : Book).addItem rootId "a" { title := "Page one" }
      |>.addItem "a" "b" { title := "page two" }
      |>.addItem "b" "a" { title := "Page one" }
      |>.addItem "b" "c" { title := "page three" }
      |>.addSegment "a" "1.html" "x"
      |>.addSegment "a" "2.html" "y"
      |>.addSegment "b" "1.html" "z"
    let drafts : Book := { first with name := "drafts" }
    let second := ({ name := "second" } : Book)
      |>.addItem rootId "d" { title := "pages", type := "text" }
      |>.addItem "d" "n" { title := "pages", type := "note" }
      |>.addItem rootId "e" { title := "pages" }
      |>.addSegment "d" "p" "x"
      |>.addSegment "d" "q" "y"
    (∃ results, search q [first, drafts, second] true = .ok results ∧
      results.map (·.book) = [first, drafts, second].filter (q.Searches ·) ∧
      (∀ result ∈ results, q.Answers result.book result.records) ∧
      results.map (fun result => (result.book.name, result.records.map place)) =
        [("first", [("a", "2.html"), ("a", "1.html"), ("b", "1.html")]),
          ("second", [("e", ""), ("d", "q"), ("d", "p")])]) ∧
    search (({ zone := .utc } : Reader).read "create:2020/01 title:page -modify:x") [first] true =
      .error (.invalidQuery ["invalid date: 2020/01", "invalid date: x"]) := by
  intro q first drafts second
  have hvalid : q.errors = [] := by decide +kernel
  have hinvalid : (({ zone := .utc } : Reader).read "create:2020/01 title:page -modify:x").errors =
      [.invalidDate "2020/01", .invalidDate "x"] := by
    decide +kernel
  have hsorts : q.sorts = [⟨.metadata "type", true⟩, ⟨.file, false⟩] := by decide +kernel
  have hscope : [first, drafts, second].filter (q.Searches ·) = [first, second] := by
    have hfirst : q.Searches first := by decide +kernel
    have hdrafts : ¬q.Searches drafts := by decide +kernel
    have hsecond : q.Searches second := by decide +kernel
    simp [hfirst, hdrafts, hsecond]
  have hfirst : (searchBook q first).map place =
      [("a", "2.html"), ("a", "1.html"), ("b", "1.html")] := by
    have hmatches : (first.candidates q.roots).filter q.isMatch =
        [⟨"a", "1.html", some { title := "Page one" }, some ⟨some "x"⟩⟩,
          ⟨"a", "2.html", some { title := "Page one" }, some ⟨some "y"⟩⟩,
          ⟨"b", "1.html", some { title := "page two" }, some ⟨some "z"⟩⟩] := by
      dsimp only [q, first]
      cbv
    have hfiles : Ord.compare "1.html" "2.html" = .lt := by decide
    have hfiles' : Ord.compare "2.html" "1.html" = .gt := by decide
    rw [searchBook, hmatches, hsorts]
    simp [sortBy, List.mergeSort, List.MergeSort.Internal.splitInTwo, compareBy,
      SortKey.compare, Record.sortText, Metadata.field?, place, hfiles, hfiles']
  have hsecond : (searchBook q second).map place = [("e", ""), ("d", "q"), ("d", "p")] := by
    have hmatches : (second.candidates q.roots).filter q.isMatch =
        [⟨"d", "p", some { title := "pages", type := "text" }, some ⟨some "x"⟩⟩,
          ⟨"d", "q", some { title := "pages", type := "text" }, some ⟨some "y"⟩⟩,
          ⟨"e", "", some { title := "pages" }, none⟩] := by
      dsimp only [q, second]
      cbv
    have hfiles : Ord.compare "p" "q" = .lt := by decide
    have htypes : Ord.compare "text" "" = .gt := by decide
    rw [searchBook, hmatches, hsorts]
    simp [sortBy, List.mergeSort, List.MergeSort.Internal.splitInTwo, compareBy,
      SortKey.compare, Record.sortText, Metadata.field?, place, hfiles, htypes]
  constructor
  · obtain ⟨results, hsearch, hbooks, hanswers⟩ :=
      (search_answers q [first, drafts, second] true).1 hvalid
    refine ⟨results, hsearch, hbooks, hanswers, ?_⟩
    have heval := search_eq_of_isValid hvalid [first, drafts, second] true
    rw [hsearch, hscope] at heval
    rw [Except.ok.inj heval]
    simp only [List.map_cons, List.map_nil, hfirst, hsecond]
    rfl
  · obtain ⟨-, hreports, -⟩ :=
      search_answers
        (({ zone := .utc } : Reader).read "create:2020/01 title:page -modify:x") [first] true
    rw [hreports (by simp [hinvalid]), hinvalid]
    rfl

end ArchiveSearch
