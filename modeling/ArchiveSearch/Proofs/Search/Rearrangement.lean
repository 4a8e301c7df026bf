import ArchiveSearch.Proofs.Book.Candidates
import ArchiveSearch.Proofs.Query.Positions
import ArchiveSearch.Proofs.Search.Conjunction
import ArchiveSearch.Search.Basic
import Mathlib.Data.List.Perm.Basic

/-! # The same terms in another order

As long as no token changes the settings, every token amounts to the same entry wherever it
stands. Rules and scopes ask only what they hold, not in which order, so rearranged tokens match
the same records, search the same books and pick the same items, and report the same.
-/

namespace ArchiveSearch

namespace Query

/-! ## Rearranged selections -/

namespace Selection

variable {α : Type}

/-- The same entries on both sides, each side in any order. -/
structure Rearranged (s t : Selection α) : Prop where
  included : s.included.Perm t.included
  excluded : s.excluded.Perm t.excluded

theorem rearranged_ofSigned {xs ys : List (Bool × α)} (h : xs.Perm ys) :
    (ofSigned xs).Rearranged (ofSigned ys) := by
  constructor
  · exact h.filterMap _
  · exact h.filterMap _

theorem Rearranged.isEmpty_eq {s t : Selection α} (h : s.Rearranged t) : s.isEmpty = t.isEmpty := by
  rw [isEmpty, isEmpty, h.included.isEmpty_eq, h.excluded.isEmpty_eq]

theorem Rearranged.allOccur_eq {s t : Selection Pattern} (h : s.Rearranged t) (text : String) :
    s.allOccur text = t.allOccur text := by
  rw [allOccur, allOccur, h.included.all_eq, h.excluded.any_eq]

theorem Rearranged.anyOccurs_eq {s t : Selection Pattern} (h : s.Rearranged t) (text : String) :
    s.anyOccurs text = t.anyOccurs text := by
  rw [anyOccurs, anyOccurs, h.included.isEmpty_eq, h.included.any_eq, h.excluded.any_eq]

theorem Rearranged.holdTime_eq {s t : Selection DateRange} (h : s.Rearranged t)
    (time : Option String) : s.holdTime time = t.holdTime time := by
  cases time with
  | none => rfl
  | some time =>
      simp only [holdTime, h.included.all_eq, h.excluded.any_eq]

theorem Rearranged.agreeWith_eq {s t : Selection Unit} (h : s.Rearranged t) (flag : Bool) :
    s.agreeWith flag = t.agreeWith flag := by
  rw [agreeWith, agreeWith, h.included.isEmpty_eq, h.excluded.isEmpty_eq]

end Selection

theorem Scope.admits_rearranged {s t : Scope} (h : s.Rearranged t) (name : String) :
    s.admits name = t.admits name := by
  rw [admits, admits, h.included.isEmpty_eq, h.included.contains_eq, h.excluded.contains_eq]

/-! ## Rearranged terms -/

/-- The rule of a field lets the same records pass, in whatever order its terms come. -/
theorem Rule.allows_ofTerms_perm {terms others : List Term} (h : terms.Perm others) (f : Field)
    (x : Record) : (ofTerms terms f).allows x = (ofTerms others f).allows x := by
  cases f with
  | text g =>
      have hsame := Selection.rearranged_ofSigned (h.filterMap (·.patternFor? g))
      simp only [allows, ofTerms, isEmpty, isMet, hsame.isEmpty_eq, hsame.allOccur_eq,
        hsame.anyOccurs_eq]
  | date g =>
      have hsame := Selection.rearranged_ofSigned (h.filterMap (·.rangeFor? g))
      simp only [allows, ofTerms, isEmpty, isMet, hsame.isEmpty_eq, hsame.holdTime_eq]
  | flag g =>
      have hsame := Selection.rearranged_ofSigned (h.filterMap (·.markFor? g))
      simp only [allows, ofTerms, isEmpty, isMet, hsame.isEmpty_eq, hsame.agreeWith_eq]

/-! ## Rearranged entries -/

theorem isMatch_ofEntries_perm {entries others : List Entry} (s : Settings)
    (h : entries.Perm others) (x : Record) :
    (ofEntries s entries).isMatch x = (ofEntries s others).isMatch x := by
  have hterms := h.filterMap Entry.term?
  rw [isMatch_ofEntries, isMatch_ofEntries]
  congr 2
  funext f
  exact Rule.allows_ofTerms_perm hterms f x

/-- Tokens that leave the settings alone amount to the same entries wherever they stand. -/
theorem Entry.ofTokens_of_settled {zone : Calendar.Zone} {s : Settings} {tokens : List Token}
    (h : ∀ t ∈ tokens, s.nameOf t ∉ ["default", "mc", "re"]) :
    ofTokens zone s tokens = tokens.map (ofToken zone s) := by
  induction tokens with
  | nil => rfl
  | cons token rest ih =>
      have hname := h token List.mem_cons_self
      simp only [List.mem_cons, List.not_mem_nil, or_false, not_or] at hname
      obtain ⟨hdefault, hmc, hre⟩ := hname
      have hsettings : (ofToken zone s token).settingsAfter s = s := by
        rw [settingsAfter_ofToken, if_neg hdefault, if_neg hmc, if_neg hre]
      rw [ofTokens, hsettings, List.map_cons, ih fun t ht => h t (List.mem_cons_of_mem token ht)]

end Query

/-! ## Rearranged scopes -/

open Query

variable {p q : Query}

theorem booksInScope_rearranged (h : p.books.Rearranged q.books) (books : List Book) :
    booksInScope p books = booksInScope q books := by
  have hcovers : p.covers = q.covers := by
    funext b
    rw [Query.covers, Query.covers, Scope.admits_rearranged h]
  rw [booksInScope, booksInScope, hcovers]

theorem mem_starts_rearranged {s t : Scope} (h : s.Rearranged t) {root : String} :
    root ∈ s.starts ↔ root ∈ t.starts := by
  unfold Scope.starts
  rw [h.included.isEmpty_eq]
  split
  · rfl
  · exact h.included.mem_iff

theorem mem_pool_rearranged {s t : Scope} (h : s.Rearranged t) (b : Book) {id : String} :
    id ∈ b.pool s ↔ id ∈ b.pool t := by
  simp only [Book.mem_pool_iff, Contents.InScope, mem_starts_rearranged h, h.excluded.mem_iff]

theorem mem_candidates_rearranged {s t : Scope} (h : s.Rearranged t) (b : Book) {x : Record} :
    x ∈ b.candidates s ↔ x ∈ b.candidates t := by
  simp only [Book.candidates, List.mem_flatMap, mem_pool_rearranged h]

/-! ## Rearranged tokens -/

namespace Query

/-- Without tokens that change the settings, by their commands or because bare terms go by such a
name, the order of the tokens does not matter: it does not change which records match, which books
are searched, which items and records of a book are looked at, and what is reported. -/
theorem Reader.readTokens_perm (r : Reader) {tokens others : List Token}
    (hperm : tokens.Perm others)
    (hsettled : ∀ t ∈ tokens, r.settings.nameOf t ∉ ["default", "mc", "re"]) :
    let p := r.readTokens tokens
    let q := r.readTokens others
    (∀ x, p.isMatch x = q.isMatch x) ∧
    (∀ books, booksInScope p books = booksInScope q books) ∧
    (∀ (b : Book) (id : String), id ∈ b.pool p.roots ↔ id ∈ b.pool q.roots) ∧
    (∀ (b : Book) (x : Record), x ∈ b.candidates p.roots ↔ x ∈ b.candidates q.roots) ∧
    p.errors.Perm q.errors ∧
    p.warnings.Perm q.warnings := by
  have hsettled' : ∀ t ∈ others, r.settings.nameOf t ∉ ["default", "mc", "re"] := by
    intro t ht
    exact hsettled t (hperm.mem_iff.mpr ht)
  have hentries := hperm.map (Entry.ofToken r.zone r.settings)
  simp only [Reader.readTokens_eq, Entry.ofTokens_of_settled hsettled,
    Entry.ofTokens_of_settled hsettled']
  -- All that follows is about the entries, whatever tokens they come from.
  generalize tokens.map (Entry.ofToken r.zone r.settings) = entries at hentries ⊢
  generalize others.map (Entry.ofToken r.zone r.settings) = rearranged at hentries ⊢
  have hbooks := Selection.rearranged_ofSigned (hentries.filterMap Entry.book?)
  have hroots := Selection.rearranged_ofSigned (hentries.filterMap Entry.root?)
  refine ⟨?_, ?_, ?_, ?_, ?_, ?_⟩
  · intro x
    exact isMatch_ofEntries_perm r.settings hentries x
  · intro books
    exact booksInScope_rearranged hbooks books
  · intro b id
    exact mem_pool_rearranged hroots b
  · intro b x
    exact mem_candidates_rearranged hroots b
  · exact hentries.filterMap Entry.error?
  · exact (hentries.filterMap Entry.unknown?).map unknownCommandMessage

/-- Two identifiers, a bare term that is ruled out, a book, a date that cannot be used and a name
that means nothing, from the front and from the back. -/
theorem Reader.readTokens_perm_reverse :
    let r : Reader := {}
    let tokens : List Token := [⟨some "id", true, "a"⟩, ⟨some "id", true, "b"⟩, ⟨none, false, "x"⟩,
      ⟨some "book", true, "B"⟩, ⟨some "create", true, "soon"⟩, ⟨some "author", true, "c"⟩]
    let p := r.readTokens tokens
    let q := r.readTokens tokens.reverse
    tokens.Perm tokens.reverse ∧
    (∀ t ∈ tokens, r.settings.nameOf t ∉ ["default", "mc", "re"]) ∧
    (∀ x, p.isMatch x = q.isMatch x) ∧
    (∀ books, booksInScope p books = booksInScope q books) ∧
    (∀ (b : Book) (id : String), id ∈ b.pool p.roots ↔ id ∈ b.pool q.roots) ∧
    (∀ (b : Book) (x : Record), x ∈ b.candidates p.roots ↔ x ∈ b.candidates q.roots) ∧
    p.errors.Perm q.errors ∧
    p.warnings.Perm q.warnings := by
  intro r tokens p q
  have hperm : tokens.Perm tokens.reverse := tokens.reverse_perm.symm
  have hsettled : ∀ t ∈ tokens, r.settings.nameOf t ∉ ["default", "mc", "re"] := by decide
  exact ⟨hperm, hsettled, r.readTokens_perm hperm hsettled⟩

end Query

end ArchiveSearch
