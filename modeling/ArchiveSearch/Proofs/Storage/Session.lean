import ArchiveSearch.Proofs.Storage.Listing
import ArchiveSearch.Storage.Library
import Mathlib.Data.List.Induction

/-! # Libraries over time

While a library is in use its files may change in any way. It is opened and loaded again at times,
and snapshots of its books are taken. Whatever happens, the books of the library are those of the
last load that succeeded, as a whole, and a load that fails leaves no trace.
-/

namespace ArchiveSearch

/-! ## Opening and loading again -/

namespace Library

variable {t : Tree} {now : Time} {options : LoadOptions} {directory : Path} {l : Library}

theorem open?_eq : Library.open? t now options directory =
    (loadBooks t now options directory).map fun books => { directory, options, books } := by
  rw [Library.open?]
  cases loadBooks t now options directory <;> rfl

theorem reload_eq : l.reload t now = (loadBooks t now l.options l.directory).map fun books =>
    { l with books, reloads := l.reloads + 1 } := by
  rw [reload]
  cases loadBooks t now l.options l.directory <;> rfl

end Library

/-! ## Sessions -/

/-- What may happen while a library is in use. -/
inductive Event where
  /-- Files and directories change, in whatever way. -/
  | change (t : Tree)
  /-- A library is opened, in place of an older one. -/
  | openAt (now : Time) (options : LoadOptions) (directory : Path)
  /-- The library is loaded again. -/
  | reload (now : Time)
  /-- A snapshot of the books is taken, and kept. -/
  | hold

namespace Event

def isOpen : Event → Bool
  | openAt .. => true
  | _ => false

def isReload : Event → Bool
  | reload _ => true
  | _ => false

end Event

/-- The files as they are, the library that is open, and the snapshots that were taken. -/
structure Session where
  tree : Tree := {}
  library : Option Library := none
  held : List (List Book) := []

namespace Session

/-- Takes over a library, if there is one. -/
def take (s : Session) : Except Failure Library → Session
  | .ok l => { s with library := some l }
  | .error _ => s

/-- What an event leads to. -/
def step (s : Session) : Event → Session
  | .change t => { s with tree := t }
  | .openAt now options directory => s.take (Library.open? s.tree now options directory)
  | .reload now =>
      match s.library with
      | some l => s.take (l.reload s.tree now)
      | none => s
  | .hold => { s with held := s.held ++ (s.library.map (·.books)).toList }

/-- What events lead to, one after the other. -/
def run (s : Session) (events : List Event) : Session := events.foldl step s

/-- The books that an event loads, all those of a directory as its files are then. -/
def loaded? (s : Session) : Event → Option (List Book)
  | .openAt now options directory => (loadBooks s.tree now options directory).toOption
  | .reload now =>
      s.library.bind fun l => (loadBooks s.tree now l.options l.directory).toOption
  | _ => none

/-- The events of a session, each with the books that it loads. -/
def log (s : Session) : List Event → List (Event × Option (List Book))
  | [] => []
  | e :: events => (e, s.loaded? e) :: (s.step e).log events

variable (s : Session)

@[simp] theorem run_concat (events : List Event) (e : Event) :
    s.run (events ++ [e]) = (s.run events).step e := by
  simp [run]

@[simp] theorem log_concat (events : List Event) (e : Event) :
    s.log (events ++ [e]) = s.log events ++ [(e, (s.run events).loaded? e)] := by
  induction events generalizing s with
  | nil => rfl
  | cons first events ih =>
      rw [List.cons_append, log, log, ih, List.cons_append]
      rfl

/-- What an event can do to the library: nothing; or books are loaded as a whole, those of a library
that is opened or those of the one that is open. -/
theorem step_cases (e : Event) :
    (s.loaded? e = none ∧ (s.step e).library = s.library) ∨
    (∃ now options directory books, e = .openAt now options directory ∧
      loadBooks s.tree now options directory = .ok books ∧ s.loaded? e = some books ∧
      (s.step e).library = some { directory, options, books }) ∨
    ∃ now l books, e = .reload now ∧ s.library = some l ∧
      loadBooks s.tree now l.options l.directory = .ok books ∧ s.loaded? e = some books ∧
      (s.step e).library = some { l with books, reloads := l.reloads + 1 } := by
  cases e with
  | change t => exact .inl ⟨rfl, rfl⟩
  | hold => exact .inl ⟨rfl, rfl⟩
  | openAt now options directory =>
      simp only [loaded?, step, Library.open?_eq]
      cases hload : loadBooks s.tree now options directory with
      | error f => exact .inl ⟨rfl, rfl⟩
      | ok books => exact .inr (.inl ⟨now, options, directory, books, rfl, hload, rfl, rfl⟩)
  | reload now =>
      simp only [loaded?, step]
      cases hlibrary : s.library with
      | none => exact .inl ⟨rfl, hlibrary⟩
      | some l =>
          simp only [Library.reload_eq, Option.bind_some]
          cases hload : loadBooks s.tree now l.options l.directory with
          | error f => exact .inl ⟨rfl, hlibrary⟩
          | ok books => exact .inr (.inr ⟨now, l, books, rfl, rfl, hload, rfl, rfl⟩)

/-- A load of the library that fails leaves everything as it was. -/
theorem step_reload_of_eq_error {s : Session} {l : Library} {now : Time} {f : Failure}
    (hlibrary : s.library = some l) (h : l.reload s.tree now = .error f) :
    s.step (.reload now) = s := by
  simp only [step, hlibrary, h, take]

/-- The snapshots that were taken stay as they are; further ones come behind them. -/
theorem held_isPrefix_step (e : Event) : s.held <+: (s.step e).held := by
  have htake (result : Except Failure Library) : (s.take result).held = s.held := by
    cases result <;> rfl
  cases e with
  | change t => exact List.prefix_rfl
  | hold => exact List.prefix_append _ _
  | openAt now options directory =>
      rw [step]
      exact htake _ ▸ List.prefix_rfl
  | reload now =>
      rw [step]
      cases s.library with
      | none => exact List.prefix_rfl
      | some l => exact htake _ ▸ List.prefix_rfl

theorem held_isPrefix_run (events : List Event) : s.held <+: (s.run events).held := by
  induction events using List.reverseRecOn with
  | nil => exact List.prefix_rfl
  | append_singleton events e ih =>
      rw [run_concat]
      exact ih.trans (held_isPrefix_step _ e)

/-! ## Sessions and their logs -/

/-- What the library of a session and the log of the session have to do with each other. -/
structure Follows (s : Session) (log : List (Event × Option (List Book))) : Prop where
  /-- The books are those that were loaded last. -/
  current : s.library.map (·.books) = (log.filterMap (·.2)).getLast?
  ordered : ∀ l, s.library = some l → l.books.Pairwise fun a b => a.id ≤ b.id
  /-- The library is where it was opened last, and counts how often it was loaded since then. -/
  opened : ∀ l, s.library = some l → ∃ before now books after,
    log = before ++ (.openAt now l.options l.directory, some books) :: after ∧
    (∀ x ∈ after, x.1.isOpen = true → x.2 = none) ∧
    l.reloads = after.countP fun x => x.1.isReload && x.2.isSome

theorem pairwise_of_loadBooks {t : Tree} {now : Time} {options : LoadOptions} {directory : Path}
    {books : List Book} (h : loadBooks t now options directory = .ok books) :
    books.Pairwise fun a b => a.id ≤ b.id := by
  obtain ⟨-, loaded, -, rfl⟩ := loadBooks_eq_ok_iff.mp h
  exact pairwise_le_sortBooks loaded

variable {s}

theorem Follows.step {log : List (Event × Option (List Book))} (h : s.Follows log) (e : Event) :
    (s.step e).Follows (log ++ [(e, s.loaded? e)]) := by
  rcases s.step_cases e with ⟨hnone, hlibrary⟩ | ⟨now, options, directory, books, rfl, hload, hsome,
    hlibrary⟩ | ⟨now, l, books, rfl, hl, hload, hsome, hlibrary⟩
  · rw [hnone]
    refine ⟨?_, ?_, ?_⟩
    · simpa [hlibrary] using h.current
    · simpa only [hlibrary] using h.ordered
    · intro l hl
      obtain ⟨before, now, books, after, hlog, hopen, hcount⟩ := h.opened l (hlibrary ▸ hl)
      refine ⟨before, now, books, after ++ [(e, none)], by simp [hlog], ?_, by simp [hcount]⟩
      intro x hx hxopen
      rcases List.mem_append.mp hx with hx | hx
      · exact hopen x hx hxopen
      · rw [List.mem_singleton.mp hx]
  · rw [hsome]
    refine ⟨?_, ?_, ?_⟩
    · simp [hlibrary]
    · intro l hl
      rw [hlibrary] at hl
      cases hl
      exact pairwise_of_loadBooks hload
    · intro l hl
      rw [hlibrary] at hl
      cases hl
      exact ⟨log, now, books, [], rfl, fun x hx => absurd hx List.not_mem_nil, rfl⟩
  · rw [hsome]
    refine ⟨?_, ?_, ?_⟩
    · simp [hlibrary]
    · intro l' hl'
      rw [hlibrary] at hl'
      cases hl'
      exact pairwise_of_loadBooks hload
    · intro l' hl'
      rw [hlibrary] at hl'
      cases hl'
      obtain ⟨before, opened, first, after, hlog, hopen, hcount⟩ := h.opened l hl
      refine ⟨before, opened, first, after ++ [(.reload now, some books)], by simp [hlog], ?_, ?_⟩
      · intro x hx hxopen
        rcases List.mem_append.mp hx with hx | hx
        · exact hopen x hx hxopen
        · rw [List.mem_singleton.mp hx] at hxopen
          cases hxopen
      · simp [hcount, Event.isReload]

theorem follows_run (events : List Event) : (run {} events).Follows (log {} events) := by
  induction events using List.reverseRecOn with
  | nil =>
      refine ⟨rfl, ?_, ?_⟩
      · intro l hl
        cases hl
      · intro l hl
        cases hl
  | append_singleton events e ih =>
      rw [run_concat, log_concat]
      exact ih.step e

/-- After any events the books are those of the last load that succeeded, as a whole and ordered by
their identifiers, and as many loads as the library counts have succeeded since it was opened. A
load that fails, which it does if the directory is gone or one file cannot be loaded, changes
nothing; and snapshots stay as they were taken. -/
theorem run_allOrNothing (events : List Event) :
    let s := run {} events
    s.library.map (·.books) = ((log {} events).filterMap (·.2)).getLast? ∧
    (∀ l, s.library = some l →
      (l.books.Pairwise fun a b => a.id ≤ b.id) ∧
      (∃ before now books after,
        log {} events = before ++ (.openAt now l.options l.directory, some books) :: after ∧
        (∀ x ∈ after, x.1.isOpen = true → x.2 = none) ∧
        l.reloads = after.countP fun x => x.1.isReload && x.2.isSome) ∧
      ∀ now, ((∃ f, l.reload s.tree now = .error f) ↔ s.tree.isDirectory l.directory = false ∨
          ∃ name ∈ s.tree.names l.directory, IsBookEntry name ∧
            ∃ f, loadBook s.tree now l.options (l.directory.join name) = .error f) ∧
        ∀ f, l.reload s.tree now = .error f → s.step (.reload now) = s) ∧
    (s.step .hold).held = s.held ++ (s.library.map (·.books)).toList ∧
    ∀ later, s.held <+: (s.run later).held := by
  intro s
  have hfollows := follows_run events
  refine ⟨hfollows.current, ?_, rfl, s.held_isPrefix_run⟩
  intro l hl
  refine ⟨hfollows.ordered l hl, hfollows.opened l hl, ?_⟩
  intro now
  refine ⟨?_, fun f => step_reload_of_eq_error hl⟩
  rw [← exists_loadBooks_eq_error_iff, Library.reload_eq]
  cases loadBooks s.tree now l.options l.directory <;> simp [Except.map]

end Session

end ArchiveSearch
