import ArchiveSearch.Query.Reader

/-! # Entries of a query

Every token amounts to one entry: a term, a sort key, a name for a scope, new settings, or a
report. Only the settings pass from one token to the next. A query that has been read is the
collection of its entries, sorted by their kinds, so a rule holds the terms on its field in the
order of their tokens, although it was taken out of its table and put back for each of them.
-/

namespace ArchiveSearch.Query

/-! ## Selections -/

namespace Selection

variable {α : Type}

theorem push_ofSigned (entries : List (Bool × α)) (positive : Bool) (entry : α) :
    (ofSigned entries).push positive entry = ofSigned (entries ++ [(positive, entry)]) := by
  cases positive <;> simp [push, ofSigned]

theorem eq_of_isEmpty {s t : Selection α} (hs : s.isEmpty = true) (ht : t.isEmpty = true) :
    s = t := by
  obtain ⟨included, excluded⟩ := s
  obtain ⟨included', excluded'⟩ := t
  simp_all [isEmpty]

theorem isEmpty_ofSigned (entries : List (Bool × α)) :
    (ofSigned entries).isEmpty = entries.isEmpty := by
  cases entries with
  | nil => rfl
  | cons entry rest =>
      obtain ⟨positive, entry⟩ := entry
      cases positive <;> simp [isEmpty, ofSigned]

end Selection

/-! ## Rules and their tables -/

/-- The field that a test looks at. -/
def Test.field : Test → Field
  | .text f _ => .text f
  | .date f _ => .date f
  | .flag f => .flag f

theorem Test.field_of_ofValue {zone : Calendar.Zone} {mode : PatternMode} {value : String}
    {f : Field} {test : Test} (h : Test.ofValue zone mode value f = .ok test) : test.field = f := by
  cases f with
  | text f =>
      simp only [Test.ofValue] at h
      split at h
      next => cases h; rfl
      next => cases h
  | date f =>
      simp only [Test.ofValue] at h
      split at h
      next => cases h; rfl
      next => cases h
  | flag f => cases h; rfl

namespace Term

variable {t : Term}

theorem patternFor?_of_ne {f : TextField} (h : t.test.field ≠ .text f) :
    t.patternFor? f = none := by
  obtain ⟨positive, test⟩ := t
  cases test with
  | text g pattern => exact if_neg fun heq => h (congrArg Field.text heq)
  | _ => rfl

theorem rangeFor?_of_ne {f : DateField} (h : t.test.field ≠ .date f) : t.rangeFor? f = none := by
  obtain ⟨positive, test⟩ := t
  cases test with
  | date g range => exact if_neg fun heq => h (congrArg Field.date heq)
  | _ => rfl

theorem markFor?_of_ne {f : FlagField} (h : t.test.field ≠ .flag f) : t.markFor? f = none := by
  obtain ⟨positive, test⟩ := t
  cases test with
  | flag g => exact if_neg fun heq => h (congrArg Field.flag heq)
  | _ => rfl

end Term

namespace Rule

variable {terms : List Term} {t : Term} {f : Field}

theorem add_ofTerms (terms : List Term) (t : Term) (f : Field) :
    (ofTerms terms f).add t = ofTerms (terms ++ [t]) f := by
  cases f with
  | text f =>
      cases h : t.patternFor? f <;> simp [ofTerms, add, h, Selection.push_ofSigned]
  | date f =>
      cases h : t.rangeFor? f <;> simp [ofTerms, add, h, Selection.push_ofSigned]
  | flag f =>
      cases h : t.markFor? f <;> simp [ofTerms, add, h, Selection.push_ofSigned]

/-- A term on one field leaves the rules of all others as they are. -/
theorem ofTerms_append_of_ne (h : t.test.field ≠ f) :
    ofTerms (terms ++ [t]) f = ofTerms terms f := by
  rw [← add_ofTerms]
  cases f with
  | text f => simp [ofTerms, add, Term.patternFor?_of_ne h]
  | date f => simp [ofTerms, add, Term.rangeFor?_of_ne h]
  | flag f => simp [ofTerms, add, Term.markFor?_of_ne h]

theorem isEmpty_ofTerms_append (h : t.test.field = f) :
    (ofTerms (terms ++ [t]) f).isEmpty = false := by
  obtain ⟨positive, test⟩ := t
  subst h
  cases test <;> simp [ofTerms, isEmpty, Selection.isEmpty_ofSigned, Test.field, Term.patternFor?,
    Term.rangeFor?, Term.markFor?]

theorem ofTerms_of_isEmpty (h : (ofTerms terms f).isEmpty = true) :
    ofTerms terms f = ofTerms [] f := by
  cases f with
  | text f => exact congrArg (text f) (Selection.eq_of_isEmpty h rfl)
  | date f => exact congrArg (date f) (Selection.eq_of_isEmpty h rfl)
  | flag f => exact congrArg (flag f) (Selection.eq_of_isEmpty h rfl)

end Rule

namespace RuleTable

/-- The table of the rules that terms amount to. -/
def ofTerms (terms : List Term) : RuleTable where
  find? f := if (Rule.ofTerms terms f).isEmpty then none else some (Rule.ofTerms terms f)
  field_of_find? f rule h := by
    split at h
    next => cases h
    next =>
      cases h
      exact Rule.field_ofTerms terms f
  isEmpty_of_find? f rule h := by
    split at h
    next => cases h
    next hempty =>
      cases h
      exact Bool.not_eq_true _ ▸ hempty

variable {terms : List Term} {t : Term} {f : Field}

theorem ruleOf_ofTerms (terms : List Term) (f : Field) :
    (ofTerms terms).ruleOf f = Rule.ofTerms terms f := by
  unfold ruleOf ofTerms
  dsimp only
  split
  next hempty => exact (Rule.ofTerms_of_isEmpty hempty).symm
  next => rfl

/-- Putting a rule back as it was taken out changes nothing. -/
theorem insert_erase_ofTerms (terms : List Term) (f : Field) :
    ((ofTerms terms).erase f).insert (Rule.ofTerms terms f) = ofTerms terms := by
  ext1
  funext g
  unfold insert erase ofTerms
  by_cases hg : g = f
  · subst hg
    split <;> simp_all
  · split <;> simp [hg]

/-- Putting a rule back with a further term gives the table of one term more. -/
theorem insert_erase_ofTerms_append (h : t.test.field = f) :
    ((ofTerms terms).erase f).insert (Rule.ofTerms (terms ++ [t]) f) = ofTerms (terms ++ [t]) := by
  have hfilled : (Rule.ofTerms (terms ++ [t]) f).isEmpty = false :=
    Rule.isEmpty_ofTerms_append h
  ext1
  funext g
  unfold insert erase ofTerms
  by_cases hg : g = f
  · subst hg
    simp [hfilled]
  · have hne : t.test.field ≠ g := fun heq => hg (heq.symm.trans h)
    simp [hfilled, hg, Rule.ofTerms_append_of_ne hne]

end RuleTable

/-! ## Entries -/

/-- What a token amounts to. -/
inductive Entry where
  | term (t : Term)
  | sort (key : SortKey)
  | book (positive : Bool) (name : String)
  | root (positive : Bool) (id : String)
  | settings (s : Settings)
  | error (e : TermError)
  | unknown (name : String)

namespace Entry

/-- The entry of a command. -/
def ofCommand (zone : Calendar.Zone) (s : Settings) (positive : Bool) (value : String) :
    Command → Entry
  | .bareName => settings { s with bareName := value }
  | .matchCase => settings { s with mode := { s.mode with caseSensitive := positive } }
  | .useRegex => settings { s with mode := { s.mode with useRegex := positive } }
  | .book => book positive value
  | .root => root positive value
  | .sort => sort ⟨.ofName value, positive⟩
  | .term field =>
      match Test.ofValue zone s.mode value field with
      | .ok test => term ⟨positive, test⟩
      | .error e => error e

/-- The entry of a token under the given settings. -/
def ofToken (zone : Calendar.Zone) (s : Settings) (token : Token) : Entry :=
  match Command.ofName? (s.nameOf token) with
  | some command => ofCommand zone s token.positive token.value command
  | none => unknown (s.nameOf token)

/-- The settings behind an entry. -/
def settingsAfter (s : Settings) : Entry → Settings
  | settings next => next
  | _ => s

def term? : Entry → Option Term
  | term t => some t
  | _ => none

def sortKey? : Entry → Option SortKey
  | sort key => some key
  | _ => none

def book? : Entry → Option (Bool × String)
  | book positive name => some (positive, name)
  | _ => none

def root? : Entry → Option (Bool × String)
  | root positive id => some (positive, id)
  | _ => none

def error? : Entry → Option TermError
  | error e => some e
  | _ => none

def unknown? : Entry → Option String
  | unknown name => some name
  | _ => none

/-- The entries of tokens that come one after the other. -/
def ofTokens (zone : Calendar.Zone) (s : Settings) : List Token → List Entry
  | [] => []
  | token :: rest =>
      ofToken zone s token :: ofTokens zone ((ofToken zone s token).settingsAfter s) rest

/-- Tokens that come later are read under the settings that the earlier ones leave. -/
theorem ofTokens_append (zone : Calendar.Zone) (s : Settings) (first second : List Token) :
    ofTokens zone s (first ++ second) = ofTokens zone s first ++
      ofTokens zone ((ofTokens zone s first).foldl (fun s entry => entry.settingsAfter s) s)
        second := by
  induction first generalizing s with
  | nil => rfl
  | cons token rest ih => rw [List.cons_append, ofTokens, ofTokens, ih, List.foldl_cons,
      List.cons_append]

end Entry

/-- Collects entries to a query; `s` are the settings before the first of them. -/
def ofEntries (s : Settings) (entries : List Entry) : Query where
  table := .ofTerms (entries.filterMap Entry.term?)
  sorts := entries.filterMap Entry.sortKey?
  books := .ofSigned (entries.filterMap Entry.book?)
  roots := .ofSigned (entries.filterMap Entry.root?)
  settings := entries.foldl (fun s entry => entry.settingsAfter s) s
  errors := entries.filterMap Entry.error?
  warnings := (entries.filterMap Entry.unknown?).map unknownCommandMessage

variable {zone : Calendar.Zone} {s : Settings} {entries : List Entry}

/-- What one entry more adds to a query. -/
theorem ofEntries_concat (s : Settings) (entries : List Entry) (entry : Entry) :
    ofEntries s (entries ++ [entry]) = {
      table := .ofTerms (entries.filterMap Entry.term? ++ entry.term?.toList)
      sorts := (ofEntries s entries).sorts ++ entry.sortKey?.toList
      books := .ofSigned (entries.filterMap Entry.book? ++ entry.book?.toList)
      roots := .ofSigned (entries.filterMap Entry.root? ++ entry.root?.toList)
      settings := entry.settingsAfter (ofEntries s entries).settings
      errors := (ofEntries s entries).errors ++ entry.error?.toList
      warnings := (ofEntries s entries).warnings ++
        entry.unknown?.toList.map unknownCommandMessage } := by
  have hone : ∀ {α : Type} (f : Entry → Option α), [entry].filterMap f = (f entry).toList := by
    intro α f
    cases h : f entry <;> simp [h]
  simp only [ofEntries, List.filterMap_append, hone, List.foldl_append, List.foldl_cons,
    List.foldl_nil, List.map_append]

/-- Trying a term adds it to the rule of its field, or reports it and leaves all rules alone. -/
theorem addTerm_ofEntries (positive : Bool) (value : String) (field : Field) :
    addTerm zone positive value field (ofEntries s entries) =
      ofEntries s (entries ++
        [Entry.ofCommand zone (ofEntries s entries).settings positive value (.term field)]) := by
  have hrule : (ofEntries s entries).table.ruleOf field =
      Rule.ofTerms (entries.filterMap Entry.term?) field := RuleTable.ruleOf_ofTerms _ _
  rw [ofEntries_concat]
  unfold addTerm
  cases htest : Test.ofValue zone (ofEntries s entries).settings.mode value field with
  | ok test =>
      have htable : ((ofEntries s entries).table.erase field).insert
            (Rule.ofTerms (entries.filterMap Entry.term? ++ [⟨positive, test⟩]) field) =
          .ofTerms (entries.filterMap Entry.term? ++ [⟨positive, test⟩]) :=
        RuleTable.insert_erase_ofTerms_append (Test.field_of_ofValue htest)
      simp only [Entry.ofCommand, htest, hrule, Rule.add_ofTerms, htable]
      simp [ofEntries, Entry.term?, Entry.sortKey?, Entry.book?, Entry.root?, Entry.error?,
        Entry.unknown?, Entry.settingsAfter]
  | error e =>
      -- The rule goes back as it was, which leaves a trace only in the reports.
      have htable : ((ofEntries s entries).table.erase field).insert
            (Rule.ofTerms (entries.filterMap Entry.term?) field) = (ofEntries s entries).table :=
        RuleTable.insert_erase_ofTerms _ _
      simp only [Entry.ofCommand, htest, hrule, htable]
      simp [ofEntries, Entry.term?, Entry.sortKey?, Entry.book?, Entry.root?, Entry.error?,
        Entry.unknown?, Entry.settingsAfter]

/-- Taking a token adds its entry. -/
theorem take_ofEntries (token : Token) :
    (ofEntries s entries).take zone token =
      ofEntries s (entries ++ [Entry.ofToken zone (ofEntries s entries).settings token]) := by
  unfold Query.take Entry.ofToken
  cases hcommand : Command.ofName? ((ofEntries s entries).settings.nameOf token) with
  | none =>
      rw [ofEntries_concat]
      simp [ofEntries, Entry.term?, Entry.sortKey?, Entry.book?, Entry.root?, Entry.error?,
        Entry.unknown?, Entry.settingsAfter]
  | some command =>
      cases command with
      | term field => exact addTerm_ofEntries token.positive token.value field
      | bareName | matchCase | useRegex | book | root | sort =>
          dsimp only
          rw [ofEntries_concat]
          simp [follow, ofEntries, Entry.ofCommand, Entry.term?, Entry.sortKey?, Entry.book?,
            Entry.root?, Entry.error?, Entry.unknown?, Entry.settingsAfter,
            Selection.push_ofSigned]

/-- Taking tokens one after the other adds their entries. -/
theorem foldl_take_ofEntries (tokens : List Token) :
    tokens.foldl (Query.take zone) (ofEntries s entries) =
      ofEntries s (entries ++ Entry.ofTokens zone (ofEntries s entries).settings tokens) := by
  induction tokens generalizing entries with
  | nil => rw [List.foldl_nil, Entry.ofTokens, List.append_nil]
  | cons token rest ih =>
      have hsettings (entry : Entry) : (ofEntries s (entries ++ [entry])).settings =
          entry.settingsAfter (ofEntries s entries).settings := by rw [ofEntries_concat]
      rw [List.foldl_cons, take_ofEntries, ih, hsettings, List.append_assoc]
      rfl

/-- A query that has been read is the collection of its entries. -/
theorem Reader.readTokens_eq (r : Reader) (tokens : List Token) :
    r.readTokens tokens = ofEntries r.settings (Entry.ofTokens r.zone r.settings tokens) := by
  have hempty : ({ settings := r.settings } : Query) = ofEntries r.settings [] := by
    unfold ofEntries
    congr 1
    ext1
    funext f
    cases f <;> rfl
  rw [readTokens, hempty, foldl_take_ofEntries]
  rfl

end ArchiveSearch.Query
