import ArchiveSearch.Proofs.Query.Positions
import ArchiveSearch.Proofs.Search.Answers
import ArchiveSearch.Proofs.Search.Conjunction
import ArchiveSearch.Proofs.Token.Written
import Mathlib.Algebra.Ring.Parity

/-! # One term more

A term behind other tokens keeps, of the records that they match, those that it holds for. It holds
for a record that has what it looks for or, if it is ruled out, for one with a value that has not.
So dashes in front of a query of one term count by their parity alone: an odd number of them turns
the query into its complement, whatever the field, and an even number changes nothing.
-/

namespace ArchiveSearch

open Query

/-- Whether a record has the value that a field stands for. A text that is missing is empty and a
flag that is missing is not set, but a time has to be there. -/
def Record.hasValue (x : Record) : Field → Bool
  | .date f => (x.time? f).any (· ≠ "")
  | .text _ | .flag _ => true

namespace Query

/-! ## A single entry of a selection -/

namespace Selection

theorem allOccur_singleton (positive : Bool) (p : Pattern) (text : String) :
    (ofSigned [(positive, p)]).allOccur text = (p.occursIn text == positive) := by
  cases positive <;> simp [allOccur, ofSigned]

/-- With one pattern it does not matter whether one or all of those asked for have to occur. -/
theorem anyOccurs_singleton (positive : Bool) (p : Pattern) (text : String) :
    (ofSigned [(positive, p)]).anyOccurs text = (p.occursIn text == positive) := by
  cases positive <;> simp [anyOccurs, ofSigned]

theorem holdTime_singleton (positive : Bool) (range : DateRange) (time : Option String) :
    (ofSigned [(positive, range)]).holdTime time =
      (time.any (· ≠ "") && time.any range.contains == positive) := by
  cases time with
  | none => rfl
  | some time => cases positive <;> simp [holdTime, ofSigned]

theorem agreeWith_singleton (positive flag : Bool) :
    (ofSigned [(positive, ())]).agreeWith flag = (flag == positive) := by
  cases positive <;> cases flag <;> rfl

end Selection

/-! ## What a term asks of a record -/

/-- Whether a record has what a test looks for. -/
def Test.isFound (x : Record) : Test → Bool
  | .text f pattern => pattern.occursIn (x.text f)
  | .date f range => (x.time? f).any range.contains
  | .flag f => x.flag f

/-- Whether a term holds for a record: its field has a value, and what it looks for is found there if
and only if it is asked for. -/
def Term.holds (x : Record) (t : Term) : Bool :=
  x.hasValue t.test.field && t.test.isFound x == t.positive

namespace Rule

/-- The rule of one term is met if the term holds. -/
theorem isMet_ofTerms_singleton (t : Term) (x : Record) :
    (ofTerms [t] t.test.field).isMet x = t.holds x := by
  obtain ⟨positive, test⟩ := t
  cases test with
  | text f pattern =>
      have hrule : ofTerms [⟨positive, .text f pattern⟩] (.text f) =
          .text f (.ofSigned [(positive, pattern)]) := by simp [ofTerms, Term.patternFor?]
      change (ofTerms _ (.text f)).isMet x = (true && pattern.occursIn (x.text f) == positive)
      rw [hrule, isMet, Bool.true_and]
      cases f.fit with
      | anywhere => exact Selection.allOccur_singleton positive pattern (x.text f)
      | whole => exact Selection.anyOccurs_singleton positive pattern (x.text f)
  | date f range =>
      have hrule : ofTerms [⟨positive, .date f range⟩] (.date f) =
          .date f (.ofSigned [(positive, range)]) := by simp [ofTerms, Term.rangeFor?]
      change (ofTerms _ (.date f)).isMet x = _
      rw [hrule]
      exact Selection.holdTime_singleton positive range (x.time? f)
  | flag f =>
      have hrule : ofTerms [⟨positive, .flag f⟩] (.flag f) =
          .flag f (.ofSigned [(positive, ())]) := by simp [ofTerms, Term.markFor?]
      change (ofTerms _ (.flag f)).isMet x = (true && x.flag f == positive)
      rw [hrule, Bool.true_and]
      exact Selection.agreeWith_singleton positive (x.flag f)

/-- One term alone lets a record pass on its own field if it holds, and on all others. -/
theorem allows_ofTerms_singleton (t : Term) (x : Record) (f : Field) :
    (ofTerms [t] f).allows x = if f = t.test.field then t.holds x else true := by
  split
  next hf =>
    have hfilled : (ofTerms ([] ++ [t]) f).isEmpty = false := isEmpty_ofTerms_append hf.symm
    rw [List.nil_append] at hfilled
    rw [allows, hfilled, Bool.false_or, hf, isMet_ofTerms_singleton]
  next hf =>
    have hempty : (ofTerms [t] f).isEmpty = true := by
      have hnone : ofTerms ([] ++ [t]) f = ofTerms [] f := ofTerms_append_of_ne (Ne.symm hf)
      rw [List.nil_append] at hnone
      rw [hnone]
      cases f <;> rfl
    rw [allows, hempty, Bool.true_or]

end Rule

/-! ## One token more -/

/-- A condition on one field more. -/
theorem all_and_ite (p : Field → Bool) (f : Field) (b : Bool) :
    (Field.all.all fun g => p g && if g = f then b else true) = (Field.all.all p && b) := by
  rw [Bool.eq_iff_iff]
  simp only [Bool.and_eq_true, List.all_eq_true]
  constructor
  · intro h
    refine ⟨fun g hg => (h g hg).1, ?_⟩
    have hf := (h f (Field.mem_all f)).2
    rwa [if_pos rfl] at hf
  · rintro ⟨hp, hb⟩ g hg
    refine ⟨hp g hg, ?_⟩
    split
    next => exact hb
    next => rfl

namespace Reader

variable {r : Reader} {before : List Token} {token : Token} {f : Field}

/-- A token of a field behind other tokens: its value is used or reported under the settings that
they leave. -/
theorem readTokens_concat (hname : (r.readTokens before).settings.nameOf token = f.name) :
    r.readTokens (before ++ [token]) = ofEntries r.settings
      (Entry.ofTokens r.zone r.settings before ++ [Entry.ofCommand r.zone
        (r.readTokens before).settings token.positive token.value (.term f)]) := by
  have hcommand : Command.ofName? ((r.readTokens before).settings.nameOf token) =
      some (.term f) := Command.ofName?_eq_some_iff.mpr hname
  have hentry : Entry.ofToken r.zone (r.readTokens before).settings token =
      .ofCommand r.zone (r.readTokens before).settings token.positive token.value (.term f) := by
    rw [Entry.ofToken, hcommand]
  rw [← hentry, readTokens_eq, readTokens_eq, Entry.ofTokens_append]
  rfl

/-- A token of a field is reported behind the errors of the tokens in front of it, if at all. -/
theorem errors_readTokens_concat
    (hname : (r.readTokens before).settings.nameOf token = f.name) :
    (r.readTokens (before ++ [token])).errors = (r.readTokens before).errors ++
      (Entry.ofCommand r.zone (r.readTokens before).settings token.positive token.value
        (.term f)).error?.toList := by
  rw [readTokens_concat hname, ofEntries_concat, ← readTokens_eq]

/-- A term more keeps the records that it holds for. On a field that is compared as a whole the
tokens in front of it may not ask for values. -/
theorem isMatch_readTokens_concat {test : Test}
    (hname : (r.readTokens before).settings.nameOf token = f.name)
    (htest : Test.ofValue r.zone (r.readTokens before).settings.mode token.value f = .ok test)
    (hwhole : ∀ g, f = .text g → g.fit = .whole → (r.readTokens before).asksFor g = false)
    (x : Record) : (r.readTokens (before ++ [token])).isMatch x =
      ((r.readTokens before).isMatch x && Term.holds x ⟨token.positive, test⟩) := by
  have hfield : test.field = f := Test.field_of_ofValue htest
  have hentry : Entry.ofCommand r.zone (r.readTokens before).settings token.positive token.value
      (.term f) = .term ⟨token.positive, test⟩ := by simp only [Entry.ofCommand, htest]
  rw [readTokens_concat hname, hentry, readTokens_eq, isMatch_ofEntries, isMatch_ofEntries,
    List.filterMap_append]
  rw [readTokens_eq] at hwhole
  -- The rule of a field is that of the tokens in front, but for the field of the term.
  have hrule (g : Field) :
      (Rule.ofTerms ((Entry.ofTokens r.zone r.settings before).filterMap Entry.term? ++
          [⟨token.positive, test⟩]) g).allows x =
        ((Rule.ofTerms ((Entry.ofTokens r.zone r.settings before).filterMap Entry.term?) g).allows
            x && if g = f then Term.holds x ⟨token.positive, test⟩ else true) := by
    rw [Rule.allows_ofTerms_append, Rule.allows_ofTerms_singleton, hfield]
    intro h hg hfit
    by_cases hf : f = g
    · exact .inl (included_eq_nil_of_asksFor (hwhole h (hf.trans hg) hfit))
    · have hother : (⟨token.positive, test⟩ : Term).test.field ≠ .text h :=
        fun heq => hf (hfield.symm.trans (heq.trans hg.symm))
      exact .inr (by simp [Term.patternFor?_of_ne hother, Selection.ofSigned])
  have hlast : [Entry.term ⟨token.positive, test⟩].filterMap Entry.term? =
      [⟨token.positive, test⟩] := rfl
  simp only [hlast, hrule]
  rw [Bool.and_assoc, all_and_ite]

end Reader

/-! ## Dashes -/

/-- A term as it is written: dashes, the name of its field, and its value in quotes. -/
def termText (dashes : Nat) (f : Field) (value : String) : String :=
  String.ofList (List.replicate dashes '-') ++ f.name ++ ":" ++ quoteTerm value

/-- A value behind dashes, for the field that bare terms go by. -/
def bareText (dashes : Nat) (value : String) : String :=
  String.ofList (List.replicate dashes '-') ++ quoteTerm value

theorem Field.isNamed_name (f : Field) :
    f.name ≠ "" ∧ ∀ c ∈ f.name.toList, c.isAlpha = true := by
  have hletters : f.name.toList.all Char.isAlpha = true := by
    rcases f with f | f | f <;> cases f <;> decide
  refine ⟨?_, List.all_eq_true.mp hletters⟩
  rcases f with f | f | f <;> cases f <;> decide

/-- Dashes are pairs of dashes and one more if they are odd in number. -/
theorem pairs_add_rest (n : Nat) : 2 * (n / 2) + (if n % 2 == 0 then 0 else 1) = n := by
  rcases Nat.mod_two_eq_zero_or_one n with h | h
  · rw [h]
    simp only [beq_self_eq_true, if_true]
    omega
  · rw [h]
    simp only [Nat.reduceBEq, Bool.false_eq_true, if_false]
    omega

theorem tokenize_termText (n : Nat) (f : Field) (value : String) :
    tokenize (termText n f value) = [⟨some f.name, n % 2 == 0, value⟩] := by
  have hnamed : (⟨some f.name, n % 2 == 0, value⟩ : Token).IsNamed := by
    rintro _ ⟨⟩
    exact f.isNamed_name
  have hwritten : termText n f value =
      (⟨some f.name, n % 2 == 0, value⟩ : Token).written { pairs := n / 2 } := by
    simp only [termText, Token.written, pairs_add_rest, Option.elim_some, String.append_assoc]
  rw [hwritten]
  exact Token.scan_written hnamed

theorem tokenize_bareText (n : Nat) (value : String) :
    tokenize (bareText n value) = [⟨none, n % 2 == 0, value⟩] := by
  have hnamed : (⟨none, n % 2 == 0, value⟩ : Token).IsNamed := by
    rintro _ ⟨⟩
  have hwritten : bareText n value =
      (⟨none, n % 2 == 0, value⟩ : Token).written { pairs := n / 2 } := by
    simp only [bareText, Token.written, pairs_add_rest, Option.elim_none, String.append_empty]
  rw [hwritten]
  exact Token.scan_written hnamed

/-- Whether dashes count by their parity. With any number of dashes the same value is reported as an
error, or none is; then an even number of dashes changes nothing, and an odd number exchanges the
records that match and those that do not, among all that have a value of the field. -/
def NegatesByParity (f : Field) (query : Nat → Query) : Prop :=
  (∃ e, ∀ n, (query n).errors = [e]) ∨
    ∀ n, (query n).errors = [] ∧
      ∀ x : Record, x.metadata.isSome = true → x.hasValue f = true →
        ((query n).isMatch x = true ↔
          Even n ∧ (query 0).isMatch x = true ∨ Odd n ∧ (query 0).isMatch x = false)

/-- A query without tokens matches every record that has metadata. -/
theorem Reader.isMatch_readTokens_nil (r : Reader) (x : Record) :
    (r.readTokens []).isMatch x = x.metadata.isSome := by
  rw [readTokens_eq]
  exact Bool.and_true _

/-- A single token of a field matches by the parity of its dashes. -/
theorem Reader.negatesByParity {r : Reader} {command : Option String} {f : Field}
    (hcommand : command.getD r.bareName = f.name) (value : String) :
    NegatesByParity f fun n => r.readTokens [⟨command, n % 2 == 0, value⟩] := by
  have hname (n : Nat) :
      (r.readTokens []).settings.nameOf ⟨command, n % 2 == 0, value⟩ = f.name := hcommand
  have herrors (n : Nat) : (r.readTokens [⟨command, n % 2 == 0, value⟩]).errors =
      (Entry.ofCommand r.zone r.settings (n % 2 == 0) value (.term f)).error?.toList := by
    rw [← List.nil_append [_], errors_readTokens_concat (hname n)]
    rfl
  -- Dashes take no part in reading the value, so it is reported for all numbers of them or for none.
  cases htest : Test.ofValue r.zone r.settings.mode value f with
  | error e =>
      left
      refine ⟨e, ?_⟩
      intro n
      dsimp only
      rw [herrors, Entry.ofCommand, htest]
      rfl
  | ok test =>
      right
      intro n
      refine ⟨?_, ?_⟩
      · dsimp only
        rw [herrors, Entry.ofCommand, htest]
        rfl
      · intro x hmetadata hvalue
        have hmatch (n : Nat) : (r.readTokens [⟨command, n % 2 == 0, value⟩]).isMatch x =
            (test.isFound x == (n % 2 == 0)) := by
          have hread := isMatch_readTokens_concat (hname n) htest (fun _ _ _ => rfl) x
          rw [List.nil_append, isMatch_readTokens_nil, hmetadata, Bool.true_and] at hread
          rw [hread, Term.holds, Test.field_of_ofValue htest, hvalue, Bool.true_and]
        dsimp only
        rw [hmatch, hmatch]
        rcases Nat.even_or_odd n with heven | hodd
        · simp [Nat.even_iff.mp heven, heven, Nat.not_odd_iff_even.mpr heven]
        · simp [Nat.odd_iff.mp hodd, hodd, Nat.not_even_iff_odd.mpr hodd]

/-- Dashes in front of a term count by their parity, on every field and for every value: both with
the name of the field behind them, and with a value for the field that bare terms go by. -/
theorem read_dashes_negate (r : Reader) (f : Field) (value : String) :
    NegatesByParity f (fun n => r.read (termText n f value)) ∧
      NegatesByParity f fun n =>
        ({ r with bareName := f.name } : Reader).read (bareText n value) := by
  constructor
  · simp only [Reader.read, tokenize_termText]
    exact Reader.negatesByParity rfl value
  · simp only [Reader.read, tokenize_bareText]
    exact Reader.negatesByParity rfl value

/-- A record with a time, three dashes in front of a range that holds it, and four in front of the
same range without its field. -/
theorem read_dashes_negate_create :
    let r : Reader := { zone := .utc }
    let x : Record := { id := "x", metadata := some { create := some "20200615120000000" } }
    x.metadata.isSome = true ∧ x.hasValue (.date .create) = true ∧
    (r.read (termText 3 (.date .create) "2020-2021")).isMatch x = false ∧
    (({ r with bareName := "create" } : Reader).read (bareText 4 "2020-2021")).isMatch x = true := by
  intro r x
  have hmetadata : x.metadata.isSome = true := rfl
  have hvalue : x.hasValue (.date .create) = true := by decide
  have hplain : (r.read (termText 0 (.date .create) "2020-2021")).isMatch x = true := by
    decide +kernel
  have hplain' : (({ r with bareName := "create" } : Reader).read
      (bareText 0 "2020-2021")).isMatch x = true := by decide +kernel
  refine ⟨hmetadata, hvalue, ?_, ?_⟩
  · rcases (read_dashes_negate r (.date .create) "2020-2021").1 with ⟨e, herror⟩ | hparity
    · have hnone : (r.read (termText 0 (.date .create) "2020-2021")).errors = [] := by
        decide +kernel
      cases hnone.symm.trans (herror 0)
    · have hthree := (hparity 3).2 x hmetadata hvalue
      simpa [hplain, Nat.not_even_iff_odd.mpr (by decide : Odd 3)] using hthree
  · rcases (read_dashes_negate r (.date .create) "2020-2021").2 with ⟨e, herror⟩ | hparity
    · have hnone : (({ r with bareName := "create" } : Reader).read
          (bareText 0 "2020-2021")).errors = [] := by decide +kernel
      cases hnone.symm.trans (herror 0)
    · exact ((hparity 4).2 x hmetadata hvalue).mpr (.inl ⟨by decide, hplain'⟩)

end Query

end ArchiveSearch
