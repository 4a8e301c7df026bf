import ArchiveSearch.Proofs.Query.Entries
import Mathlib.Data.List.FinRange

/-! # The meaning of a query by the positions of its tokens

What a token means depends on the tokens in front of it in one way only: the last ones that go by
`default`, `mc` and `re` name its field and set the mode of its pattern. The name of a token is
itself such a case, as a bare token may go by `default`. Here the positions are looked at one by
one, without any state, and reading from the left to the right is shown to agree.
-/

namespace ArchiveSearch.Query

/-! ## Names of commands -/

theorem Field.ofName?_eq_some_iff {name : String} {f : Field} :
    Field.ofName? name = some f ↔ name = f.name := by
  constructor
  · intro h
    have hfound := List.find?_some h
    exact (beq_iff_eq.mp hfound).symm
  · rintro rfl
    rcases f with f | f | f <;> cases f <;> rfl

/-- The name of a command. -/
def Command.name : Command → String
  | bareName => "default"
  | matchCase => "mc"
  | useRegex => "re"
  | book => "book"
  | root => "root"
  | sort => "sort"
  | term f => f.name

theorem Command.ofName?_eq_some_iff {name : String} {c : Command} :
    Command.ofName? name = some c ↔ name = c.name := by
  constructor
  · intro h
    unfold Command.ofName? at h
    split_ifs at h with hdefault hmc hre hbook hroot hsort
    · cases h; exact hdefault
    · cases h; exact hmc
    · cases h; exact hre
    · cases h; exact hbook
    · cases h; exact hroot
    · cases h; exact hsort
    · obtain ⟨f, hf, rfl⟩ := Option.map_eq_some_iff.mp h
      exact Field.ofName?_eq_some_iff.mp hf
  · rintro rfl
    cases c with
    | term f => rcases f with f | f | f <;> cases f <;> rfl
    | _ => rfl

/-- Different names have different fields to sort by. -/
theorem SortField.ofName_injective : Function.Injective SortField.ofName := by
  intro name name' h
  unfold ofName at h
  split_ifs at h <;> simp_all

/-! ## The entry of one token -/

namespace Entry

variable {zone : Calendar.Zone} {s : Settings} {token : Token}

theorem ofCommand_term (zone : Calendar.Zone) (s : Settings) (positive : Bool) (value : String)
    (f : Field) : (∃ t, ofCommand zone s positive value (.term f) = term t) ∨
      ∃ e, ofCommand zone s positive value (.term f) = error e := by
  cases h : Test.ofValue zone s.mode value f with
  | ok test => exact .inl ⟨⟨positive, test⟩, by simp only [ofCommand, h]⟩
  | error e => exact .inr ⟨e, by simp only [ofCommand, h]⟩

/-- Entries of a kind that only one command makes, other than terms and errors, come from the tokens
that go by its name. -/
theorem kind_ofToken {α : Type} (kind : Entry → Option α) (c : Command)
    (hterm : ∀ t, kind (term t) = none) (herror : ∀ e, kind (error e) = none)
    (hunknown : ∀ name, kind (unknown name) = none)
    (hother : ∀ d ≠ c, (∀ f, d ≠ .term f) →
      kind (ofCommand zone s token.positive token.value d) = none) :
    kind (ofToken zone s token) =
      if s.nameOf token = c.name then kind (ofCommand zone s token.positive token.value c)
      else none := by
  simp only [← Command.ofName?_eq_some_iff, ofToken]
  cases Command.ofName? (s.nameOf token) with
  | none => simpa using hunknown _
  | some d =>
      by_cases hd : d = c
      · simp [hd]
      · have hnone : kind (ofCommand zone s token.positive token.value d) = none := by
          cases d with
          | term f =>
              obtain ⟨t, h⟩ | ⟨e, h⟩ := ofCommand_term zone s token.positive token.value f
              · exact h ▸ hterm t
              · exact h ▸ herror e
          | _ => exact hother _ hd nofun
        simpa [hd] using hnone

theorem sortKey?_ofToken : (ofToken zone s token).sortKey? =
    if s.nameOf token = "sort" then some ⟨.ofName token.value, token.positive⟩ else none := by
  refine kind_ofToken sortKey? .sort (fun _ => rfl) (fun _ => rfl) (fun _ => rfl) ?_
  intro d hd hterm
  cases d with
  | term f => exact absurd rfl (hterm f)
  | sort => exact absurd rfl hd
  | _ => rfl

theorem book?_ofToken : (ofToken zone s token).book? =
    if s.nameOf token = "book" then some (token.positive, token.value) else none := by
  refine kind_ofToken book? .book (fun _ => rfl) (fun _ => rfl) (fun _ => rfl) ?_
  intro d hd hterm
  cases d with
  | term f => exact absurd rfl (hterm f)
  | book => exact absurd rfl hd
  | _ => rfl

theorem root?_ofToken : (ofToken zone s token).root? =
    if s.nameOf token = "root" then some (token.positive, token.value) else none := by
  refine kind_ofToken root? .root (fun _ => rfl) (fun _ => rfl) (fun _ => rfl) ?_
  intro d hd hterm
  cases d with
  | term f => exact absurd rfl (hterm f)
  | root => exact absurd rfl hd
  | _ => rfl

/-- The term of a token tests the field of its name, if its value can be used there. -/
theorem term?_ofToken : (ofToken zone s token).term? =
    (Field.ofName? (s.nameOf token)).bind fun f =>
      (Test.ofValue zone s.mode token.value f).toOption.map fun test => ⟨token.positive, test⟩ := by
  unfold ofToken
  cases hname : Field.ofName? (s.nameOf token) with
  | some f =>
      have hcommand : Command.ofName? (s.nameOf token) = some (.term f) :=
        Command.ofName?_eq_some_iff.mpr (Field.ofName?_eq_some_iff.mp hname)
      rw [hcommand]
      cases h : Test.ofValue zone s.mode token.value f <;>
        simp [ofCommand, h, term?, Except.toOption]
  | none =>
      cases hcommand : Command.ofName? (s.nameOf token) with
      | none => rfl
      | some c =>
          cases c with
          | term f =>
              have hf := Field.ofName?_eq_some_iff.mpr (Command.ofName?_eq_some_iff.mp hcommand)
              simp [hname] at hf
          | _ => rfl

/-- What is taken from the terms on one field comes from the tokens that go by its name. -/
theorem bind_term?_ofToken {α : Type} (pick : Term → Option α) (f : Field)
    (hother : ∀ t : Term, t.test.field ≠ f → pick t = none) :
    (ofToken zone s token).term?.bind pick =
      if s.nameOf token = f.name then
        ((Test.ofValue zone s.mode token.value f).toOption.map fun test =>
          (⟨token.positive, test⟩ : Term)).bind pick
      else none := by
  rw [term?_ofToken]
  simp only [← Field.ofName?_eq_some_iff]
  cases Field.ofName? (s.nameOf token) with
  | none => rfl
  | some g =>
      by_cases hg : g = f
      · rw [if_pos (congrArg some hg), hg]
        rfl
      · rw [if_neg fun h => hg (Option.some.inj h), Option.bind_some]
        cases htest : Test.ofValue zone s.mode token.value g with
        | error e => rfl
        | ok test => exact hother ⟨_, test⟩ fun h => hg ((Test.field_of_ofValue htest).symm.trans h)

/-- The pattern that a token adds to the rule of a text field, if it goes by its name. -/
theorem patternFor?_ofToken (f : TextField) :
    (ofToken zone s token).term?.bind (Term.patternFor? f) =
      if s.nameOf token = f.name then
        (Pattern.ofTerm? s.mode f.fit token.value).map (token.positive, ·)
      else none := by
  rw [bind_term?_ofToken _ (.text f) fun _ => Term.patternFor?_of_ne]
  cases h : Pattern.ofTerm? s.mode f.fit token.value <;>
    simp [Test.ofValue, h, Except.toOption, Term.patternFor?, Field.name]

/-- The range that a token adds to the rule of a date field, if it goes by its name. -/
theorem rangeFor?_ofToken (f : DateField) :
    (ofToken zone s token).term?.bind (Term.rangeFor? f) =
      if s.nameOf token = f.name then
        (DateRange.ofTerm? zone token.value).map (token.positive, ·)
      else none := by
  rw [bind_term?_ofToken _ (.date f) fun _ => Term.rangeFor?_of_ne]
  cases h : DateRange.ofTerm? zone token.value <;>
    simp [Test.ofValue, h, Except.toOption, Term.rangeFor?, Field.name]

/-- The mark that a token adds to the rule of a flag, if it goes by its name. -/
theorem markFor?_ofToken (f : FlagField) :
    (ofToken zone s token).term?.bind (Term.markFor? f) =
      if s.nameOf token = f.name then some (token.positive, ()) else none := by
  rw [bind_term?_ofToken _ (.flag f) fun _ => Term.markFor?_of_ne]
  simp [Test.ofValue, Except.toOption, Term.markFor?, Field.name]

/-- A token changes one of the settings, if it goes by its name. -/
theorem settingsAfter_ofToken : (ofToken zone s token).settingsAfter s = {
    mode := {
      caseSensitive := if s.nameOf token = "mc" then token.positive else s.mode.caseSensitive
      useRegex := if s.nameOf token = "re" then token.positive else s.mode.useRegex }
    bareName := if s.nameOf token = "default" then token.value else s.bareName } := by
  have hname (c : Command) : s.nameOf token = c.name ↔ Command.ofName? (s.nameOf token) = some c :=
    Command.ofName?_eq_some_iff.symm
  have hmc := hname .matchCase
  have hre := hname .useRegex
  have hdefault := hname .bareName
  simp only [Command.name] at hmc hre hdefault
  simp only [hmc, hre, hdefault, ofToken]
  cases Command.ofName? (s.nameOf token) with
  | none => simp [settingsAfter]
  | some c =>
      cases c with
      | term f =>
          obtain ⟨_, h⟩ | ⟨_, h⟩ := ofCommand_term zone s token.positive token.value f <;>
            simp [h, settingsAfter]
      | _ => simp [ofCommand, settingsAfter]

end Entry

/-! ## Positions -/

namespace Reader

variable (r : Reader) (tokens : List Token)

/-- The name that the token at a position goes by: that of its command, or else the value of the
last token in front of it that goes by `default`. -/
def nameAt (i : Nat) : String :=
  (tokens[i]?.bind Token.command).getD
    (((List.finRange i).reverse.findSome? fun (j : Fin i) =>
      if nameAt j.val = "default" then tokens[j.val]? else none).elim r.bareName Token.value)
termination_by i
decreasing_by exact j.isLt

/-- The last token in front of a position that goes by the given name. -/
def lastNamed (name : String) (i : Nat) : Option Token :=
  (List.range i).reverse.findSome? fun j =>
    if r.nameAt tokens j = name then tokens[j]? else none

/-- The name that bare terms go by at a position. -/
def bareNameAt (i : Nat) : String := (r.lastNamed tokens "default" i).elim r.bareName Token.value

/-- The mode of patterns at a position. -/
def modeAt (i : Nat) : PatternMode where
  caseSensitive := (r.lastNamed tokens "mc" i).any Token.positive
  useRegex := (r.lastNamed tokens "re" i).any Token.positive

/-- What the tokens of one name amount to, in their order, the positive ones apart from the
negative ones; `f` gives the value of a token at its position, if it can be used. -/
def valuesOf {α : Type} (name : String) (f : Nat → Token → Option α) : Selection α where
  included := tokens.zipIdx.filterMap fun (token, i) =>
    if r.nameAt tokens i = name ∧ token.positive = true then f i token else none
  excluded := tokens.zipIdx.filterMap fun (token, i) =>
    if r.nameAt tokens i = name ∧ token.positive = false then f i token else none

/-- The pattern of a token on a text field. -/
def patternAt? (f : TextField) (i : Nat) (token : Token) : Option Pattern :=
  Pattern.ofTerm? (r.modeAt tokens i) f.fit token.value

/-- Whether a token can be used as a term on a field. -/
def CanUse : Field → Nat → Token → Prop
  | .text f, i, token => r.patternAt? tokens f i token ≠ none
  | .date _, _, token => DateRange.ofTerm? r.zone token.value ≠ none
  | .flag _, _, _ => True

/-- The rule of a field, from the tokens that go by its name. -/
def ruleAt : Field → Rule
  | .text f => .text f (r.valuesOf tokens f.name (r.patternAt? tokens f))
  | .date f =>
      .date f (r.valuesOf tokens f.name fun _ token => DateRange.ofTerm? r.zone token.value)
  | .flag f => .flag f (r.valuesOf tokens f.name fun _ _ => some ())

/-- The settings at a position. -/
def settingsAt (i : Nat) : Settings := ⟨r.modeAt tokens i, r.bareNameAt tokens i⟩

variable {r tokens} {i : Nat} {token : Token}

theorem nameAt_eq (r : Reader) (tokens : List Token) (i : Nat) : r.nameAt tokens i =
    (tokens[i]?.bind Token.command).getD (r.bareNameAt tokens i) := by
  rw [nameAt, bareNameAt, lastNamed, ← List.map_coe_finRange_eq_range, ← List.map_reverse,
    List.findSome?_map]
  rfl

/-- The last token of a name in front of the next position is the one here, if it goes by it. -/
theorem lastNamed_succ (h : tokens[i]? = some token) (name : String) :
    r.lastNamed tokens name (i + 1) =
      if r.nameAt tokens i = name then some token else r.lastNamed tokens name i := by
  rw [lastNamed, List.range_succ, List.reverse_append, List.reverse_singleton,
    List.singleton_append, List.findSome?_cons, h]
  by_cases hname : r.nameAt tokens i = name
  · rw [if_pos hname, if_pos hname]
  · rw [if_neg hname, if_neg hname]
    rfl

theorem nameOf_settingsAt (h : tokens[i]? = some token) :
    (r.settingsAt tokens i).nameOf token = r.nameAt tokens i := by
  rw [nameAt_eq, h]
  rfl

/-- One token more: the settings at the next position are those that its entry leaves. -/
theorem settingsAt_succ (h : tokens[i]? = some token) : r.settingsAt tokens (i + 1) =
    (Entry.ofToken r.zone (r.settingsAt tokens i) token).settingsAfter (r.settingsAt tokens i) := by
  rw [Entry.settingsAfter_ofToken, nameOf_settingsAt h]
  simp only [settingsAt, modeAt, bareNameAt, lastNamed_succ h]
  congr 2
  · split <;> rfl
  · split <;> rfl
  · split <;> rfl

/-- All tokens from a position on: each of them is read under the settings at its position, and
the settings at the last position are left. -/
theorem ofTokens_from (k : Nat) (rest : List Token) (hrest : tokens.drop k = rest) :
    Entry.ofTokens r.zone (r.settingsAt tokens k) rest =
        (rest.zipIdx k).map (fun (token, i) => Entry.ofToken r.zone (r.settingsAt tokens i) token) ∧
      (Entry.ofTokens r.zone (r.settingsAt tokens k) rest).foldl
          (fun s entry => entry.settingsAfter s) (r.settingsAt tokens k) =
        r.settingsAt tokens (k + rest.length) := by
  -- The position moves on with the tokens, in the same list of all tokens.
  induction rest generalizing k with
  | nil => exact ⟨rfl, rfl⟩
  | cons token rest ih =>
      have hget : tokens[k]? = some token := by
        rw [← List.head?_drop, hrest]
        rfl
      have hnext : tokens.drop (k + 1) = rest := by
        rw [← List.tail_drop, hrest]
        rfl
      obtain ⟨hentries, hsettings⟩ := ih (k + 1) hnext
      rw [settingsAt_succ hget] at hentries hsettings
      rw [Entry.ofTokens, hentries, List.zipIdx_cons, List.map_cons, List.foldl_cons, ← hentries,
        hsettings, List.length_cons]
      exact ⟨rfl, congrArg _ (by omega)⟩

/-- The entries of one kind are what the tokens amount to at their positions. -/
theorem filterMap_ofTokens {α : Type} (kind : Entry → Option α) (f : Nat → Token → Option α)
    (hkind : ∀ i token, tokens[i]? = some token →
      kind (Entry.ofToken r.zone (r.settingsAt tokens i) token) = f i token) :
    (Entry.ofTokens r.zone r.settings tokens).filterMap kind =
      tokens.zipIdx.filterMap fun (token, i) => f i token := by
  have hentries := (r.ofTokens_from 0 tokens rfl).1
  have hsettings : r.settingsAt tokens 0 = r.settings := rfl
  rw [hsettings] at hentries
  rw [hentries, List.filterMap_map]
  refine List.filterMap_congr fun (token, i) hmem => ?_
  exact hkind i token (List.mk_mem_zipIdx_iff_getElem?.mp hmem)

/-- Entries with polarities, all of one kind, are the values of the tokens of one name. -/
theorem ofSigned_ofTokens {α : Type} (kind : Entry → Option (Bool × α)) (name : String)
    (f : Nat → Token → Option α)
    (hkind : ∀ i token, tokens[i]? = some token →
      kind (Entry.ofToken r.zone (r.settingsAt tokens i) token) =
        if r.nameAt tokens i = name then (f i token).map (token.positive, ·) else none) :
    Selection.ofSigned ((Entry.ofTokens r.zone r.settings tokens).filterMap kind) =
      r.valuesOf tokens name f := by
  rw [filterMap_ofTokens kind _ hkind]
  unfold Selection.ofSigned valuesOf
  rw [List.filterMap_filterMap, List.filterMap_filterMap]
  congr 1
  · refine List.filterMap_congr fun (token, i) _ => ?_
    by_cases hname : r.nameAt tokens i = name
    · cases hpositive : token.positive <;> cases hvalue : f i token <;>
        simp [hname, hpositive, hvalue]
    · simp [hname]
  · refine List.filterMap_congr fun (token, i) _ => ?_
    by_cases hname : r.nameAt tokens i = name
    · cases hpositive : token.positive <;> cases hvalue : f i token <;>
        simp [hname, hpositive, hvalue]
    · simp [hname]

theorem isEmpty_valuesOf {α : Type} (name : String) (f : Nat → Token → Option α) :
    (r.valuesOf tokens name f).isEmpty = false ↔
      ∃ i token, tokens[i]? = some token ∧ r.nameAt tokens i = name ∧ f i token ≠ none := by
  simp only [Selection.isEmpty, Bool.and_eq_false_iff, List.isEmpty_eq_false_iff_exists_mem,
    valuesOf, List.mem_filterMap, Prod.exists, List.mk_mem_zipIdx_iff_getElem?]
  constructor
  · rintro (⟨value, token, i, hget, hvalue⟩ | ⟨value, token, i, hget, hvalue⟩)
    · split at hvalue
      next hname => exact ⟨i, token, hget, hname.1, by simp [hvalue]⟩
      next => cases hvalue
    · split at hvalue
      next hname => exact ⟨i, token, hget, hname.1, by simp [hvalue]⟩
      next => cases hvalue
  · rintro ⟨i, token, hget, hname, hvalue⟩
    obtain ⟨value, hvalue⟩ := Option.ne_none_iff_exists'.mp hvalue
    cases hpositive : token.positive with
    | true => exact .inl ⟨value, token, i, hget, by simp [hname, hpositive, hvalue]⟩
    | false => exact .inr ⟨value, token, i, hget, by simp [hname, hpositive, hvalue]⟩

/-- The rule of the terms on a field is the one that its tokens give at their positions. -/
theorem ofTerms_eq_ruleAt (f : Field) :
    Rule.ofTerms ((Entry.ofTokens r.zone r.settings tokens).filterMap Entry.term?) f =
      r.ruleAt tokens f := by
  cases f with
  | text f =>
      rw [Rule.ofTerms, ruleAt, List.filterMap_filterMap, ofSigned_ofTokens _ f.name]
      intro i token hget
      rw [Entry.patternFor?_ofToken, nameOf_settingsAt hget]
      rfl
  | date f =>
      rw [Rule.ofTerms, ruleAt, List.filterMap_filterMap, ofSigned_ofTokens _ f.name]
      intro i token hget
      rw [Entry.rangeFor?_ofToken, nameOf_settingsAt hget]
  | flag f =>
      rw [Rule.ofTerms, ruleAt, List.filterMap_filterMap, ofSigned_ofTokens _ f.name]
      intro i token hget
      rw [Entry.markFor?_ofToken, nameOf_settingsAt hget]
      rfl

theorem isEmpty_ruleAt (f : Field) : (r.ruleAt tokens f).isEmpty = false ↔
    ∃ i token, tokens[i]? = some token ∧ r.nameAt tokens i = f.name ∧
      r.CanUse tokens f i token := by
  cases f with
  | text f => exact isEmpty_valuesOf f.name _
  | date f => exact isEmpty_valuesOf f.name _
  | flag f =>
      refine (isEmpty_valuesOf f.name _).trans ?_
      simp only [ne_eq, reduceCtorEq, not_false_eq_true, CanUse]
      rfl

/-- Reading a query agrees with the meaning of its tokens by their positions. A field has a rule
if and only if a token that goes by its name can be used there, and the rule holds the values of
all such tokens in their order, each under the settings at its position. Sort keys and scopes are
the values of the tokens that go by their names, and the settings of the query are those behind
the last token. -/
theorem read_eq_positions (r : Reader) (text : String) :
    let tokens := tokenize text
    let q := r.read text
    (∀ f, q.rule? f ≠ none ↔ ∃ i token, tokens[i]? = some token ∧ r.nameAt tokens i = f.name ∧
      r.CanUse tokens f i token) ∧
    (∀ f rule, q.rule? f = some rule → rule = r.ruleAt tokens f) ∧
    q.sorts = tokens.zipIdx.filterMap (fun (token, i) =>
      if r.nameAt tokens i = "sort" then some ⟨.ofName token.value, token.positive⟩ else none) ∧
    q.books = r.valuesOf tokens "book" (fun _ token => some token.value) ∧
    q.roots = r.valuesOf tokens "root" (fun _ token => some token.value) ∧
    q.settings.mode.caseSensitive = (r.lastNamed tokens "mc" tokens.length).any Token.positive ∧
    q.settings.mode.useRegex = (r.lastNamed tokens "re" tokens.length).any Token.positive ∧
    q.settings.bareName =
      (r.lastNamed tokens "default" tokens.length).elim r.bareName Token.value := by
  unfold read
  generalize tokenize text = tokens
  intro tokens q
  have hq : q = ofEntries r.settings (Entry.ofTokens r.zone r.settings tokens) :=
    r.readTokens_eq tokens
  have hrule (f : Field) : q.rule? f =
      if (r.ruleAt tokens f).isEmpty then none else some (r.ruleAt tokens f) := by
    rw [hq, ← ofTerms_eq_ruleAt]
    rfl
  have hsettings : q.settings = r.settingsAt tokens tokens.length := by
    have hlast := (r.ofTokens_from 0 tokens rfl).2
    rw [Nat.zero_add] at hlast
    rw [hq, ← hlast]
    rfl
  refine ⟨fun f => ?_, fun f rule h => ?_, ?_, ?_, ?_, by rw [hsettings]; rfl,
    by rw [hsettings]; rfl, by rw [hsettings]; rfl⟩
  · rw [← isEmpty_ruleAt, hrule]
    cases (r.ruleAt tokens f).isEmpty <;> simp
  · rw [hrule] at h
    split at h
    next => cases h
    next => exact (Option.some.inj h).symm
  · rw [hq]
    refine filterMap_ofTokens (r := r) Entry.sortKey? (fun i token =>
      if r.nameAt tokens i = "sort" then some ⟨.ofName token.value, token.positive⟩ else none)
      fun i token hget => ?_
    rw [Entry.sortKey?_ofToken, nameOf_settingsAt hget]
  · rw [hq]
    refine ofSigned_ofTokens Entry.book? "book" _ fun i token hget => ?_
    rw [Entry.book?_ofToken, nameOf_settingsAt hget]
    rfl
  · rw [hq]
    refine ofSigned_ofTokens Entry.root? "root" _ fun i token hget => ?_
    rw [Entry.root?_ofToken, nameOf_settingsAt hget]
    rfl

end Reader

end ArchiveSearch.Query
