import ArchiveSearch.Proofs.Query.Positions

/-! # What a query reports

A token that cannot be used is reported once and leaves no other trace: without it the query is
the same but for the report. The errors are those of the terms whose values cannot be used, the
warnings those of the names that mean nothing, both in the order of the tokens, and every other
term is in the rule of its field.
-/

namespace ArchiveSearch.Query

namespace Reader

variable (r : Reader) (tokens : List Token)

/-- The term that the token at a position amounts to, if its value can be used. -/
def termAt? (i : Nat) (token : Token) : Option Term :=
  match Field.ofName? (r.nameAt tokens i) with
  | some (.text f) =>
      (r.patternAt? tokens f i token).map fun pattern => ⟨token.positive, .text f pattern⟩
  | some (.date f) =>
      (DateRange.ofTerm? r.zone token.value).map fun range => ⟨token.positive, .date f range⟩
  | some (.flag f) => some ⟨token.positive, .flag f⟩
  | none => none

/-- The error of the token at a position, if it is a term whose value cannot be used. -/
def failureAt? (i : Nat) (token : Token) : Option TermError :=
  match Field.ofName? (r.nameAt tokens i) with
  | some (.text f) =>
      if (r.patternAt? tokens f i token).isSome then none
      else some (.invalidExpression token.value)
  | some (.date _) =>
      if (DateRange.ofTerm? r.zone token.value).isSome then none
      else some (.invalidDate token.value)
  | some (.flag _) => none
  | none => none

/-- The name that the token at a position goes by, if no command has it. -/
def unknownAt? (i : Nat) : Option String :=
  if (Command.ofName? (r.nameAt tokens i)).isSome then none else some (r.nameAt tokens i)

variable {r tokens} {i : Nat} {token : Token}

/-! ## Reports by positions -/

theorem term?_entry (h : tokens[i]? = some token) :
    (Entry.ofToken r.zone (r.settingsAt tokens i) token).term? = r.termAt? tokens i token := by
  rw [Entry.term?_ofToken, nameOf_settingsAt h, termAt?]
  cases Field.ofName? (r.nameAt tokens i) with
  | none => rfl
  | some f =>
      cases f with
      | text f =>
          change (Test.ofValue r.zone (r.modeAt tokens i) token.value (.text f)).toOption.map _ =
            (Pattern.ofTerm? (r.modeAt tokens i) f.fit token.value).map _
          rw [Test.ofValue]
          cases Pattern.ofTerm? (r.modeAt tokens i) f.fit token.value <;> rfl
      | date f =>
          rw [Option.bind_some, Test.ofValue]
          cases DateRange.ofTerm? r.zone token.value <;> rfl
      | flag f => rfl

theorem error?_entry (h : tokens[i]? = some token) :
    (Entry.ofToken r.zone (r.settingsAt tokens i) token).error? = r.failureAt? tokens i token := by
  unfold Entry.ofToken failureAt?
  rw [nameOf_settingsAt h]
  cases hfield : Field.ofName? (r.nameAt tokens i) with
  | none =>
      cases hcommand : Command.ofName? (r.nameAt tokens i) with
      | none => rfl
      | some c =>
          cases c with
          | term f =>
              have hname := Command.ofName?_eq_some_iff.mp hcommand
              rw [Field.ofName?_eq_some_iff.mpr hname] at hfield
              cases hfield
          | _ => rfl
  | some f =>
      have hcommand : Command.ofName? (r.nameAt tokens i) = some (.term f) :=
        Command.ofName?_eq_some_iff.mpr (Field.ofName?_eq_some_iff.mp hfield)
      rw [hcommand]
      cases f with
      | text f =>
          change (Entry.ofCommand r.zone ⟨r.modeAt tokens i, _⟩ _ _ _).error? =
            if (Pattern.ofTerm? (r.modeAt tokens i) f.fit token.value).isSome then none else _
          rw [Entry.ofCommand, Test.ofValue]
          cases Pattern.ofTerm? (r.modeAt tokens i) f.fit token.value <;> rfl
      | date f =>
          dsimp only
          rw [Entry.ofCommand, Test.ofValue]
          cases DateRange.ofTerm? r.zone token.value <;> rfl
      | flag f => rfl

theorem unknown?_entry (h : tokens[i]? = some token) :
    (Entry.ofToken r.zone (r.settingsAt tokens i) token).unknown? = r.unknownAt? tokens i := by
  unfold Entry.ofToken unknownAt?
  rw [nameOf_settingsAt h]
  cases Command.ofName? (r.nameAt tokens i) with
  | none => rfl
  | some c =>
      cases c with
      | term f =>
          obtain ⟨_, hentry⟩ | ⟨_, hentry⟩ := Entry.ofCommand_term r.zone (r.settingsAt tokens i)
            token.positive token.value f
          · simp [hentry, Entry.unknown?]
          · simp [hentry, Entry.unknown?]
      | _ => rfl

/-- A token that goes by no name of another command is a term in use, or an error, or of no known
name, and only one of these. -/
theorem termAt?_or_failureAt?_or_unknownAt?
    (hname : r.nameAt tokens i ∉ ["default", "mc", "re", "book", "root", "sort"]) :
    (r.termAt? tokens i token).isSome.toNat + (r.failureAt? tokens i token).isSome.toNat +
      (r.unknownAt? tokens i).isSome.toNat = 1 := by
  have hcommand : Command.ofName? (r.nameAt tokens i) =
      (Field.ofName? (r.nameAt tokens i)).map .term := by
    simp only [List.mem_cons, List.not_mem_nil, or_false, not_or] at hname
    obtain ⟨hdefault, hmc, hre, hbook, hroot, hsort⟩ := hname
    rw [Command.ofName?, if_neg hdefault, if_neg hmc, if_neg hre, if_neg hbook, if_neg hroot,
      if_neg hsort]
  unfold termAt? failureAt? unknownAt?
  rw [hcommand]
  cases Field.ofName? (r.nameAt tokens i) with
  | none => rfl
  | some f =>
      cases f with
      | text f => cases hpattern : r.patternAt? tokens f i token <;> simp [hpattern]
      | date f => cases hrange : DateRange.ofTerm? r.zone token.value <;> simp
      | flag f => rfl

/-! ## A query without one of its tokens -/

theorem length_ofTokens (zone : Calendar.Zone) (s : Settings) (tokens : List Token) :
    (Entry.ofTokens zone s tokens).length = tokens.length := by
  induction tokens generalizing s with
  | nil => rfl
  | cons token rest ih => rw [Entry.ofTokens, List.length_cons, ih, List.length_cons]

/-- The entries of tokens are those of the tokens at their positions. -/
theorem ofTokens_eq_map (r : Reader) (tokens : List Token) :
    Entry.ofTokens r.zone r.settings tokens = tokens.zipIdx.map fun (token, i) =>
      Entry.ofToken r.zone (r.settingsAt tokens i) token :=
  (r.ofTokens_from 0 tokens rfl).1

/-- If the entry of a token leaves the settings alone, all other tokens amount to the same with it
and without it. -/
theorem ofTokens_without {first second : List Token} {entry : Entry}
    (hentry : Entry.ofToken r.zone (r.settingsAt (first ++ token :: second) first.length) token =
      entry)
    (hsettings : ∀ s, entry.settingsAfter s = s) :
    ∃ later, Entry.ofTokens r.zone r.settings (first ++ second) =
        Entry.ofTokens r.zone r.settings first ++ later ∧
      Entry.ofTokens r.zone r.settings (first ++ token :: second) =
        Entry.ofTokens r.zone r.settings first ++ entry :: later := by
  have hsplit (rest : List Token) := Entry.ofTokens_append r.zone r.settings first rest
  generalize (Entry.ofTokens r.zone r.settings first).foldl
    (fun s entry => entry.settingsAfter s) r.settings = s at hsplit
  -- The same entry stands behind those of `first`, found by its position or by reading on.
  have hhere : Entry.ofToken r.zone s token = entry := by
    have hread := hsplit (token :: second)
    rw [ofTokens_eq_map, Entry.ofTokens] at hread
    have hat := congrArg (·[first.length]?) hread
    rw [← hentry]
    simpa [← length_ofTokens r.zone r.settings first] using hat.symm
  refine ⟨Entry.ofTokens r.zone s second, hsplit second, ?_⟩
  rw [hsplit, Entry.ofTokens, hhere, hsettings]

theorem ofEntries_error (s : Settings) (before later : List Entry) (e : TermError) :
    ofEntries s (before ++ .error e :: later) = { ofEntries s (before ++ later) with
      errors := (ofEntries s before).errors ++ e :: later.filterMap Entry.error? } := by
  simp [ofEntries, List.filterMap_cons, Entry.term?, Entry.sortKey?, Entry.book?, Entry.root?,
    Entry.error?, Entry.unknown?, Entry.settingsAfter]

theorem ofEntries_unknown (s : Settings) (before later : List Entry) (name : String) :
    ofEntries s (before ++ .unknown name :: later) =
      { ofEntries s (before ++ later) with
        warnings := (ofEntries s before).warnings ++ unknownCommandMessage name ::
          (later.filterMap Entry.unknown?).map unknownCommandMessage } := by
  simp [ofEntries, List.filterMap_cons, Entry.term?, Entry.sortKey?, Entry.book?, Entry.root?,
    Entry.error?, Entry.unknown?, Entry.settingsAfter]

/-- Without a term that fails the query is the same, but for the error. -/
theorem readTokens_of_failureAt? {first second : List Token} {e : TermError}
    (h : r.failureAt? (first ++ token :: second) first.length token = some e) :
    ∃ later, (r.readTokens (first ++ second)).errors = (r.readTokens first).errors ++ later ∧
      r.readTokens (first ++ token :: second) = { r.readTokens (first ++ second) with
        errors := (r.readTokens first).errors ++ e :: later } := by
  have hentry : Entry.ofToken r.zone (r.settingsAt (first ++ token :: second) first.length) token =
      .error e := by
    have hget : (first ++ token :: second)[first.length]? = some token := by simp
    rw [← error?_entry hget] at h
    generalize Entry.ofToken r.zone _ token = entry at h
    cases entry <;> cases h
    rfl
  obtain ⟨later, hwithout, hwith⟩ := ofTokens_without hentry fun _ => rfl
  refine ⟨later.filterMap Entry.error?, ?_, ?_⟩
  · rw [readTokens_eq, readTokens_eq, hwithout]
    exact List.filterMap_append
  · rw [readTokens_eq, readTokens_eq, readTokens_eq, hwith, hwithout, ofEntries_error]

/-- Without a token whose name means nothing the query is the same, but for the warning. -/
theorem readTokens_of_unknownAt? {first second : List Token} {name : String}
    (h : r.unknownAt? (first ++ token :: second) first.length = some name) :
    ∃ later, (r.readTokens (first ++ second)).warnings = (r.readTokens first).warnings ++ later ∧
      r.readTokens (first ++ token :: second) = { r.readTokens (first ++ second) with
        warnings := (r.readTokens first).warnings ++ unknownCommandMessage name :: later } := by
  have hentry : Entry.ofToken r.zone (r.settingsAt (first ++ token :: second) first.length) token =
      .unknown name := by
    have hget : (first ++ token :: second)[first.length]? = some token := by simp
    rw [← unknown?_entry hget] at h
    generalize Entry.ofToken r.zone _ token = entry at h
    cases entry <;> cases h
    rfl
  obtain ⟨later, hwithout, hwith⟩ := ofTokens_without hentry fun _ => rfl
  refine ⟨(later.filterMap Entry.unknown?).map unknownCommandMessage, ?_, ?_⟩
  · rw [readTokens_eq, readTokens_eq, hwithout]
    simp only [ofEntries, List.filterMap_append, List.map_append]
  · rw [readTokens_eq, readTokens_eq, readTokens_eq, hwith, hwithout, ofEntries_unknown]

/-! ## All reports -/

theorem errors_readTokens (r : Reader) (tokens : List Token) : (r.readTokens tokens).errors =
    tokens.zipIdx.filterMap fun (token, i) => r.failureAt? tokens i token := by
  rw [readTokens_eq]
  exact filterMap_ofTokens Entry.error? _ fun i token hget => error?_entry hget

theorem warnings_readTokens (r : Reader) (tokens : List Token) : (r.readTokens tokens).warnings =
    tokens.zipIdx.filterMap fun (_, i) => (r.unknownAt? tokens i).map unknownCommandMessage := by
  have hnames := filterMap_ofTokens Entry.unknown? (fun i _ => r.unknownAt? tokens i)
    fun i token hget => unknown?_entry hget
  rw [readTokens_eq, ofEntries, hnames, List.map_filterMap]

theorem ruleOf_readTokens (r : Reader) (tokens : List Token) (f : Field) :
    (r.readTokens tokens).table.ruleOf f = Rule.ofTerms
      (tokens.zipIdx.filterMap fun (token, i) => r.termAt? tokens i token) f := by
  have hterms := filterMap_ofTokens Entry.term? (fun i token => r.termAt? tokens i token)
    fun i token hget => term?_entry hget
  rw [readTokens_eq, ← hterms]
  exact RuleTable.ruleOf_ofTerms _ f

/-- What cannot be used is reported and leaves no other trace. Without a term that fails, or a
token whose name means nothing, the query is the same but for its one report. The errors are those
of the terms that fail and the warnings those of the names that mean nothing, in their order, and
each term either is in the rule of its field or is reported, never both. -/
theorem readTokens_reports (r : Reader) (tokens : List Token) :
    let q := r.readTokens tokens
    (∀ first token second, tokens = first ++ token :: second →
      (∀ e, r.failureAt? tokens first.length token = some e →
        ∃ later, (r.readTokens (first ++ second)).errors = (r.readTokens first).errors ++ later ∧
          q = { r.readTokens (first ++ second) with
            errors := (r.readTokens first).errors ++ e :: later }) ∧
      ∀ name, r.unknownAt? tokens first.length = some name →
        ∃ later,
          (r.readTokens (first ++ second)).warnings = (r.readTokens first).warnings ++ later ∧
          q = { r.readTokens (first ++ second) with
            warnings := (r.readTokens first).warnings ++ unknownCommandMessage name :: later }) ∧
    q.errors = tokens.zipIdx.filterMap (fun (token, i) => r.failureAt? tokens i token) ∧
    q.warnings = tokens.zipIdx.filterMap (fun (_, i) =>
      (r.unknownAt? tokens i).map unknownCommandMessage) ∧
    (∀ f, q.table.ruleOf f = Rule.ofTerms
      (tokens.zipIdx.filterMap fun (token, i) => r.termAt? tokens i token) f) ∧
    ∀ i token, tokens[i]? = some token →
      r.nameAt tokens i ∉ ["default", "mc", "re", "book", "root", "sort"] →
      (r.termAt? tokens i token).isSome.toNat + (r.failureAt? tokens i token).isSome.toNat +
        (r.unknownAt? tokens i).isSome.toNat = 1 := by
  intro q
  refine ⟨?_, errors_readTokens r tokens, warnings_readTokens r tokens,
    ruleOf_readTokens r tokens, fun i token _ => termAt?_or_failureAt?_or_unknownAt?⟩
  rintro first token second rfl
  exact ⟨fun e => readTokens_of_failureAt?, fun name => readTokens_of_unknownAt?⟩

/-- A date that cannot be used between a term on the same field and a bare term whose field is not
known. -/
theorem readTokens_reports_badDate :
    let start : Token := ⟨some "create", true, "2020"⟩
    let date : Token := ⟨some "create", true, "2020/01"⟩
    let bareName : Token := ⟨some "default", true, "nope"⟩
    let bare : Token := ⟨none, true, "x"⟩
    let r : Reader := {}
    let tokens := [start, date, bareName, bare]
    (r.failureAt? tokens 1 date = some (.invalidDate "2020/01") ∧
      ∃ later, (r.readTokens [start, bareName, bare]).errors =
          (r.readTokens [start]).errors ++ later ∧
        r.readTokens tokens = { r.readTokens [start, bareName, bare] with
          errors := (r.readTokens [start]).errors ++ .invalidDate "2020/01" :: later }) ∧
    (r.unknownAt? tokens 3 = some "nope" ∧
      ∃ later, (r.readTokens [start, date, bareName]).warnings =
          (r.readTokens [start, date, bareName]).warnings ++ later ∧
        r.readTokens tokens = { r.readTokens [start, date, bareName] with
          warnings := (r.readTokens [start, date, bareName]).warnings ++
            unknownCommandMessage "nope" :: later }) ∧
    tokens[0]? = some start ∧
    r.nameAt tokens 0 ∉ ["default", "mc", "re", "book", "root", "sort"] ∧
    (r.termAt? tokens 0 start).isSome.toNat + (r.failureAt? tokens 0 start).isSome.toNat +
      (r.unknownAt? tokens 0).isSome.toNat = 1 := by
  intro start date bareName bare r tokens
  have hfailure : r.failureAt? tokens 1 date = some (.invalidDate "2020/01") := by decide +kernel
  have hunknown : r.unknownAt? tokens 3 = some "nope" := by decide +kernel
  have hname : r.nameAt tokens 0 ∉ ["default", "mc", "re", "book", "root", "sort"] := by
    decide +kernel
  obtain ⟨hremove, -, -, -, hone⟩ := readTokens_reports r tokens
  refine ⟨⟨hfailure, (hremove [start] date [bareName, bare] rfl).1 _ hfailure⟩,
    ⟨hunknown, (hremove [start, date, bareName] bare [] rfl).2 _ hunknown⟩, rfl, hname,
    hone 0 start rfl hname⟩

end Reader

end ArchiveSearch.Query
