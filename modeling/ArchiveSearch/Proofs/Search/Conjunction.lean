import ArchiveSearch.Proofs.Query.Entries
import ArchiveSearch.Proofs.Token.Seam
import ArchiveSearch.Search.Match
import Mathlib.Algebra.Group.Nat.Even

/-! # Two queries side by side

A record matches two queries written side by side if and only if it matches both. No token reaches
over the blank between them, the second is read under the settings that the first leaves, and a
rule of terms from both allows what the rules of each allow. The exceptions are the fields that
are compared as a whole, where the values asked for are alternatives to each other.
-/

namespace ArchiveSearch

namespace Query

/-! ## Rules of terms from two sides -/

namespace Selection

variable {α : Type}

instance : Append (Selection α) where
  append s t := ⟨s.included ++ t.included, s.excluded ++ t.excluded⟩

@[simp] theorem included_append (s t : Selection α) :
    (s ++ t).included = s.included ++ t.included := rfl

@[simp] theorem excluded_append (s t : Selection α) :
    (s ++ t).excluded = s.excluded ++ t.excluded := rfl

theorem ofSigned_append (xs ys : List (Bool × α)) :
    ofSigned (xs ++ ys) = ofSigned xs ++ ofSigned ys := by
  simp only [ofSigned, List.filterMap_append]
  rfl

theorem isEmpty_iff {s : Selection α} :
    s.isEmpty = true ↔ s.included = [] ∧ s.excluded = [] := by
  simp [isEmpty]

theorem empty_append {s t : Selection α} (hs : s.isEmpty = true) : s ++ t = t := by
  obtain ⟨included, excluded⟩ := s
  obtain ⟨rfl, rfl⟩ := isEmpty_iff.mp hs
  rfl

theorem append_empty {s t : Selection α} (ht : t.isEmpty = true) : s ++ t = s := by
  obtain ⟨included, excluded⟩ := s
  obtain ⟨included', excluded'⟩ := t
  obtain ⟨rfl, rfl⟩ := isEmpty_iff.mp ht
  exact congrArg₂ Selection.mk (List.append_nil _) (List.append_nil _)

theorem isEmpty_append (s t : Selection α) : (s ++ t).isEmpty = (s.isEmpty && t.isEmpty) := by
  rw [Bool.eq_iff_iff]
  simp only [isEmpty_iff, Bool.and_eq_true, included_append, excluded_append,
    List.append_eq_nil_iff]
  exact and_and_and_comm

theorem allOccur_append (s t : Selection Pattern) (text : String) :
    (s ++ t).allOccur text = (s.allOccur text && t.allOccur text) := by
  simp only [allOccur, included_append, excluded_append, List.any_append, List.all_append,
    Bool.not_or]
  ac_rfl

/-- Alternatives of only one side stay the same alternatives. -/
theorem anyOccurs_append {s t : Selection Pattern} (h : s.included = [] ∨ t.included = [])
    (text : String) : (s ++ t).anyOccurs text = (s.anyOccurs text && t.anyOccurs text) := by
  obtain ⟨included, excluded⟩ := s
  obtain ⟨included', excluded'⟩ := t
  simp only at h
  rcases h with rfl | rfl
  · simp only [anyOccurs, included_append, excluded_append, List.nil_append, List.any_append,
      Bool.not_or, List.isEmpty_nil, Bool.true_or, Bool.and_true]
    ac_rfl
  · simp only [anyOccurs, included_append, excluded_append, List.append_nil, List.any_append,
      Bool.not_or, List.isEmpty_nil, Bool.true_or, Bool.and_true]
    ac_rfl

theorem holdTime_append (s t : Selection DateRange) (time : Option String) :
    (s ++ t).holdTime time = (s.holdTime time && t.holdTime time) := by
  cases time with
  | none => rfl
  | some time =>
      simp only [holdTime, included_append, excluded_append, List.any_append, List.all_append,
        Bool.not_or]
      by_cases htime : time = ""
      · simp [htime]
      · simp only [htime, ne_eq, not_false_eq_true, decide_true, Bool.true_and]
        ac_rfl

theorem agreeWith_append (s t : Selection Unit) (flag : Bool) :
    (s ++ t).agreeWith flag = (s.agreeWith flag && t.agreeWith flag) := by
  obtain ⟨included, excluded⟩ := s
  obtain ⟨included', excluded'⟩ := t
  cases included <;> cases excluded <;> cases included' <;> cases excluded' <;> cases flag <;> rfl

theorem allOccur_of_isEmpty {s : Selection Pattern} (hs : s.isEmpty = true) (text : String) :
    s.allOccur text = true := by
  obtain ⟨hincluded, hexcluded⟩ := isEmpty_iff.mp hs
  simp [allOccur, hincluded, hexcluded]

theorem anyOccurs_of_isEmpty {s : Selection Pattern} (hs : s.isEmpty = true) (text : String) :
    s.anyOccurs text = true := by
  obtain ⟨hincluded, hexcluded⟩ := isEmpty_iff.mp hs
  simp [anyOccurs, hincluded, hexcluded]

theorem agreeWith_of_isEmpty {s : Selection Unit} (hs : s.isEmpty = true) (flag : Bool) :
    s.agreeWith flag = true := by
  obtain ⟨hincluded, hexcluded⟩ := isEmpty_iff.mp hs
  simp [agreeWith, hincluded, hexcluded]

end Selection

namespace Rule

/-- Whether a rule lets a record pass; one without terms lets every record pass. -/
def allows (rule : Rule) (x : Record) : Bool := rule.isEmpty || rule.isMet x

/-- The terms of two lists on a field let a record pass if and only if those of each list do. On
fields that are compared as a whole only one of the lists may ask for values. -/
theorem allows_ofTerms_append {s t : List Term} {f : Field} (x : Record)
    (hwhole : ∀ g, f = .text g → g.fit = .whole →
      (Selection.ofSigned (s.filterMap (·.patternFor? g))).included = [] ∨
        (Selection.ofSigned (t.filterMap (·.patternFor? g))).included = []) :
    (ofTerms (s ++ t) f).allows x = ((ofTerms s f).allows x && (ofTerms t f).allows x) := by
  cases f with
  | text g =>
      simp only [ofTerms, List.filterMap_append, Selection.ofSigned_append]
      have hside := hwhole g rfl
      generalize Selection.ofSigned (s.filterMap (·.patternFor? g)) = a at hside ⊢
      generalize Selection.ofSigned (t.filterMap (·.patternFor? g)) = b at hside ⊢
      cases hfit : g.fit with
      | anywhere =>
          have hallows (c : Selection Pattern) : (text g c).allows x = c.allOccur (x.text g) := by
            simp only [allows, isEmpty, isMet, hfit]
            cases hc : c.isEmpty with
            | false => rfl
            | true => simp [c.allOccur_of_isEmpty hc]
          simp only [hallows, Selection.allOccur_append]
      | whole =>
          have hallows (c : Selection Pattern) : (text g c).allows x = c.anyOccurs (x.text g) := by
            simp only [allows, isEmpty, isMet, hfit]
            cases hc : c.isEmpty with
            | false => rfl
            | true => simp [c.anyOccurs_of_isEmpty hc]
          simp only [hallows, Selection.anyOccurs_append (hside hfit)]
  | date g =>
      simp only [ofTerms, List.filterMap_append, Selection.ofSigned_append]
      generalize Selection.ofSigned (s.filterMap (·.rangeFor? g)) = a
      generalize Selection.ofSigned (t.filterMap (·.rangeFor? g)) = b
      -- A date rule without terms, unlike one with terms, passes a record that has no time.
      cases ha : a.isEmpty with
      | true => simp [allows, isEmpty, ha, Selection.empty_append ha]
      | false =>
          cases hb : b.isEmpty with
          | true => simp [allows, isEmpty, hb, Selection.append_empty hb]
          | false =>
              simp [allows, isEmpty, isMet, ha, hb, Selection.isEmpty_append,
                Selection.holdTime_append]
  | flag g =>
      simp only [ofTerms, List.filterMap_append, Selection.ofSigned_append]
      have hallows (c : Selection Unit) : (flag g c).allows x = c.agreeWith (x.flag g) := by
        simp only [allows, isEmpty, isMet]
        cases hc : c.isEmpty with
        | false => rfl
        | true => simp [c.agreeWith_of_isEmpty hc]
      simp only [hallows, Selection.agreeWith_append]

end Rule

/-! ## Entries from two sides -/

/-- A record matches if it has metadata and the terms on every field let it pass. -/
theorem isMatch_ofEntries (s : Settings) (entries : List Entry) (x : Record) :
    (ofEntries s entries).isMatch x = (x.metadata.isSome &&
      Field.all.all fun f => (Rule.ofTerms (entries.filterMap Entry.term?) f).allows x) := by
  rw [isMatch, matchesRules, rules, List.all_filterMap]
  congr 2
  funext f
  change ((RuleTable.ofTerms _).find? f).all _ = _
  unfold RuleTable.ofTerms Rule.allows
  dsimp only
  split
  next hempty => simp [hempty]
  next hempty => simp [hempty]

/-- Whether a query asks for values of a text field. -/
def asksFor (q : Query) (f : TextField) : Bool :=
  match q.rule? (.text f) with
  | some (.text _ patterns) => !patterns.included.isEmpty
  | _ => false

theorem included_eq_nil_of_asksFor {s : Settings} {entries : List Entry} {f : TextField}
    (h : (ofEntries s entries).asksFor f = false) :
    (Selection.ofSigned ((entries.filterMap Entry.term?).filterMap
      (·.patternFor? f))).included = [] := by
  have hrule : (ofEntries s entries).rule? (.text f) =
      if (Rule.ofTerms (entries.filterMap Entry.term?) (.text f)).isEmpty then none
      else some (Rule.ofTerms (entries.filterMap Entry.term?) (.text f)) := rfl
  rw [asksFor, hrule] at h
  by_cases hempty : (Rule.ofTerms (entries.filterMap Entry.term?) (.text f)).isEmpty = true
  · exact (Selection.isEmpty_iff.mp hempty).1
  · rw [if_neg hempty] at h
    simpa [Rule.ofTerms] using h

/-- Reading tokens in two parts, of which the first leaves the settings as they were. -/
theorem Reader.isMatch_readTokens_append {r : Reader} {first second : List Token}
    (hsettings : (r.readTokens first).settings = r.settings)
    (hwhole : ∀ f : TextField, f.fit = .whole →
      ((r.readTokens first).asksFor f && (r.readTokens second).asksFor f) = false) (x : Record) :
    (r.readTokens (first ++ second)).isMatch x =
      ((r.readTokens first).isMatch x && (r.readTokens second).isMatch x) := by
  simp only [Reader.readTokens_eq] at hsettings hwhole ⊢
  have hsecond : (Entry.ofTokens r.zone r.settings first).foldl
      (fun s entry => entry.settingsAfter s) r.settings = r.settings := hsettings
  rw [Entry.ofTokens_append, hsecond]
  simp only [isMatch_ofEntries, List.filterMap_append]
  have hrule (f : Field) := Rule.allows_ofTerms_append (f := f) x
    (s := (Entry.ofTokens r.zone r.settings first).filterMap Entry.term?)
    (t := (Entry.ofTokens r.zone r.settings second).filterMap Entry.term?)
    fun g _ hfit => (Bool.and_eq_false_iff.mp (hwhole g hfit)).imp included_eq_nil_of_asksFor
      included_eq_nil_of_asksFor
  simp only [hrule]
  rw [Bool.eq_iff_iff]
  simp only [Bool.and_eq_true, List.all_eq_true, forall_and]
  constructor
  · rintro ⟨hmetadata, hfirst, hsecond⟩
    exact ⟨⟨hmetadata, hfirst⟩, hmetadata, hsecond⟩
  · rintro ⟨⟨hmetadata, hfirst⟩, -, hsecond⟩
    exact ⟨hmetadata, hfirst, hsecond⟩

/-! ## Texts side by side -/

theorem tokenize_of_allBlank {text : String} (h : Text.allBlank text = true) :
    tokenize text = [] := by
  have hblank : ∀ c ∈ text.toList, Text.isBlank c = true := List.all_eq_true.mp h
  have hscan := Token.scan_blanks hblank []
  rwa [List.append_nil, Token.scan_nil] at hscan

/-- Two parts that are not blank are put side by side; a blank one is left out. -/
theorem compose_nil (a b : String) : compose [] [] a b =
    if Text.allBlank a then if Text.allBlank b then "" else b
    else if Text.allBlank b then a else a ++ " " ++ b := by
  cases ha : Text.allBlank a <;> cases hb : Text.allBlank b <;>
    simp [compose, ha, hb, String.intercalate_cons_cons]

/-- Two queries side by side mean that both have to be matched, if no quote is left open in the
first, the first leaves the settings as it found them, and not both ask for identifiers or for
types. So a search that always applies, put in front of the input, only narrows what the input
matches. -/
theorem isMatch_read_append_space (r : Reader) (a b : String)
    (hquotes : Even (a.toList.count '"')) (hsettings : (r.read a).settings = r.settings)
    (hid : ((r.read a).asksFor .id && (r.read b).asksFor .id) = false)
    (htype : ((r.read a).asksFor .type && (r.read b).asksFor .type) = false) :
    (∀ x, (r.read (a ++ " " ++ b)).isMatch x = ((r.read a).isMatch x && (r.read b).isMatch x)) ∧
      ∀ x, (r.read (compose [] [] a b)).isMatch x = true → (r.read b).isMatch x = true := by
  have hboth (x : Record) : (r.read (a ++ " " ++ b)).isMatch x =
      ((r.read a).isMatch x && (r.read b).isMatch x) := by
    have htokens := tokenize_append_space (Nat.even_iff.mp hquotes) b
    unfold Reader.read at hsettings hid htype ⊢
    rw [htokens]
    refine Reader.isMatch_readTokens_append hsettings (fun f hfit => ?_) x
    cases f with
    | id => exact hid
    | type => exact htype
    | _ => cases hfit
  refine ⟨hboth, fun x hx => ?_⟩
  rw [compose_nil] at hx
  cases ha : Text.allBlank a with
  | true =>
      cases hb : Text.allBlank b with
      | true =>
          -- A blank text has no tokens, so it matches what the empty one matches.
          have hempty : Text.allBlank "" = true := rfl
          rw [ha, hb, if_pos rfl, if_pos rfl] at hx
          unfold Reader.read at hx ⊢
          rwa [tokenize_of_allBlank hempty, ← tokenize_of_allBlank hb] at hx
      | false => simpa [ha, hb] using hx
  | false =>
      cases hb : Text.allBlank b with
      | true =>
          have hmetadata : x.metadata.isSome = true := by
            have hmatch : (r.read a).isMatch x = true := by simpa [ha, hb] using hx
            exact (Bool.and_eq_true _ _ ▸ hmatch :).1
          unfold Reader.read
          rw [tokenize_of_allBlank hb, Reader.readTokens_eq, isMatch_ofEntries, hmetadata]
          rfl
      | false =>
          have hmatch : (r.read (a ++ " " ++ b)).isMatch x = true := by simpa [ha, hb] using hx
          rw [hboth, Bool.and_eq_true] at hmatch
          exact hmatch.2

/-- A first part with a quoted value and a mode that is set and taken back, and a second part with
an open quote. -/
theorem isMatch_read_append_space_openQuote :
    Even ("id:\"a\" mc: -mc:".toList.count '"') ∧
    (({} : Reader).read "id:\"a\" mc: -mc:").settings = ({} : Reader).settings ∧
    ((({} : Reader).read "id:\"a\" mc: -mc:").asksFor .id &&
      (({} : Reader).read "type:b \"").asksFor .id) = false ∧
    ((({} : Reader).read "id:\"a\" mc: -mc:").asksFor .type &&
      (({} : Reader).read "type:b \"").asksFor .type) = false ∧
    ∀ x, (({} : Reader).read ("id:\"a\" mc: -mc:" ++ " " ++ "type:b \"")).isMatch x =
      ((({} : Reader).read "id:\"a\" mc: -mc:").isMatch x &&
        (({} : Reader).read "type:b \"").isMatch x) := by
  have hquotes : Even ("id:\"a\" mc: -mc:".toList.count '"') := by decide
  have hsettings : (({} : Reader).read "id:\"a\" mc: -mc:").settings =
      ({} : Reader).settings := by decide +kernel
  have hid : ((({} : Reader).read "id:\"a\" mc: -mc:").asksFor .id &&
      (({} : Reader).read "type:b \"").asksFor .id) = false := by decide +kernel
  have htype : ((({} : Reader).read "id:\"a\" mc: -mc:").asksFor .type &&
      (({} : Reader).read "type:b \"").asksFor .type) = false := by decide +kernel
  exact ⟨hquotes, hsettings, hid, htype,
    (isMatch_read_append_space {} _ _ hquotes hsettings hid htype).1⟩

end Query

end ArchiveSearch
