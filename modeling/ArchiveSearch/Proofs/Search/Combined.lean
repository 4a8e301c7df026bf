import ArchiveSearch.Proofs.Query.Literal
import ArchiveSearch.Proofs.Search.SingleTerm
import ArchiveSearch.Proofs.Text.CaseFold
import Mathlib.Data.List.Infix

/-! # Title, comment and content together

The combined field puts title, comment and content on lines of their own. No other character agrees
with the end of a line, with or without regard to case, so that a literal without one occurs in
the combined text if and only if it occurs in one of the three parts. A term on the combined field
then stands for three terms, one on each part: one of them has to hold, or all if they are negated.
-/

namespace ArchiveSearch

/-! ## Ends of lines -/

/-- No other character is the end of a line up to case. -/
theorem Text.foldCode_eq_newline_iff {n : Nat} : foldCode n = 10 ↔ n = 10 := by
  have htargets : ∀ run ∈ foldRuns, 10 < run.target := by decide +kernel
  constructor
  · intro hfold
    rcases foldCode_cases n with hself | ⟨run, hrun, himage⟩
    · exact hself.symm.trans hfold
    · have htarget := htargets run hrun
      obtain ⟨-, hsum⟩ := FoldRun.image_eq_some_iff.mp himage
      omega
  · rintro rfl
    rfl

namespace Query

theorem Agree.eq_newline {caseSensitive : Bool} {c : Char} (h : Agree caseSensitive c '\n') :
    c = '\n' := by
  cases caseSensitive with
  | true => exact h
  | false =>
      have hfold : Text.foldCode c.toNat = Text.foldCode 10 := beq_iff_eq.mp h
      have hnewline : Text.foldCode 10 = 10 := rfl
      exact Char.toNat_inj.mp (Text.foldCode_eq_newline_iff.mp (hfold.trans hnewline))

/-- A piece that agrees with a text without ends of lines has none itself. -/
theorem newline_not_mem_of_agree {caseSensitive : Bool} {term w : List Char}
    (h : List.Forall₂ (Agree caseSensitive) term w) (hterm : '\n' ∉ term) : '\n' ∉ w := by
  induction h with
  | nil => exact List.not_mem_nil
  | @cons c d term w hcd _ ih =>
      apply List.not_mem_cons_of_ne_of_not_mem
      · rintro rfl
        exact List.ne_of_not_mem_cons hterm hcd.eq_newline.symm
      · exact ih (List.not_mem_of_not_mem_cons hterm)

/-- A piece without a character does not reach over it. -/
theorem infix_append_cons_iff {α : Type} {c : α} {w front rest : List α} (hw : c ∉ w) :
    w <:+: front ++ c :: rest ↔ w <:+: front ∨ w <:+: rest := by
  constructor
  · intro h
    have hbegin {v : List α} (hv : v <+: c :: rest) (hc : c ∉ v) : v = [] := by
      rcases List.prefix_cons_iff.mp hv with hnil | ⟨tail, rfl, -⟩
      · exact hnil
      · exact absurd List.mem_cons_self hc
    rcases List.infix_append_iff.mp h with hfront | hrest | ⟨left, right, rfl, hleft, hright⟩
    · exact .inl hfront
    · rcases List.infix_cons_iff.mp hrest with hstart | hrest
      · rw [hbegin hstart hw]
        exact .inr (List.nil_infix)
      · exact .inr hrest
    · -- What reaches into the rest would begin with the character.
      have hnil := hbegin hright fun hmem => hw (List.mem_append_right left hmem)
      rw [hnil, List.append_nil]
      exact .inl hleft.isInfix
  · rintro (h | h)
    · exact h.trans (List.prefix_append front _).isInfix
    · exact h.trans ((List.suffix_cons c rest).trans (List.suffix_append front _)).isInfix

/-! ## Literals in texts of several lines -/

section Lines

variable {caseSensitive : Bool} {term : String}

/-- A literal that may occur anywhere matches where a piece of the text agrees with it. -/
theorem matchesIn_literalExpr_anywhere {text : String} :
    (literalExpr caseSensitive term .anywhere).matchesIn text = true ↔
      ∃ w, w <:+: text.toList ∧ List.Forall₂ (Agree caseSensitive) term.toList w := by
  rw [matchesIn_literalExpr]
  constructor
  · rintro ⟨before, w, after, htext, hw, -⟩
    exact ⟨w, ⟨before, after, htext.symm⟩, hw⟩
  · rintro ⟨w, ⟨before, after, htext⟩, hw⟩
    exact ⟨before, w, after, htext.symm, hw, trivial⟩

/-- A literal without an end of a line matches in one of two texts if it matches in both with an end
of a line between them. -/
theorem matchesIn_literalExpr_lines (hterm : '\n' ∉ term.toList) (a b : String) :
    (literalExpr caseSensitive term .anywhere).matchesIn (a ++ "\n" ++ b) =
      ((literalExpr caseSensitive term .anywhere).matchesIn a ||
        (literalExpr caseSensitive term .anywhere).matchesIn b) := by
  have hlines : (a ++ "\n" ++ b).toList = a.toList ++ '\n' :: b.toList := by simp
  rw [Bool.eq_iff_iff, Bool.or_eq_true]
  simp only [matchesIn_literalExpr_anywhere, hlines]
  constructor
  · rintro ⟨w, hinfix, hw⟩
    rcases (infix_append_cons_iff (newline_not_mem_of_agree hw hterm)).mp hinfix with ha | hb
    · exact .inl ⟨w, ha, hw⟩
    · exact .inr ⟨w, hb, hw⟩
  · rintro (⟨w, ha, hw⟩ | ⟨w, hb, hw⟩)
    · exact ⟨w, (infix_append_cons_iff (newline_not_mem_of_agree hw hterm)).mpr (.inl ha), hw⟩
    · exact ⟨w, (infix_append_cons_iff (newline_not_mem_of_agree hw hterm)).mpr (.inr hb), hw⟩

/-- A literal without an end of a line occurs in the combined text of a record if and only if it
occurs in its title, its comment or its content. -/
theorem matchesIn_combined (hterm : '\n' ∉ term.toList) (caseSensitive : Bool) (x : Record) :
    (literalExpr caseSensitive term .anywhere).matchesIn (x.text .combined) =
      ((literalExpr caseSensitive term .anywhere).matchesIn (x.text .title) ||
        (literalExpr caseSensitive term .anywhere).matchesIn (x.text .comment) ||
        (literalExpr caseSensitive term .anywhere).matchesIn (x.text .content)) := by
  have hcombined : x.text .combined =
      x.text .title ++ "\n" ++ x.text .comment ++ "\n" ++ x.text .content := rfl
  rw [hcombined, matchesIn_literalExpr_lines hterm, matchesIn_literalExpr_lines hterm]

end Lines

/-! ## Terms on the combined field -/

theorem PatternMode.eq_of_useRegex {mode : PatternMode} (h : mode.useRegex = false) :
    mode = { caseSensitive := mode.caseSensitive } := by
  cases mode
  cases h
  rfl

/-- A literal term behind other tokens, on a field that is searched, keeps of the records that they
match those in whose text it occurs or, if it is negated, all others. -/
theorem Reader.isMatch_readTokens_literal {r : Reader} {before : List Token}
    {caseSensitive : Bool} (hmode : (r.readTokens before).settings.mode = { caseSensitive })
    {f : TextField} (hfit : f.fit = .anywhere) (dashes : Nat) (term : String) (x : Record) :
    (r.readTokens (before ++ tokenize (termText dashes (.text f) term))).isMatch x =
      ((r.readTokens before).isMatch x &&
        (literalExpr caseSensitive term .anywhere).matchesIn (x.text f) == (dashes % 2 == 0)) := by
  have hname : (r.readTokens before).settings.nameOf
      ⟨some (Field.text f).name, dashes % 2 == 0, term⟩ = (Field.text f).name := rfl
  have htest : Test.ofValue r.zone (r.readTokens before).settings.mode term (.text f) =
      .ok (.text f {
        source := Pattern.sourceOf { caseSensitive } .anywhere term
        caseSensitive
        expr := literalExpr caseSensitive term .anywhere }) := by
    rw [Test.ofValue, hmode, hfit, ofTerm?_of_literal]
  have hwhole (g : TextField) (hg : Field.text f = .text g) (hgfit : g.fit = .whole) :
      (r.readTokens before).asksFor g = false := by
    cases hg
    rw [hfit] at hgfit
    cases hgfit
  rw [tokenize_termText, isMatch_readTokens_concat hname htest hwhole]
  rfl

/-- A literal without an end of a line occurs in the combined text of a record if and only if it
occurs in the title, the comment or the content. So behind any tokens that leave regular
expressions off, a term on the combined field matches what one of the three terms on its parts
matches, and negated what all three of them match when they are negated. -/
theorem isMatch_combined {term : String} (hterm : '\n' ∉ term.toList) :
    (∀ caseSensitive, ∃ p, Pattern.ofTerm? { caseSensitive } .anywhere term = some p ∧
      ∀ x : Record, p.occursIn x.combined =
        (p.occursIn (x.text .title) || p.occursIn (x.text .comment) || p.occursIn x.content)) ∧
    ∀ (r : Reader) (before : List Token), (r.readTokens before).settings.mode.useRegex = false →
      ∀ x : Record,
        let matched (dashes : Nat) (f : TextField) : Bool :=
          (r.readTokens (before ++ tokenize (termText dashes (.text f) term))).isMatch x
        matched 0 .combined = (matched 0 .title || matched 0 .comment || matched 0 .content) ∧
          matched 1 .combined = (matched 1 .title && matched 1 .comment && matched 1 .content) := by
  refine ⟨fun caseSensitive => ?_, fun r before hmode x => ?_⟩
  · exact ⟨_, ofTerm?_of_literal caseSensitive .anywhere term,
      matchesIn_combined hterm caseSensitive⟩
  · intro matched
    have hmode := PatternMode.eq_of_useRegex hmode
    generalize (r.readTokens before).settings.mode.caseSensitive = caseSensitive at hmode
    have hparts := matchesIn_combined hterm caseSensitive x
    have hmatched (dashes : Nat) {f : TextField} (hfit : f.fit = .anywhere) :=
      Reader.isMatch_readTokens_literal hmode hfit dashes term x
    refine ⟨?_, ?_⟩
    · simp only [matched]
      rw [hmatched 0 (f := .combined) rfl, hmatched 0 (f := .title) rfl,
        hmatched 0 (f := .comment) rfl, hmatched 0 (f := .content) rfl, hparts]
      simp only [Nat.zero_mod, beq_self_eq_true, beq_true, Bool.and_or_distrib_left]
    · simp only [matched]
      rw [hmatched 1 (f := .combined) rfl, hmatched 1 (f := .title) rfl,
        hmatched 1 (f := .comment) rfl, hmatched 1 (f := .content) rfl, hparts]
      simp only [Nat.reduceMod, Nat.reduceBEq, beq_false, Bool.not_or]
      cases (r.readTokens before).isMatch x with
      | false => rfl
      | true => simp only [Bool.true_and]

/-- The sign of the kelvin, which is a k up to case, in the last line of a record, behind a mode that
is set and taken back. -/
theorem isMatch_combined_kelvin :
    let before := tokenize "mc: -mc:"
    let x : Record := {
      id := "x", metadata := some { title := some "3" }, segment := some ⟨some "or\n4 \u212a"⟩ }
    '\n' ∉ "k".toList ∧ (({} : Reader).readTokens before).settings.mode.useRegex = false ∧
    (({} : Reader).readTokens (before ++ tokenize (termText 0 (.text .combined) "k"))).isMatch x =
      true ∧
    (({} : Reader).readTokens (before ++ tokenize (termText 1 (.text .combined) "k"))).isMatch x =
      false := by
  intro before x
  have hterm : '\n' ∉ "k".toList := by decide
  have hmode : (({} : Reader).readTokens before).settings.mode.useRegex = false := by
    decide +kernel
  obtain ⟨hasked, hnegated⟩ := (isMatch_combined hterm).2 {} before hmode x
  exact ⟨hterm, hmode, hasked.trans (by decide +kernel), hnegated.trans (by decide +kernel)⟩

end Query

end ArchiveSearch
