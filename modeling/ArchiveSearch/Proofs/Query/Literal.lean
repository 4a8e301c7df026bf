import ArchiveSearch.Proofs.Regex.Literal
import ArchiveSearch.Query.Pattern

/-! # Literal terms

Outside regular expressions a term means what is typed. Its pattern can always be made, and it
occurs in a text if and only if a piece of the text agrees with the term character by character;
a term that has to fit as a whole must moreover fill the lines that it stands in.
-/

namespace ArchiveSearch.Query

open Regex (CharSet Expr)

/-- Whether two characters are equal, or the same letter where case does not count. -/
def Agree (caseSensitive : Bool) (c d : Char) : Prop :=
  if caseSensitive then c = d else Text.sameLetter c d = true

/-- Whether a pattern may stand between two parts of a text. One that has to fit as a whole stands
at the ends of the text or at those of lines. -/
def Fit.Admits (before after : List Char) : Fit → Prop
  | .anywhere => True
  | .whole =>
      (before = [] ∨ before.getLast? = some '\n') ∧ (after = [] ∨ after.head? = some '\n')

/-- The set of the characters that agree with a character. -/
def agreeing (caseSensitive : Bool) (c : Char) : CharSet :=
  if caseSensitive then .single c else .alike c.toNat

theorem holds_range {first last n : Nat} :
    Text.Ranges.holds #[(first, last)] n = true ↔ first ≤ n ∧ n ≤ last := by
  have hnowhere (rs : Text.Ranges) (n lo : Nat) : rs.holdsBetween n lo lo = false := by
    rw [Text.Ranges.holdsBetween, if_neg (Nat.lt_irrefl lo)]
  change Text.Ranges.holdsBetween _ n 0 1 = true ↔ _
  rw [Text.Ranges.holdsBetween]
  simp [hnowhere]

theorem contains_single {c d : Char} : (CharSet.single c).contains d.toNat = true ↔ c = d := by
  rw [CharSet.single, CharSet.contains, holds_range, ← Char.toNat_inj, Nat.le_antisymm_iff]

theorem contains_agreeing {caseSensitive : Bool} {c d : Char} :
    (agreeing caseSensitive c).contains d.toNat = true ↔ Agree caseSensitive c d := by
  cases caseSensitive with
  | true => exact contains_single
  | false =>
      rw [agreeing, if_neg (by decide), Agree, if_neg (by decide), CharSet.contains,
        Text.sameLetter, beq_iff_eq, beq_iff_eq]
      exact eq_comm

/-- The expression of a literal: its characters, one after the other, and the anchors of a line
around them if it has to fit as a whole. -/
def literalExpr (caseSensitive : Bool) (term : String) : Fit → Expr
  | .anywhere => .ofItems ((term.toList.map (agreeing caseSensitive)).map .set)
  | .whole => .ofItems (.look .startLine ::
      ((term.toList.map (agreeing caseSensitive)).map .set ++ [.look .endLine]))

theorem meaning?_ofChar (caseSensitive : Bool) (c : Char) :
    (Regex.Syntax.ofChar c).meaning? (Pattern.flags caseSensitive) =
      some (.set (agreeing caseSensitive c), Pattern.flags caseSensitive) := by
  cases caseSensitive <;> rfl

/-- The source of a literal always means an expression. -/
theorem ofSource?_sourceOf (caseSensitive : Bool) (fit : Fit) (term : String) :
    Expr.ofSource? (Pattern.flags caseSensitive) (Pattern.sourceOf { caseSensitive } fit term) =
      some (literalExpr caseSensitive term fit) := by
  have hchars : List.Forall₂ (fun item e =>
        item.meaning? (Pattern.flags caseSensitive) = some (e, Pattern.flags caseSensitive))
      (term.toList.map Regex.Syntax.ofChar)
      ((term.toList.map (agreeing caseSensitive)).map Expr.set) := by
    rw [List.map_map, List.forall₂_map_left_iff, List.forall₂_map_right_iff, List.forall₂_same]
    exact fun c _ => meaning?_ofChar caseSensitive c
  cases fit with
  | anywhere =>
      have hread := Regex.Syntax.read?_escape term
      have hmeaning := Regex.Syntax.meaning?_ofItems hchars
      simp [Expr.ofSource?, Pattern.sourceOf, hread, hmeaning, literalExpr]
  | whole =>
      have hread := Regex.Syntax.read?_escape_line term
      have hline : List.Forall₂ (fun item e =>
            item.meaning? (Pattern.flags caseSensitive) = some (e, Pattern.flags caseSensitive))
          (.anchor .caret :: (term.toList.map Regex.Syntax.ofChar ++ [.anchor .dollar]))
          (.look .startLine ::
            ((term.toList.map (agreeing caseSensitive)).map Expr.set ++ [.look .endLine])) :=
        .cons rfl (List.rel_append hchars (.cons rfl .nil))
      have hmeaning := Regex.Syntax.meaning?_ofItems hline
      simp [Expr.ofSource?, Pattern.sourceOf, hread, hmeaning, literalExpr]

/-- The pattern of a literal can always be made; no limit is put on its size. -/
theorem ofTerm?_of_literal (caseSensitive : Bool) (fit : Fit) (term : String) :
    Pattern.ofTerm? { caseSensitive } fit term = some {
      source := Pattern.sourceOf { caseSensitive } fit term
      caseSensitive
      expr := literalExpr caseSensitive term fit } := by
  simp [Pattern.ofTerm?, ofSource?_sourceOf, guard]

theorem forall₂_agreeing {caseSensitive : Bool} {term w : List Char} :
    List.Forall₂ (fun s c => s.contains c.toNat = true) (term.map (agreeing caseSensitive)) w ↔
      List.Forall₂ (Agree caseSensitive) term w := by
  simp only [List.forall₂_map_left_iff, contains_agreeing]

/-- Where a literal matches. -/
theorem matchesIn_literalExpr {caseSensitive : Bool} {term text : String} {fit : Fit} :
    (literalExpr caseSensitive term fit).matchesIn text = true ↔
      ∃ before w after, text.toList = before ++ w ++ after ∧
        List.Forall₂ (Agree caseSensitive) term.toList w ∧ fit.Admits before after := by
  cases fit with
  | anywhere =>
      simp only [literalExpr, Expr.matchesIn_ofItems_set, forall₂_agreeing, Fit.Admits, and_true]
  | whole => simp only [literalExpr, Expr.matchesIn_ofItems_line, forall₂_agreeing, Fit.Admits]

/-- A term that is no regular expression means what is typed. It always becomes a pattern, and the
pattern occurs in a text if and only if the text has a piece of the same length that agrees with
the term character by character, in a place that its fit admits. -/
theorem ofTerm?_means_typed (caseSensitive : Bool) (fit : Fit) (term : String) :
    ∃ p, Pattern.ofTerm? { caseSensitive, useRegex := false } fit term = some p ∧
      ∀ text, p.occursIn text = true ↔ ∃ before w after, text.toList = before ++ w ++ after ∧
        w.length = term.length ∧ List.Forall₂ (Agree caseSensitive) term.toList w ∧
        fit.Admits before after := by
  refine ⟨_, ofTerm?_of_literal caseSensitive fit term, fun text => ?_⟩
  rw [Pattern.occursIn, matchesIn_literalExpr]
  constructor
  · rintro ⟨before, w, after, htext, hw, hfit⟩
    refine ⟨before, w, after, htext, ?_, hw, hfit⟩
    rw [← hw.length_eq, String.length_toList]
  · rintro ⟨before, w, after, htext, -, hw, hfit⟩
    exact ⟨before, w, after, htext, hw, hfit⟩

end ArchiveSearch.Query
