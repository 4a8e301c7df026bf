import ArchiveSearch.Query.Token
import Mathlib.Algebra.Group.Nat.Even
import Mathlib.Data.List.TakeWhile

/-! # Tokens on both sides of a blank

Quotes are taken in pairs. Behind a text with an even number of quotes no quote is open, so a
blank there ends the last token, and what follows is read as if it stood alone. Nothing that is
read before the blank depends on the text behind it.
-/

namespace ArchiveSearch.Query.Token

open Text (isBlank)

section Blanks

variable {c : Char}

theorem ne_of_isBlank {d : Char} (hc : isBlank c = true) (hd : isBlank d = false) : c ≠ d := by
  rintro rfl
  simp [hc] at hd

theorem isBare_eq_false_of_isBlank (hc : isBlank c = true) : isBare c = false := by
  simp [isBare, hc]

theorem isAlpha_eq_false_of_isBlank (hc : isBlank c = true) : c.isAlpha = false := by
  have hcode : c.toNat = c.val.toNat := rfl
  have hA : 'A'.val.toNat = 65 := rfl
  have hZ : 'Z'.val.toNat = 90 := rfl
  have ha : 'a'.val.toNat = 97 := rfl
  have hz : 'z'.val.toNat = 122 := rfl
  by_contra hletter
  simp only [isBlank, Bool.or_eq_true, Bool.and_eq_true, beq_iff_eq, decide_eq_true_eq] at hc
  change ¬(decide ('A'.val ≤ c.val ∧ c.val ≤ 'Z'.val) ||
    decide ('a'.val ≤ c.val) && decide (c.val ≤ 'z'.val)) = false at hletter
  simp only [Bool.not_eq_false, Bool.or_eq_true, Bool.and_eq_true, decide_eq_true_eq,
    UInt32.le_iff_toNat_le] at hletter
  omega

end Blanks

section Prefixes

variable {α : Type} {p : α → Bool} {stop : α}

/-- Taking from the front ends at the latest where the condition fails. -/
theorem takeWhile_append_stop (hstop : p stop = false) (front rest : List α) :
    (front ++ stop :: rest).takeWhile p = front.takeWhile p := by
  induction front with
  | nil => simp [hstop]
  | cons a front ih =>
      rw [List.cons_append, List.takeWhile_cons, List.takeWhile_cons, ih]

theorem dropWhile_append_stop (hstop : p stop = false) (front rest : List α) :
    (front ++ stop :: rest).dropWhile p = front.dropWhile p ++ stop :: rest := by
  induction front with
  | nil => simp [hstop]
  | cons a front ih =>
      rw [List.cons_append, List.dropWhile_cons, List.dropWhile_cons, ih]
      split <;> rfl

/-- What is dropped does not change how often a character occurs that is never dropped. -/
theorem count_dropWhile [DecidableEq α] (hstop : p stop = false) (entries : List α) :
    (entries.dropWhile p).count stop = entries.count stop := by
  induction entries with
  | nil => rfl
  | cons a rest ih =>
      rw [List.dropWhile_cons]
      split
      next ha =>
        have hne : a ≠ stop := fun h => by simp [h, hstop] at ha
        rw [ih, List.count_cons_of_ne hne]
      next => rfl

end Prefixes

variable {w : Char}

/-- Behind an opening quote, in a text with an odd number of quotes, a quoted value always closes,
and it closes at the same quote whatever follows behind a blank. -/
theorem closeQuote_append_blank {text : List Char} (hodd : text.count '"' % 2 = 1)
    (hw : isBlank w = true) :
    ∃ value after, closeQuote text = some (value, after) ∧ after.count '"' % 2 = 0 ∧
      ∀ rest, closeQuote (text ++ w :: rest) = some (value, after ++ w :: rest) := by
  have hquote : w ≠ '"' := ne_of_isBlank hw (by decide)
  fun_induction closeQuote text with
  | case1 => simp at hodd
  | case2 text value after hclose ih =>
      -- A pair of quotes leaves the parity as it is, so the value closes behind the pair.
      obtain ⟨value', after', hread, heven, hrest⟩ := ih (by simp at hodd; omega)
      rw [hclose] at hread
      obtain ⟨rfl, rfl⟩ : value = value' ∧ after = after' := by simpa using hread
      refine ⟨_, _, rfl, heven, fun rest => ?_⟩
      simp only [List.cons_append, closeQuote, hrest rest]
  | case3 text hclose ih =>
      obtain ⟨_, _, hread, -⟩ := ih (by simp at hodd; omega)
      simp [hclose] at hread
  | case4 text hpair =>
      refine ⟨_, _, rfl, by simp at hodd; omega, fun rest => ?_⟩
      cases text with
      | nil => simp [closeQuote, hquote]
      | cons d text =>
          have hd : d ≠ '"' := fun h => hpair text rfl (by rw [h])
          rw [List.cons_append, closeQuote, if_pos rfl]
          intro tail _ htail
          exact hd (List.cons.inj htail).1
  | case5 c text hpair hc value after hclose ih =>
      obtain ⟨value', after', hread, heven, hrest⟩ := ih (by simpa [hc] using hodd)
      rw [hclose] at hread
      obtain ⟨rfl, rfl⟩ : value = value' ∧ after = after' := by simpa using hread
      refine ⟨_, _, rfl, heven, fun rest => ?_⟩
      rw [List.cons_append, closeQuote, if_neg hc, hrest rest]
      intro tail hquote _
      exact hc hquote
  | case6 c text hpair hc hclose ih =>
      obtain ⟨_, _, hread, -⟩ := ih (by simpa [hc] using hodd)
      simp [hclose] at hread

/-- In a text with an even number of quotes, a quote at the front opens a quoted value. -/
theorem readQuoted?_append_blank {text : List Char} (heven : text.count '"' % 2 = 0)
    (hw : isBlank w = true) :
    (∃ value after, readQuoted? text = some (value, after) ∧ after.count '"' % 2 = 0 ∧
      ∀ rest, readQuoted? (text ++ w :: rest) = some (value, after ++ w :: rest)) ∨
    text.head? ≠ some '"' ∧ readQuoted? text = none ∧
      ∀ rest, readQuoted? (text ++ w :: rest) = none := by
  have hquote : w ≠ '"' := ne_of_isBlank hw (by decide)
  cases text with
  | nil => exact .inr ⟨by simp, rfl, fun rest => by simp [readQuoted?, hquote]⟩
  | cons c text =>
      by_cases hc : c = '"'
      · subst hc
        exact .inl (closeQuote_append_blank (by simp at heven; omega) hw)
      · exact .inr ⟨by simpa using hc, by simp [readQuoted?, hc],
          fun rest => by simp [readQuoted?, hc]⟩

theorem readValue_append_blank {text : List Char} (heven : text.count '"' % 2 = 0)
    (hw : isBlank w = true) :
    (readValue text).2.count '"' % 2 = 0 ∧ ∀ rest, readValue (text ++ w :: rest) =
      ((readValue text).1, (readValue text).2 ++ w :: rest) := by
  unfold readValue
  obtain ⟨value, after, hread, hafter, hrest⟩ | ⟨-, hread, hrest⟩ :=
    readQuoted?_append_blank heven hw
  · simp only [hread, hrest]
    exact ⟨hafter, fun _ => trivial⟩
  · simp only [hread, hrest]
    have hbare := isBare_eq_false_of_isBlank hw
    refine ⟨?_, fun rest => ?_⟩
    · rwa [count_dropWhile (by decide)]
    · rw [takeWhile_append_stop hbare, dropWhile_append_stop hbare]

theorem readName?_append_blank (text : List Char) (hw : isBlank w = true) (rest : List Char) :
    readName? (text ++ w :: rest) =
      (readName? text).map fun (name, after) => (name, after ++ w :: rest) := by
  have hcolon : w ≠ ':' := ne_of_isBlank hw (by decide)
  have halpha := isAlpha_eq_false_of_isBlank hw
  unfold readName?
  rw [takeWhile_append_stop halpha, dropWhile_append_stop halpha]
  cases text.takeWhile Char.isAlpha with
  | nil => rfl
  | cons c name =>
      cases text.dropWhile Char.isAlpha with
      | nil => simp [hcolon]
      | cons d after =>
          by_cases hd : d = ':'
          · simp [hd]
          · simp [hd]

/-- The name of a command holds no quotes. -/
theorem count_readName? {text name after : List Char} (h : readName? text = some (name, after)) :
    after.count '"' = text.count '"' := by
  have hdrop : text.dropWhile Char.isAlpha = ':' :: after := by
    unfold readName? at h
    split at h
    next hrest =>
      rw [hrest]
      simp only [Option.some.injEq, Prod.mk.injEq] at h
      rw [h.2]
    next => simp at h
  have hquote : Char.isAlpha '"' = false := by decide
  have hcount := count_dropWhile hquote text
  rw [hdrop] at hcount
  simpa using hcount

theorem startsValue_append_blank {text : List Char} (heven : text.count '"' % 2 = 0)
    (hw : isBlank w = true) (rest : List Char) :
    startsValue (text ++ w :: rest) = startsValue text := by
  have hbare := isBare_eq_false_of_isBlank hw
  unfold startsValue
  obtain ⟨value, after, hread, -, hrest⟩ | ⟨-, hread, hrest⟩ := readQuoted?_append_blank heven hw
  · rw [hread, hrest rest]
    rfl
  · rw [hread, hrest rest]
    cases text with
    | nil => simp [hbare]
    | cons c text => rfl

/-- A text with an even number of quotes begins with the same token, or with none, when a blank
and anything else follows; behind the token the quotes are still even in number. -/
theorem read?_append_blank {text : List Char} (heven : text.count '"' % 2 = 0)
    (hw : isBlank w = true) :
    (∀ token after, read? text = some (token, after) → after.count '"' % 2 = 0) ∧
    ∀ rest, read? (text ++ w :: rest) =
      (read? text).map fun (token, after) => (token, after ++ w :: rest) := by
  have hdash : (w == '-') = false := by simpa using ne_of_isBlank hw (by decide)
  have hbody : (text.dropWhile (· == '-')).count '"' % 2 = 0 := by
    rwa [count_dropWhile (by decide)]
  -- Neither the dashes nor the name hold quotes, so all of them are left to the value.
  have hstart := startsValue_append_blank hbody hw
  obtain ⟨hvalue, hvalueRest⟩ := readValue_append_blank hbody hw
  unfold read?
  simp only [takeWhile_append_stop (p := (· == '-')) hdash,
    dropWhile_append_stop (p := (· == '-')) hdash, readName?_append_blank _ hw, hstart, hvalueRest]
  cases hname : readName? (text.dropWhile (· == '-')) with
  | none =>
      simp only [Option.map_none]
      split
      · simp
      · simp only [Option.some.injEq, Prod.mk.injEq, Option.map_some, and_imp, implies_true,
          and_true]
        rintro _ _ - rfl
        exact hvalue
  | some found =>
      obtain ⟨name, after⟩ := found
      obtain ⟨hafter, hafterRest⟩ := readValue_append_blank
        ((congrArg (· % 2) (count_readName? hname)).trans hbody) hw
      simp only [Option.map_some, hafterRest, Option.some.injEq, Prod.mk.injEq, and_imp,
        implies_true, and_true]
      rintro _ _ - rfl
      exact hafter

/-- Where no token begins in a text with an even number of quotes, no quote is skipped. -/
theorem count_tail_of_read?_eq_none {c : Char} {text : List Char}
    (heven : (c :: text).count '"' % 2 = 0) (hread : read? (c :: text) = none) :
    text.count '"' % 2 = 0 := by
  have hc : c ≠ '"' := by
    rintro rfl
    have hodd : text.count '"' % 2 = 1 := by simp at heven; omega
    obtain ⟨value, after, hclose, -⟩ := closeQuote_append_blank (w := ' ') hodd (by decide)
    simp [read?, readName?, startsValue, readQuoted?, hclose] at hread
  simpa [hc] using heven

theorem scan_of_read?_eq_some {text after : List Char} {token : Token}
    (h : read? text = some (token, after)) : scan text = token :: scan after := by
  rw [scan]
  split
  next heq =>
    rw [h] at heq
    simp only [Option.some.injEq, Prod.mk.injEq] at heq
    rw [heq.1, heq.2]
  next heq => simp [h] at heq

theorem scan_of_read?_eq_none {c : Char} {text : List Char} (h : read? (c :: text) = none) :
    scan (c :: text) = scan text := by
  rw [scan]
  split
  next heq => simp [h] at heq
  next => rfl

@[simp] theorem scan_nil : scan [] = [] := by
  rw [scan]
  rfl

/-- No token begins at a blank. -/
theorem read?_blank (hw : isBlank w = true) (rest : List Char) : read? (w :: rest) = none := by
  have hcount : List.count '"' [] % 2 = 0 := rfl
  have hnil : read? [] = none := rfl
  have hread := (read?_append_blank hcount hw).2 rest
  rwa [hnil] at hread

/-- Blanks in front of a text do not change its tokens. -/
theorem scan_blanks {gap : List Char} (hgap : ∀ c ∈ gap, isBlank c = true) (rest : List Char) :
    scan (gap ++ rest) = scan rest := by
  induction gap with
  | nil => rfl
  | cons c gap ih =>
      rw [List.cons_append, scan_of_read?_eq_none (read?_blank (hgap c List.mem_cons_self) _),
        ih fun d hd => hgap d (List.mem_cons_of_mem c hd)]

/-- The tokens around a blank are those in front of it and those behind it, if no quote is open
there. -/
theorem scan_append_blank {text : List Char} (heven : text.count '"' % 2 = 0)
    (hw : isBlank w = true) (rest : List Char) :
    scan (text ++ w :: rest) = scan text ++ scan rest := by
  fun_induction scan text with
  | case1 text token after hread hlength ih =>
      obtain ⟨hafter, hrest⟩ := read?_append_blank heven hw
      have hfirst : read? (text ++ w :: rest) = some (token, after ++ w :: rest) := by
        rw [hrest, hread]
        rfl
      rw [scan_of_read?_eq_some hfirst, ih (hafter _ _ hread), List.cons_append]
  | case2 hread => simp [scan_of_read?_eq_none (read?_blank hw rest)]
  | case3 c text hread ih =>
      -- What is skipped is no quote, or else a token would begin there.
      rw [List.cons_append, scan_of_read?_eq_none, ih (count_tail_of_read?_eq_none heven hread)]
      rw [← List.cons_append, (read?_append_blank heven hw).2, hread]
      rfl

end ArchiveSearch.Query.Token

namespace ArchiveSearch.Query

/-- Tokens of two texts with a space between them. -/
theorem tokenize_append_space {a : String} (heven : a.toList.count '"' % 2 = 0) (b : String) :
    tokenize (a ++ " " ++ b) = tokenize a ++ tokenize b := by
  have htext : (a ++ " " ++ b).toList = a.toList ++ ' ' :: b.toList := by simp
  rw [tokenize, htext, Token.scan_append_blank heven (by decide)]
  rfl

/-- A blank outside quotes separates. If the quotes of a text are even in number, its tokens do not
depend on what follows behind a blank, and what follows is read as if it stood alone, also where
it leaves a quote open. -/
theorem tokenize_append_blank {a : String} (hquotes : Even (a.toList.count '"')) {w : Char}
    (hw : Text.isBlank w = true) (b : String) :
    tokenize (a ++ String.singleton w ++ b) = tokenize a ++ tokenize b := by
  have htext : (a ++ String.singleton w ++ b).toList = a.toList ++ w :: b.toList := by simp
  rw [tokenize, htext, Token.scan_append_blank (Nat.even_iff.mp hquotes) hw]
  rfl

/-- A command without a value and a run of dashes in front of the blank, and an open quote right
behind it. -/
theorem tokenize_append_blank_openQuote :
    Even ("\"x \"\" y\" title: -".toList.count '"') ∧ Text.isBlank '\u3000' = true ∧
    tokenize ("\"x \"\" y\" title: -" ++ String.singleton '\u3000' ++ "\"b") =
      [⟨none, true, "x \" y"⟩, ⟨some "title", true, ""⟩, ⟨none, false, ""⟩, ⟨none, true, "b"⟩] := by
  have hquotes : Even ("\"x \"\" y\" title: -".toList.count '"') := by decide
  have hw : Text.isBlank '\u3000' = true := by decide
  refine ⟨hquotes, hw, ?_⟩
  rw [tokenize_append_blank hquotes hw]
  decide +kernel

end ArchiveSearch.Query
