import ArchiveSearch.Proofs.Token.Seam

/-! # The written form of tokens

A token is written as a run of dashes, the name of its command with a colon, and its value in
quotes. Tokens that are written with blanks between them read back as they were, whatever their
values hold: the doubled quotes of a value never close it, and the quote behind it always does.
-/

namespace ArchiveSearch.Query

open Text (isBlank)

/-- A token that can be written: its command, if it has one, is a run of letters. -/
def Token.IsNamed (t : Token) : Prop :=
  ∀ name ∈ t.command, name ≠ "" ∧ ∀ c ∈ name.toList, c.isAlpha = true

/-- The free choices in writing a token: further pairs of dashes in front of it, and the blanks
between it and the next token. -/
structure Layout where
  pairs : Nat := 0
  gap : String := " "
  gap_ne_empty : gap ≠ "" := by decide
  isBlank_of_mem_gap : ∀ c ∈ gap.toList, isBlank c = true := by simp; decide

/-- A token in its written form: dashes, an odd number of them if it is negative, its command, and
its value in quotes. -/
def Token.written (t : Token) (l : Layout) : String :=
  String.ofList (List.replicate (2 * l.pairs + if t.positive then 0 else 1) '-') ++
    t.command.elim "" (· ++ ":") ++ quoteTerm t.value

/-- Tokens in their written forms, with blanks between them. -/
def writtenTokens : List (Token × Layout) → String
  | [] => ""
  | [(t, l)] => t.written l
  | (t, l) :: next :: rest => t.written l ++ l.gap ++ writtenTokens (next :: rest)

namespace Token

/-- A value with its quotes doubled closes at the quote behind it, unless another quote follows. -/
theorem closeQuote_quote (value after : List Char) (hafter : after.head? ≠ some '"') :
    closeQuote (value.flatMap (fun c => if c = '"' then ['"', '"'] else [c]) ++ '"' :: after) =
      some (value, after) := by
  induction value with
  | nil =>
      rw [List.flatMap_nil, List.nil_append, closeQuote, if_pos rfl]
      rintro tail - rfl
      simp at hafter
  | cons c value ih =>
      by_cases hc : c = '"'
      · simp only [hc, List.flatMap_cons, if_true, List.cons_append, List.nil_append, closeQuote,
          ih]
      · simp only [hc, List.flatMap_cons, if_false, List.cons_append, List.nil_append]
        rw [closeQuote, if_neg hc, ih]
        intro tail hquote _
        exact hc hquote

theorem readQuoted?_quote (value : List Char) :
    readQuoted? (quote value) = some (value, []) := by
  have hclose := closeQuote_quote value [] (by simp)
  simpa only [quote, List.cons_append, readQuoted?] using hclose

theorem readValue_quote (value : List Char) : readValue (quote value) = (value, []) := by
  rw [readValue, readQuoted?_quote]

theorem count_quote (value : List Char) : (quote value).count '"' % 2 = 0 := by
  have hinner : (value.flatMap fun c => if c = '"' then ['"', '"'] else [c]).count '"' % 2 = 0 := by
    induction value with
    | nil => rfl
    | cons c value ih =>
        by_cases hc : c = '"'
        · simp only [hc, List.flatMap_cons, if_true, List.count_append, List.count_cons_self,
            List.count_nil]
          omega
        · simpa [hc] using ih
  simp only [quote, List.cons_append, List.count_cons_self, List.count_append, List.count_nil]
  omega

/-- A run of letters with a colon is read as the name of a command. -/
theorem readName?_append_colon {name : List Char} (hname : name ≠ [])
    (hletters : ∀ c ∈ name, c.isAlpha = true) (rest : List Char) :
    readName? (name ++ ':' :: rest) = some (name, rest) := by
  have htake : (name ++ ':' :: rest).takeWhile Char.isAlpha = name := by
    rw [takeWhile_append_stop (by decide), List.takeWhile_eq_self_iff.mpr hletters]
  have hdrop : (name ++ ':' :: rest).dropWhile Char.isAlpha = ':' :: rest := by
    rw [dropWhile_append_stop (by decide), List.dropWhile_eq_nil_iff.mpr hletters, List.nil_append]
  unfold readName?
  rw [htake, hdrop]
  cases name with
  | nil => exact absurd rfl hname
  | cons c name => rfl

theorem readName?_quote (value : List Char) : readName? (quote value) = none := rfl

variable {t : Token} {l : Layout}

theorem toList_written (t : Token) (l : Layout) : (t.written l).toList =
    List.replicate (2 * l.pairs + if t.positive then 0 else 1) '-' ++
      (t.command.elim [] (·.toList ++ [':']) ++ quote t.value.toList) := by
  cases hcommand : t.command <;> simp [written, quoteTerm, hcommand]

/-- The dashes of a token say whether it is positive, and end where its command or its value
begins. -/
theorem read?_dashes (n : Nat) {c : Char} (hc : c ≠ '-') (rest : List Char) :
    (List.replicate n '-' ++ c :: rest).takeWhile (· == '-') = List.replicate n '-' ∧
      (List.replicate n '-' ++ c :: rest).dropWhile (· == '-') = c :: rest := by
  have hstop : (c == '-') = false := by simpa using hc
  have hall : ∀ d ∈ List.replicate n '-', (d == '-') = true := by simp
  constructor
  · rw [takeWhile_append_stop (p := (· == '-')) hstop, List.takeWhile_eq_self_iff.mpr hall]
  · rw [dropWhile_append_stop (p := (· == '-')) hstop, List.dropWhile_eq_nil_iff.mpr hall,
      List.nil_append]

theorem length_dashes (positive : Bool) (pairs : Nat) :
    ((List.replicate (2 * pairs + if positive then 0 else 1) '-').length % 2 == 0) = positive := by
  cases positive <;> simp

/-- The written form of a token is read as this token, and nothing is left of it. -/
theorem read?_written (ht : t.IsNamed) : read? (t.written l).toList = some (t, []) := by
  obtain ⟨command, positive, value⟩ := t
  rw [toList_written]
  -- The dashes end at a letter of the command, or at the quote in front of the value.
  cases command with
  | none =>
      obtain ⟨htake, hdrop⟩ := read?_dashes (2 * l.pairs + if positive then 0 else 1)
        (c := '"') (by decide) (quote value.toList).tail
      have hquote : '"' :: (quote value.toList).tail = quote value.toList := rfl
      rw [hquote] at htake hdrop
      have hstart : startsValue (quote value.toList) = true := by
        rw [startsValue, readQuoted?_quote]
        rfl
      simp only [Option.elim_none, List.nil_append, read?, htake, hdrop, readName?_quote, hstart,
        Bool.not_true, Bool.and_false, Bool.false_eq_true, if_false, readValue_quote,
        length_dashes, String.ofList_toList]
  | some name =>
      obtain ⟨hne, hletters⟩ := ht name rfl
      obtain ⟨c, letters, hname⟩ : ∃ c letters, name.toList = c :: letters :=
        List.exists_cons_of_ne_nil (mt String.toList_eq_nil_iff.mp hne)
      have hc : c ≠ '-' := by
        rintro rfl
        simpa using hletters '-' (by simp [hname])
      obtain ⟨htake, hdrop⟩ := read?_dashes (2 * l.pairs + if positive then 0 else 1) hc
        (letters ++ ':' :: quote value.toList)
      rw [← List.cons_append, ← hname] at htake hdrop
      have hread := readName?_append_colon (by simp [hname]) hletters (quote value.toList)
      simp only [Option.elim_some, List.append_assoc, List.cons_append, List.nil_append, read?,
        htake, hdrop, hread, readValue_quote, length_dashes, String.ofList_toList]

/-- The quotes of a written token are even in number. -/
theorem count_written (ht : t.IsNamed) : (t.written l).toList.count '"' % 2 = 0 := by
  have hcommand : (t.command.elim [] (·.toList ++ [':'])).count '"' = 0 := by
    cases hname : t.command with
    | none => rfl
    | some name =>
        have hletters := (ht name hname).2
        simp only [Option.elim_some, List.count_append, Nat.add_eq_zero_iff, List.count_eq_zero]
        refine ⟨fun hmem => ?_, by decide⟩
        simpa using hletters '"' hmem
  have hquote := count_quote t.value.toList
  rw [toList_written, List.count_append, List.count_append, hcommand, List.count_replicate]
  simpa using hquote

theorem scan_written (ht : t.IsNamed) : scan (t.written l).toList = [t] := by
  rw [scan_of_read?_eq_some (read?_written ht), scan_nil]

/-- A written token, a gap and anything else: the token, and the tokens of the rest. -/
theorem scan_written_gap (ht : t.IsNamed) (rest : List Char) :
    scan ((t.written l).toList ++ (l.gap.toList ++ rest)) = t :: scan rest := by
  obtain ⟨w, gap, hgap⟩ : ∃ w gap, l.gap.toList = w :: gap :=
    List.exists_cons_of_ne_nil (mt String.toList_eq_nil_iff.mp l.gap_ne_empty)
  have hblank := l.isBlank_of_mem_gap
  rw [hgap] at hblank ⊢
  rw [List.cons_append, scan_append_blank (count_written ht) (hblank w List.mem_cons_self),
    scan_written ht, scan_blanks fun c hc => hblank c (List.mem_cons_of_mem w hc)]
  rfl

theorem scan_writtenTokens {pieces : List (Token × Layout)} (hpieces : ∀ p ∈ pieces, p.1.IsNamed) :
    scan (writtenTokens pieces).toList = pieces.map Prod.fst := by
  induction pieces with
  | nil => exact scan_nil
  | cons piece rest ih =>
      have ht := hpieces piece List.mem_cons_self
      cases rest with
      | nil => exact scan_written ht
      | cons next rest =>
          rw [writtenTokens, String.toList_append, String.toList_append, List.append_assoc,
            scan_written_gap ht, ih fun p hp => hpieces p (List.mem_cons_of_mem piece hp)]
          rfl

theorem readName?_letters {text name rest : List Char} (h : readName? text = some (name, rest)) :
    name ≠ [] ∧ ∀ c ∈ name, c.isAlpha = true := by
  unfold readName? at h
  split at h
  next c letters after hname hrest =>
    obtain ⟨rfl, -⟩ : c :: letters = name ∧ after = rest := by simpa using h
    exact ⟨by simp, fun d hd => List.mem_takeWhile_imp (hname ▸ hd)⟩
  next => simp at h

theorem isNamed_of_read? {text after : List Char} (h : read? text = some (t, after)) :
    t.IsNamed := by
  simp only [read?] at h
  split at h
  next name rest hname =>
    simp only [Option.some.injEq, Prod.mk.injEq] at h
    rw [← h.1]
    rintro _ ⟨⟩
    obtain ⟨hne, hletters⟩ := readName?_letters hname
    exact ⟨by simpa using hne, by simpa using hletters⟩
  next =>
    split at h
    next => simp at h
    next =>
      simp only [Option.some.injEq, Prod.mk.injEq] at h
      rw [← h.1]
      rintro _ ⟨⟩

/-- Every token of a text can be written. -/
theorem isNamed_of_mem_scan {text : List Char} : ∀ t ∈ scan text, t.IsNamed := by
  fun_induction scan text with
  | case1 text token after hread hlength ih =>
      intro t ht
      rcases List.mem_cons.mp ht with rfl | ht
      · exact isNamed_of_read? hread
      · exact ih t ht
  | case2 => simp
  | case3 c text hread ih => exact ih

end Token

/-- Written tokens read back exactly, whatever their values hold and however many dashes and blanks
they are written with. So writing the tokens of any text and reading them again changes nothing. -/
theorem tokenize_writtenTokens :
    (∀ pieces : List (Token × Layout), (∀ p ∈ pieces, p.1.IsNamed) →
      tokenize (writtenTokens pieces) = pieces.map Prod.fst) ∧
    ∀ (text : String) (pieces : List (Token × Layout)), pieces.map Prod.fst = tokenize text →
      tokenize (writtenTokens pieces) = tokenize text := by
  refine ⟨fun pieces hpieces => Token.scan_writtenTokens hpieces, fun text pieces htext => ?_⟩
  rw [← htext]
  refine Token.scan_writtenTokens fun p hp => ?_
  have hmem : p.1 ∈ tokenize text := htext ▸ List.mem_map_of_mem hp
  exact Token.isNamed_of_mem_scan p.1 hmem

/-- A value with quotes at both ends and a bare token with an empty value, behind three dashes and
none. -/
theorem tokenize_writtenTokens_quotes :
    (∀ name ∈ some "title", name ≠ "" ∧ ∀ c ∈ name.toList, c.isAlpha = true) ∧
    tokenize (writtenTokens [(⟨some "title", false, "\"a: -b\""⟩, { pairs := 1, gap := " \n" }),
      (⟨none, true, ""⟩, {})]) = [⟨some "title", false, "\"a: -b\""⟩, ⟨none, true, ""⟩] := by
  have hname : ∀ name ∈ some "title", name ≠ "" ∧ ∀ c ∈ name.toList, c.isAlpha = true := by
    rintro name ⟨⟩
    exact ⟨by decide, List.all_eq_true.mp (by decide)⟩
  refine ⟨hname, tokenize_writtenTokens.1 [_, _] fun p hp => ?_⟩
  simp only [List.mem_cons, List.not_mem_nil, or_false] at hp
  rcases hp with rfl | rfl
  · exact hname
  · rintro name ⟨⟩

end ArchiveSearch.Query
