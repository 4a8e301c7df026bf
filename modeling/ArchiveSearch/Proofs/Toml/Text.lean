import ArchiveSearch.Toml.Text
import Mathlib.Data.List.TakeWhile

/-! # Strings of TOML in their written forms

Every string reads back from the form in which it is written, whatever quotes, slashes, line breaks
and control characters it holds. A character is written as it is or as an escape that stands for
it. In the forms with three quotes at either end at most two quotes follow one another inside, so
that the closing quotes are found where a longer run of quotes begins.
-/

namespace ArchiveSearch.Toml

/-! ## Characters -/

theorem ne_of_kind {p : Char → Bool} {c d : Char} (hc : p c = true) (hd : p d = false) : c ≠ d := by
  rintro rfl
  exact Bool.false_ne_true (hd.symm.trans hc)

theorem toNat_le_of_isPlain_eq_false {c : Char} (h : isPlain c = false) : c.toNat ≤ 127 := by
  simp only [isPlain, Bool.or_eq_false_iff, Bool.and_eq_false_iff, decide_eq_false_iff_not,
    bne_eq_false_iff_eq] at h
  obtain ⟨-, h | rfl⟩ := h
  · have hlt : c.toNat < 32 := Nat.not_le.mp fun hle => h (Char.le_def.mpr hle)
    omega
  · decide

theorem digitValue?_hexDigit {n : Nat} (h : n < 16) : digitValue? (hexDigit n) = some n := by
  revert n
  decide

theorem readCode?_hexDigits {c : Char} (h : c.toNat ≤ 127) (rest : List Char) :
    readCode? 4 ('0' :: '0' :: hexDigit (c.toNat / 16) :: hexDigit (c.toNat % 16) :: rest) =
      some (c, rest) := by
  have hnumber : numberOf? 16 ['0', '0', hexDigit (c.toNat / 16), hexDigit (c.toNat % 16)] =
      some c.toNat := by
    have hlow := Nat.mod_lt c.toNat (by decide : 0 < 16)
    have hhigh : c.toNat / 16 < 16 := by omega
    have hzero : digitValue? '0' = some 0 := rfl
    simp only [numberOf?, List.foldlM_cons, List.foldlM_nil, hzero, digitValue?_hexDigit hlow,
      digitValue?_hexDigit hhigh, Option.bind_some, if_pos hlow, if_pos hhigh]
    simp
    omega
  have hvalid : c.toNat.isValidChar := c.valid
  unfold readCode?
  refine Option.bind_eq_some_iff.mpr ⟨(), if_pos rfl, ?_⟩
  refine Option.bind_eq_some_iff.mpr ⟨_, hnumber, ?_⟩
  rw [if_pos hvalid, Char.ofNat_toNat]
  rfl

/-- A character is written as it is, or as an escape that stands for it. The escape does not look
like an escaped line break. -/
theorem escapeChar_cases (c : Char) :
    (escapeChar c = [c] ∧ isPlain c = true ∧ c ≠ '\\') ∨
      ∃ first more, escapeChar c = '\\' :: first :: more ∧
        (isGap first || first == '\n' || first == '\r') = false ∧
        ∀ rest, readEscape? (first :: (more ++ rest)) = some (c, rest) := by
  by_cases hshort : c ∈ ['\x08', '\t', '\n', '\x0c', '\r', '\\']
  · simp only [List.mem_cons, List.not_mem_nil, or_false] at hshort
    rcases hshort with rfl | rfl | rfl | rfl | rfl | rfl
    all_goals exact .inr ⟨_, _, rfl, rfl, fun _ => rfl⟩
  · simp only [List.mem_cons, List.not_mem_nil, or_false, not_or] at hshort
    have hescape : escapeChar c = if !isPlain c then
        ['\\', 'u', '0', '0', hexDigit (c.toNat / 16), hexDigit (c.toNat % 16)] else [c] := by
      simp [escapeChar, hshort]
    rw [hescape]
    cases hplain : isPlain c with
    | true => exact .inl ⟨rfl, rfl, hshort.2.2.2.2.2⟩
    | false =>
        refine .inr ⟨'u', _, rfl, rfl, ?_⟩
        intro rest
        rw [readEscape?, if_pos (by decide)]
        exact readCode?_hexDigits (toNat_le_of_isPlain_eq_false hplain) rest

/-- How a character is written in front of the rest of a string: a quote or a line break as it is
where there is room for it, any other character as it is if it is plain, and all else as an escape,
which does not look like an escaped line break. -/
inductive WrittenAs (room : Nat) (lines : Bool) (run : Nat) (s : List Char) :
    Char → List Char → Prop where
  | quote (h : run < room) :
      WrittenAs room lines run s '"' ('"' :: escapeWith room lines (run + 1) s)
  | newLine (h : lines = true) :
      WrittenAs room lines run s '\n' ('\n' :: escapeWith room lines 0 s)
  | plain {c : Char} (h : isPlain c = true) (hquote : c ≠ '"') (hslash : c ≠ '\\') :
      WrittenAs room lines run s c (c :: escapeWith room lines 0 s)
  | escape {c first : Char} {more : List Char}
      (hfirst : (isGap first || first == '\n' || first == '\r') = false)
      (hread : ∀ rest, readEscape? (first :: (more ++ rest)) = some (c, rest)) :
      WrittenAs room lines run s c ('\\' :: first :: (more ++ escapeWith room lines 0 s))

theorem writtenAs_escapeWith (room : Nat) (lines : Bool) (run : Nat) (s : List Char) (c : Char) :
    WrittenAs room lines run s c (escapeWith room lines run (c :: s)) := by
  rw [escapeWith]
  split
  next hquote =>
    obtain rfl := eq_of_beq hquote
    split
    next hroom => exact .quote hroom
    next =>
      have hescape : WrittenAs room lines run s '"'
          ('\\' :: '"' :: ([] ++ escapeWith room lines 0 s)) := .escape rfl fun _ => rfl
      exact hescape
  next hquote =>
    split
    next hline =>
      rw [Bool.and_eq_true, beq_iff_eq] at hline
      obtain ⟨rfl, hlines⟩ := hline
      exact .newLine hlines
    next =>
      rcases escapeChar_cases c with ⟨hself, hplain, hslash⟩ | ⟨first, more, hescape, hfirst, hread⟩
      · rw [hself]
        exact .plain hplain (by simpa using hquote) hslash
      · rw [hescape]
        exact .escape hfirst hread

/-! ## Strings on one line -/

section Basic

variable {rest : List Char}

theorem readBasic?_escape {text after : List Char} {c : Char}
    (h : readEscape? text = some (c, after)) :
    readBasic? ('\\' :: text) = (readBasic? after).map fun p => (c :: p.1, p.2) := by
  rw [readBasic?]
  simp only [show ('\\' == '"') = false from rfl, Bool.false_eq_true, if_false,
    show ('\\' == '\\') = true from rfl, if_true]
  split
  next hnone => simp [h] at hnone
  next e after' hsome =>
    rw [h] at hsome
    cases hsome
    rfl

theorem readBasic?_plain {c : Char} (hquote : c ≠ '"') (hslash : c ≠ '\\')
    (hplain : isPlain c = true) :
    readBasic? (c :: rest) = (readBasic? rest).map fun p => (c :: p.1, p.2) := by
  rw [readBasic?]
  simp [hquote, hslash, hplain]

/-- A string on one line ends at the first quote that is not escaped. -/
theorem readBasic?_escapeWith (s : List Char) (run : Nat) :
    readBasic? (escapeWith 0 false run s ++ '"' :: rest) = some (s, rest) := by
  induction s generalizing run with
  | nil =>
      rw [escapeWith, List.nil_append, readBasic?]
      rfl
  | cons c s ih =>
      have hwritten := writtenAs_escapeWith 0 false run s c
      generalize escapeWith 0 false run (c :: s) = text at hwritten ⊢
      cases hwritten with
      | quote hroom => exact absurd hroom (Nat.not_lt_zero run)
      | newLine hlines => cases hlines
      | plain hplain hquote hslash =>
          rw [List.cons_append, readBasic?_plain hquote hslash hplain, ih]
          rfl
      | escape hfirst hread =>
          rw [List.cons_append, List.cons_append, List.append_assoc, readBasic?_escape (hread _), ih]
          rfl

theorem readLiteral?_append {s : List Char} (hplain : ∀ c ∈ s, isPlain c = true)
    (hquote : '\'' ∉ s) : readLiteral? (s ++ '\'' :: rest) = some (s, rest) := by
  have hpass : ∀ c ∈ s, (c != '\'') = true := by
    intro c hc
    rw [bne_iff_ne]
    rintro rfl
    exact hquote hc
  have hall : s.all isPlain = true := List.all_eq_true.mpr hplain
  rw [readLiteral?, List.takeWhile_append_of_pos hpass, List.dropWhile_append_of_pos hpass]
  simp [hall]

end Basic

/-! ## Strings of several lines -/

section Block

variable {quote : Char} {rest : List Char}

/-- How many quotes a text begins with. -/
def leading (quote : Char) (text : List Char) : Nat := (text.takeWhile (· == quote)).length

theorem leading_cons_of_ne {c : Char} (h : c ≠ quote) (text : List Char) :
    leading quote (c :: text) = 0 := by
  rw [leading, List.takeWhile_cons_of_neg (by simpa using h), List.length_nil]

theorem leading_of_head?_ne (h : rest.head? ≠ some quote) : leading quote rest = 0 := by
  cases rest with
  | nil => rfl
  | cons c rest => exact leading_cons_of_ne (by simpa using h) rest

theorem leading_cons_self (text : List Char) :
    leading quote (quote :: text) = leading quote text + 1 := by
  rw [leading, List.takeWhile_cons_of_pos (by simp), List.length_cons]
  rfl

theorem leading_replicate_append (k : Nat) (text : List Char) :
    leading quote (List.replicate k quote ++ text) = leading quote text + k := by
  induction k with
  | zero => simp
  | succ k ih => rw [List.replicate_succ, List.cons_append, leading_cons_self, ih, Nat.add_assoc]

/-- The closing quotes behind a text. -/
def closing (quote : Char) (rest : List Char) : List Char := quote :: quote :: quote :: rest

theorem leading_closing (hrest : rest.head? ≠ some quote) :
    leading quote (closing quote rest) = 3 := by
  rw [closing, leading_cons_self, leading_cons_self, leading_cons_self, leading_of_head?_ne hrest]

theorem exists_replicate_append_closing (quote : Char) (rest : List Char) (k : Nat) :
    ∃ text, List.replicate k quote ++ closing quote rest = quote :: text := by
  cases k with
  | zero => exact ⟨_, rfl⟩
  | succ k => exact ⟨_, rfl⟩

/-- Quotes right before the closing ones belong to the string, if there are two of them at most. -/
theorem closesBlock_replicate (hrest : rest.head? ≠ some quote) {k : Nat} (hk : k ≤ 2) :
    closesBlock quote (List.replicate k quote ++ closing quote rest) = true ∧
      closeBlock quote (List.replicate k quote ++ closing quote rest) =
        (List.replicate k quote, rest) := by
  have hleading : leading quote (List.replicate k quote ++ closing quote rest) = k + 3 := by
    rw [leading_replicate_append, leading_closing hrest, Nat.add_comm]
  have hown : min (k + 3 - 3) 2 = k := by omega
  have hdrop : (List.replicate k quote ++ closing quote rest).drop (k + 3) = rest := by
    rw [List.drop_append, List.drop_eq_nil_of_le (by simp), List.nil_append,
      List.length_replicate, Nat.add_sub_cancel_left]
    rfl
  unfold leading at hleading
  rw [closesBlock, closeBlock, hleading]
  simp only [hown, hdrop]
  exact ⟨decide_eq_true (Nat.le_add_left 3 k), trivial⟩

theorem closesBlock_eq_false {text : List Char} (h : leading quote text ≤ 2) :
    closesBlock quote text = false :=
  decide_eq_false (Nat.not_le.mpr (Nat.lt_succ_of_le h))

end Block

section BasicBlock

variable {c : Char} {text : List Char}

theorem ne_of_isPlain (h : isPlain c = true) : c ≠ '\n' ∧ c ≠ '\r' :=
  ⟨ne_of_kind h (by decide), ne_of_kind h (by decide)⟩

theorem readBlock?_cons (hplain : isPlain c = true) (hslash : c ≠ '\\') :
    readBlock? false (c :: text) =
      if closesBlock '"' (c :: text) then some (closeBlock '"' (c :: text))
      else (readBlock? false text).map fun p => (c :: p.1, p.2) := by
  obtain ⟨hline, hreturn⟩ := ne_of_isPlain hplain
  rw [readBlock?]
  · simp [hplain]
  · exact hline
  · intro _ heq
    exact absurd heq hreturn
  · exact hslash

theorem readBlock?_newLine :
    readBlock? false ('\n' :: text) = (readBlock? false text).map fun p => ('\n' :: p.1, p.2) := by
  rw [readBlock?]
  rfl

theorem readBlock?_escape {first : Char} {more after : List Char}
    (hfirst : (isGap first || first == '\n' || first == '\r') = false)
    (h : readEscape? (first :: more) = some (c, after)) :
    readBlock? false ('\\' :: first :: more) =
      (readBlock? false after).map fun p => (c :: p.1, p.2) := by
  simp only [Bool.or_eq_false_iff, beq_eq_false_iff_ne] at hfirst
  obtain ⟨⟨hgap, hline⟩, hreturn⟩ := hfirst
  have hbreak : startsBreak ((first :: more).dropWhile isGap) = false := by
    rw [List.dropWhile_cons_of_neg (by simp [hgap])]
    simp [startsBreak, hline, hreturn]
  rw [readBlock?]
  simp only [hbreak, Bool.false_eq_true, if_false]
  split
  next hnone => simp [h] at hnone
  next e after' hsome =>
    rw [h] at hsome
    cases hsome
    rfl

/-- What is written for a string either consists of quotes that all belong to the closing ones, or
it begins with too few quotes to close anything. -/
theorem leading_escapeWith (s : List Char) {run : Nat} (hrun : run ≤ 2) :
    (∃ k, s = List.replicate k '"' ∧ escapeWith 2 true run s = s ∧ run + k ≤ 2) ∨
      ∀ tail, run + leading '"' (escapeWith 2 true run s ++ tail) ≤ 2 := by
  induction s generalizing run with
  | nil => exact .inl ⟨0, rfl, rfl, hrun⟩
  | cons c s ih =>
      have hwritten := writtenAs_escapeWith 2 true run s c
      generalize escapeWith 2 true run (c :: s) = text at hwritten ⊢
      cases hwritten with
      | quote hroom =>
          have hnext : run + 1 ≤ 2 := hroom
          rcases ih hnext with ⟨k, hs, hself, hk⟩ | hfew
          · refine .inl ⟨k + 1, by rw [List.replicate_succ, ← hs], ?_, by omega⟩
            rw [hself]
          · right
            intro tail
            have hfew := hfew tail
            rw [List.cons_append, leading_cons_self]
            omega
      | newLine =>
          right
          intro tail
          rw [List.cons_append, leading_cons_of_ne (by decide)]
          exact hrun
      | plain hplain hquote =>
          right
          intro tail
          rw [List.cons_append, leading_cons_of_ne hquote]
          exact hrun
      | escape =>
          right
          intro tail
          rw [List.cons_append, leading_cons_of_ne (by decide)]
          exact hrun

theorem readBlock?_replicate {rest : List Char} (hrest : rest.head? ≠ some '"') {k : Nat}
    (hk : k ≤ 2) : readBlock? false (List.replicate k '"' ++ closing '"' rest) =
      some (List.replicate k '"', rest) := by
  obtain ⟨hcloses, hclose⟩ := closesBlock_replicate hrest hk
  obtain ⟨text, htext⟩ := exists_replicate_append_closing '"' rest k
  rw [htext] at hcloses hclose ⊢
  rw [readBlock?_cons (by decide) (by decide), if_pos hcloses, hclose]

/-- A string of several lines ends at its closing quotes. -/
theorem readBlock?_escapeWith {rest : List Char} (hrest : rest.head? ≠ some '"') (s : List Char)
    {run : Nat} (hrun : run ≤ 2) :
    readBlock? false (escapeWith 2 true run s ++ closing '"' rest) = some (s, rest) := by
  induction s generalizing run with
  | nil => exact readBlock?_replicate hrest (Nat.zero_le 2)
  | cons c s ih =>
      rcases leading_escapeWith (c :: s) hrun with ⟨k, hs, hself, hk⟩ | hfew
      · -- The quotes at the end of the string are read together with the closing ones.
        rw [hself, hs]
        exact readBlock?_replicate hrest (Nat.le_trans (Nat.le_add_left k run) hk)
      · have hfew := hfew (closing '"' rest)
        have hgoesOn : closesBlock '"' (escapeWith 2 true run (c :: s) ++ closing '"' rest) =
            false := closesBlock_eq_false (by omega)
        have hwritten := writtenAs_escapeWith 2 true run s c
        generalize escapeWith 2 true run (c :: s) = text at hwritten hgoesOn ⊢
        cases hwritten with
        | quote hroom =>
            rw [List.cons_append] at hgoesOn ⊢
            rw [readBlock?_cons (by decide) (by decide), hgoesOn, ih hroom]
            rfl
        | newLine =>
            rw [List.cons_append, readBlock?_newLine, ih (Nat.zero_le 2)]
            rfl
        | plain hplain hquote hslash =>
            rw [List.cons_append] at hgoesOn ⊢
            rw [readBlock?_cons hplain hslash, hgoesOn, ih (Nat.zero_le 2)]
            rfl
        | escape hfirst hread =>
            rw [List.cons_append, List.cons_append, List.append_assoc,
              readBlock?_escape hfirst (hread _), ih (Nat.zero_le 2)]
            rfl

end BasicBlock

section LiteralBlock

variable {c : Char} {text rest : List Char}

theorem le_longestRun (c : Char) (run : Nat) (s : List Char) : run ≤ longestRun c run s := by
  induction s generalizing run with
  | nil => exact Nat.le_refl run
  | cons d s ih =>
      rw [longestRun]
      split
      · exact Nat.le_of_succ_le (ih (run + 1))
      · exact Nat.le_max_left _ _

theorem not_mem_of_longestRun_eq_zero {s : List Char} (h : longestRun c 0 s = 0) : c ∉ s := by
  induction s with
  | nil => exact List.not_mem_nil
  | cons d s ih =>
      rw [longestRun] at h
      split at h
      next =>
        have hle := le_longestRun c (0 + 1) s
        omega
      next hne =>
        rw [List.mem_cons, not_or]
        exact ⟨Ne.symm hne, ih (by omega)⟩

/-- A text with short runs of quotes either consists of quotes that all belong to the closing ones,
or it begins with too few quotes to close anything. -/
theorem leading_of_longestRun {quote : Char} {s : List Char} {run : Nat}
    (h : longestRun quote run s ≤ 2) :
    (∃ k, s = List.replicate k quote ∧ run + k ≤ 2) ∨
      ∀ tail, run + leading quote (s ++ tail) ≤ 2 := by
  induction s generalizing run with
  | nil => exact .inl ⟨0, rfl, h⟩
  | cons d s ih =>
      rw [longestRun] at h
      by_cases heq : d = quote
      · subst heq
        rw [if_pos rfl] at h
        rcases ih h with ⟨k, hs, hk⟩ | hfew
        · exact .inl ⟨k + 1, by rw [List.replicate_succ, ← hs], by omega⟩
        · right
          intro tail
          have hfew := hfew tail
          rw [List.cons_append, leading_cons_self]
          omega
      · right
        intro tail
        rw [if_neg heq] at h
        rw [List.cons_append, leading_cons_of_ne heq]
        omega

theorem longestRun_mono {run more : Nat} (h : run ≤ more) (s : List Char) :
    longestRun c run s ≤ longestRun c more s := by
  induction s generalizing run more with
  | nil => exact h
  | cons d s ih =>
      rw [longestRun, longestRun]
      split
      · exact ih (Nat.succ_le_succ h)
      · exact Nat.max_le.mpr ⟨Nat.le_trans h (Nat.le_max_left _ _), Nat.le_max_right _ _⟩

theorem longestRun_tail_le (d : Char) (s : List Char) :
    longestRun c 0 s ≤ longestRun c 0 (d :: s) := by
  rw [longestRun]
  split
  · exact longestRun_mono (Nat.zero_le _) s
  · exact Nat.le_max_right _ _

theorem readLiteralBlock?_cons (hplain : isPlain c = true) : readLiteralBlock? (c :: text) =
    if closesBlock '\'' (c :: text) then some (closeBlock '\'' (c :: text))
    else (readLiteralBlock? text).map fun p => (c :: p.1, p.2) := by
  obtain ⟨hline, hreturn⟩ := ne_of_isPlain hplain
  rw [readLiteralBlock?]
  · simp [hplain]
  · exact hline
  · intro _ heq
    exact absurd heq hreturn

theorem readLiteralBlock?_newLine : readLiteralBlock? ('\n' :: text) =
    (readLiteralBlock? text).map fun p => ('\n' :: p.1, p.2) := by
  rw [readLiteralBlock?]

theorem readLiteralBlock?_replicate {rest : List Char} (hrest : rest.head? ≠ some '\'') {k : Nat}
    (hk : k ≤ 2) : readLiteralBlock? (List.replicate k '\'' ++ closing '\'' rest) =
      some (List.replicate k '\'', rest) := by
  obtain ⟨hcloses, hclose⟩ := closesBlock_replicate hrest hk
  obtain ⟨text, htext⟩ := exists_replicate_append_closing '\'' rest k
  rw [htext] at hcloses hclose ⊢
  rw [readLiteralBlock?_cons (by decide), if_pos hcloses, hclose]

/-- A string of several lines without escapes ends at its closing apostrophes. -/
theorem readLiteralBlock?_append {rest : List Char} (hrest : rest.head? ≠ some '\'')
    {s : List Char} (hplain : ∀ c ∈ s, needsEscape c = false)
    (hrun : longestRun '\'' 0 s ≤ 2) :
    readLiteralBlock? (s ++ closing '\'' rest) = some (s, rest) := by
  induction s with
  | nil => exact readLiteralBlock?_replicate hrest (Nat.zero_le 2)
  | cons c s ih =>
      rw [List.forall_mem_cons] at hplain
      have ih := ih hplain.2 (Nat.le_trans (longestRun_tail_le c s) hrun)
      rcases leading_of_longestRun hrun with ⟨k, hs, hk⟩ | hfew
      · rw [hs]
        exact readLiteralBlock?_replicate hrest (by omega)
      · have hfew := hfew (closing '\'' rest)
        have hgoesOn : closesBlock '\'' (c :: s ++ closing '\'' rest) = false :=
          closesBlock_eq_false (by omega)
        rw [List.cons_append] at hgoesOn ⊢
        by_cases hline : c = '\n'
        · rw [hline, readLiteralBlock?_newLine, ih]
          rfl
        · have hc : isPlain c = true := by simpa [needsEscape, hline] using hplain.1
          rw [readLiteralBlock?_cons hc, hgoesOn, ih]
          rfl

end LiteralBlock

/-! ## All four forms -/

section AllForms

variable {s rest : List Char}

theorem isPlain_of_needsEscape_eq_false {c : Char} (h : needsEscape c = false) :
    isPlain c = true ∨ c = '\n' := by
  by_cases hline : c = '\n'
  · exact .inr hline
  · exact .inl (by simpa [needsEscape, hline] using h)

/-- What holds of a string that is written without escapes. -/
theorem formOf_eq_literal (h : formOf s = .literal) :
    (∀ c ∈ s, isPlain c = true) ∧ '\'' ∉ s := by
  have hcond : s.any needsEscape = false ∧ longestRun '\'' 0 s = 0 ∧ s.contains '\n' = false := by
    unfold formOf at h
    grind
  obtain ⟨hescapes, hquotes, hlines⟩ := hcond
  refine ⟨?_, not_mem_of_longestRun_eq_zero hquotes⟩
  intro c hc
  have hne : c ≠ '\n' := by
    rintro rfl
    simp [hc] at hlines
  have hneeds := List.any_eq_false.mp hescapes c hc
  exact (isPlain_of_needsEscape_eq_false (by simpa using hneeds)).resolve_right hne

theorem formOf_eq_literalBlock (h : formOf s = .literalBlock) :
    (∀ c ∈ s, needsEscape c = false) ∧ longestRun '\'' 0 s ≤ 2 := by
  have hcond : s.any needsEscape = false ∧ longestRun '\'' 0 s ≤ 2 := by
    unfold formOf at h
    grind
  refine ⟨?_, hcond.2⟩
  intro c hc
  simpa using List.any_eq_false.mp hcond.1 c hc

/-- A quote before one more at most is not taken for the beginning of three. -/
theorem readString?_basic {text : List Char} (h : leading '"' text ≤ 1) :
    readString? ('"' :: text) = readBasic? text := by
  rw [readString?]
  intro _ htext
  rw [htext, leading_cons_self, leading_cons_self] at h
  omega

theorem readString?_literal {text : List Char} (h : leading '\'' text ≤ 1) :
    readString? ('\'' :: text) = readLiteral? text := by
  rw [readString?]
  intro _ htext
  rw [htext, leading_cons_self, leading_cons_self] at h
  omega

theorem leading_quote_le_one {quote : Char} (hrest : rest.head? ≠ some quote) :
    leading quote (quote :: rest) ≤ 1 := by
  rw [leading_cons_self, leading_of_head?_ne hrest]

/-- A string on one line does not begin with a quote. -/
theorem leading_escapeWith_basic (hrest : rest.head? ≠ some '"') (s : List Char) :
    leading '"' (escapeWith 0 false 0 s ++ '"' :: rest) ≤ 1 := by
  cases s with
  | nil => exact leading_quote_le_one hrest
  | cons c s =>
      have hwritten := writtenAs_escapeWith 0 false 0 s c
      generalize escapeWith 0 false 0 (c :: s) = text at hwritten ⊢
      cases hwritten with
      | quote hroom => exact absurd hroom (Nat.lt_irrefl 0)
      | newLine hlines => cases hlines
      | plain hplain hquote =>
          rw [List.cons_append, leading_cons_of_ne hquote]
          exact Nat.zero_le 1
      | escape =>
          rw [List.cons_append, leading_cons_of_ne (by decide)]
          exact Nat.zero_le 1

theorem leading_literal (hrest : rest.head? ≠ some '\'') (hquote : '\'' ∉ s) :
    leading '\'' (s ++ '\'' :: rest) ≤ 1 := by
  cases s with
  | nil => exact leading_quote_le_one hrest
  | cons c s =>
      have hne : c ≠ '\'' := (List.ne_of_not_mem_cons hquote).symm
      rw [List.cons_append, leading_cons_of_ne hne]
      exact Nat.zero_le 1

/-- What is written for a string without line breaks begins with no line break. -/
theorem dropBreak_of_isPlain {c : Char} (h : isPlain c = true) (text : List Char) :
    dropBreak (c :: text) = c :: text := by
  obtain ⟨hline, hreturn⟩ := ne_of_isPlain h
  unfold dropBreak
  split
  next heq => exact absurd (List.cons.inj heq).1 hline
  next heq => exact absurd (List.cons.inj heq).1 hreturn
  next => rfl

theorem dropBreak_escapeWith (hline : '\n' ∉ s) (tail : List Char) :
    dropBreak (escapeWith 2 true 0 s ++ closing '"' tail) =
      escapeWith 2 true 0 s ++ closing '"' tail := by
  cases s with
  | nil => rfl
  | cons c s =>
      have hwritten := writtenAs_escapeWith 2 true 0 s c
      generalize escapeWith 2 true 0 (c :: s) = text at hwritten ⊢
      cases hwritten with
      | quote => rfl
      | newLine => exact absurd List.mem_cons_self hline
      | plain hplain => exact dropBreak_of_isPlain hplain _
      | escape => rfl

/-- The line break in front of a string of several lines does not count. -/
theorem dropBreak_start {body : List Char} (h : '\n' ∉ s → dropBreak body = body) :
    dropBreak ((if s.contains '\n' then ['\n'] else []) ++ body) = body := by
  by_cases hline : '\n' ∈ s
  · simp [hline, dropBreak]
  · simp [hline, h hline]

/-- Every string reads back from its written form. -/
theorem readString?_writeAs (hquote : rest.head? ≠ some '"') (hapostrophe : rest.head? ≠ some '\'')
    (s : List Char) : readString? (writeAs (formOf s) s ++ rest) = some (s, rest) := by
  cases hform : formOf s with
  | basic =>
      have htext : writeAs .basic s ++ rest = '"' :: (escapeWith 0 false 0 s ++ '"' :: rest) := by
        simp [writeAs]
      rw [htext, readString?_basic (leading_escapeWith_basic hquote s), readBasic?_escapeWith]
  | literal =>
      obtain ⟨hplain, hnone⟩ := formOf_eq_literal hform
      have htext : writeAs .literal s ++ rest = '\'' :: (s ++ '\'' :: rest) := by
        simp [writeAs]
      rw [htext, readString?_literal (leading_literal hapostrophe hnone),
        readLiteral?_append hplain hnone]
  | block =>
      have htext : writeAs .block s ++ rest = '"' :: '"' :: '"' ::
          ((if s.contains '\n' then ['\n'] else []) ++
            (escapeWith 2 true 0 s ++ closing '"' rest)) := by
        simp [writeAs, closing]
      rw [htext, readString?, dropBreak_start fun hline => dropBreak_escapeWith hline rest,
        readBlock?_escapeWith hquote s (Nat.zero_le 2)]
  | literalBlock =>
      obtain ⟨hplain, hrun⟩ := formOf_eq_literalBlock hform
      have htext : writeAs .literalBlock s ++ rest = '\'' :: '\'' :: '\'' ::
          ((if s.contains '\n' then ['\n'] else []) ++ (s ++ closing '\'' rest)) := by
        simp [writeAs, closing]
      rw [htext, readString?, dropBreak_start (fun hline => ?_),
        readLiteralBlock?_append hapostrophe hplain hrun]
      cases s with
      | nil => rfl
      | cons c s =>
          have hne : c ≠ '\n' := (List.ne_of_not_mem_cons hline).symm
          have hc := hplain c List.mem_cons_self
          exact dropBreak_of_isPlain ((isPlain_of_needsEscape_eq_false hc).resolve_right hne) _

end AllForms

end ArchiveSearch.Toml
