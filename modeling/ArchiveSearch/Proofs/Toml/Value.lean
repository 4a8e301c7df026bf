import ArchiveSearch.Proofs.Json.Scalar
import ArchiveSearch.Proofs.Toml.Text
import ArchiveSearch.Toml.Document

/-! # Values on one line

A string in its written form, a natural number of 63 bits in decimal digits and a truth value read
back where the end of the line follows.
-/

namespace ArchiveSearch.Toml

/-- Whether a text at the end of a line reads as a value, blanks before it aside. -/
def Writes (text : String) (value : Toml) : Prop :=
  ∀ rest, readValue? nestingLimit (dropGaps (text.toList ++ '\n' :: rest)) =
    some (value, '\n' :: rest)

section First

variable {c : Char} {text : List Char}

/-- Characters of a kind are no blanks, if no blank is of this kind. -/
theorem isGap_eq_false {p : Char → Bool} (hc : p c = true) (hspace : p ' ' = false)
    (htab : p '\t' = false) : isGap c = false := by
  rw [isGap, Bool.or_eq_false_iff, beq_eq_false_iff_ne, beq_eq_false_iff_ne]
  exact ⟨ne_of_kind hc hspace, ne_of_kind hc htab⟩

theorem dropGaps_cons (h : isGap c = false) : dropGaps (c :: text) = c :: text :=
  List.dropWhile_cons_of_neg (by simp [h])

/-- Neither an array nor a table in braces begins with a quote. -/
theorem readValue?_quoted {room : Nat} (h : c = '"' ∨ c = '\'') :
    readValue? room (c :: text) =
      (readString? (c :: text)).map fun p => (.string (String.ofList p.1), p.2) := by
  rcases h with rfl | rfl
  all_goals
    rw [readValue?]
    · rfl
    · intro _ heq
      exact absurd (List.cons.inj heq).1 (by decide)
    · intro _ heq
      exact absurd (List.cons.inj heq).1 (by decide)

/-- What begins with a letter or a digit is a run of characters. -/
theorem readValue?_run {room : Nat} (h : isRunChar c = true) :
    readValue? room (c :: text) =
      (ofRun? (takeRun (c :: text)).1).map (·, (takeRun (c :: text)).2) := by
  have hquote : c ≠ '"' := ne_of_kind h (by decide)
  have hapostrophe : c ≠ '\'' := ne_of_kind h (by decide)
  have hbracket : c ≠ '[' := ne_of_kind h (by decide)
  have hbrace : c ≠ '\x7b' := ne_of_kind h (by decide)
  rw [readValue?]
  · simp [hquote, hapostrophe]
  · intro _ heq
    exact hbracket (List.cons.inj heq).1
  · intro _ heq
    exact hbrace (List.cons.inj heq).1

end First

/-! ## Strings -/

theorem exists_writeAs (form : Form) (s : List Char) :
    ∃ c more, writeAs form s = c :: more ∧ (c = '"' ∨ c = '\'') := by
  cases form with
  | basic => exact ⟨'"', _, rfl, .inl rfl⟩
  | literal => exact ⟨'\'', _, rfl, .inr rfl⟩
  | block => exact ⟨'"', _, rfl, .inl rfl⟩
  | literalBlock => exact ⟨'\'', _, rfl, .inr rfl⟩

theorem writes_writeString (s : String) : Writes (writeString s) (.string s) := by
  intro rest
  have hread : readString? (writeAs (formOf s.toList) s.toList ++ '\n' :: rest) =
      some (s.toList, '\n' :: rest) := readString?_writeAs (by simp) (by simp) s.toList
  obtain ⟨c, more, htext, hc⟩ := exists_writeAs (formOf s.toList) s.toList
  have hgap : isGap c = false := by
    rcases hc with rfl | rfl
    · rfl
    · rfl
  rw [writeString, String.toList_ofList, htext, List.cons_append, dropGaps_cons hgap,
    readValue?_quoted hc]
  rw [htext, List.cons_append] at hread
  rw [hread, Option.map_some, String.ofList_toList]

/-! ## Natural numbers -/

section Digits

variable {digits : List Char}

theorem plainDigits?_eq (hne : digits ≠ []) (hplain : '_' ∉ digits) :
    plainDigits? digits = some digits := by
  induction digits with
  | nil => exact absurd rfl hne
  | cons c digits ih =>
      rw [List.mem_cons, not_or] at hplain
      have hc : (c == '_') = false := beq_eq_false_iff_ne.mpr (Ne.symm hplain.1)
      cases digits with
      | nil => simp [plainDigits?, hc]
      | cons d digits =>
          have hd : d ≠ '_' := (List.ne_of_not_mem_cons hplain.2).symm
          rw [plainDigits?]
          · simp [hc, ih (List.cons_ne_nil d digits) hplain.2]
          · intro _ heq
            exact hd (List.cons.inj heq).1
          · exact List.cons_ne_nil d digits

theorem numberOf?_eq (hdigits : ∀ c ∈ digits, c.isDigit = true) (n : Nat) :
    digits.foldlM (fun n c =>
      (digitValue? c).bind fun d => if d < 10 then some (10 * n + d) else none) n =
        some (Nat.ofDigitChars 10 digits n) := by
  induction digits generalizing n with
  | nil => rfl
  | cons c digits ih =>
      rw [List.forall_mem_cons] at hdigits
      have hvalue : digitValue? c = some (c.toNat - '0'.toNat) := by
        rw [digitValue?, if_pos hdigits.1]
      have hlt : c.toNat - '0'.toNat < 10 := by
        have hrange := hdigits.1
        simp only [Char.isDigit, Bool.and_eq_true, decide_eq_true_eq] at hrange
        have hhigh : c.toNat ≤ 57 := hrange.2
        have hzero : '0'.toNat = 48 := rfl
        omega
      rw [List.foldlM_cons, hvalue, Option.bind_some, if_pos hlt, Nat.ofDigitChars_cons]
      exact ih hdigits.2 _

end Digits

section Natural

variable (n : Nat)

theorem isDigit_of_mem_toDigits {c : Char} (h : c ∈ Nat.toDigits 10 n) : c.isDigit = true :=
  Nat.isDigit_of_mem_toDigits (by decide) (by decide) h

theorem not_mem_toDigits {c : Char} (h : c.isDigit = false) : c ∉ Nat.toDigits 10 n := by
  intro hmem
  have hdigit := isDigit_of_mem_toDigits n hmem
  exact Bool.false_ne_true (h.symm.trans hdigit)

theorem all_isDigit_toDigits : (Nat.toDigits 10 n).all Char.isDigit = true := by
  rw [List.all_eq_true]
  intro c hc
  exact isDigit_of_mem_toDigits n hc

theorem toDigits_beq_eq_false {word : List Char} (h : word.all Char.isDigit = false) :
    (Nat.toDigits 10 n == word) = false := by
  rw [beq_eq_false_iff_ne]
  rintro rfl
  exact Bool.false_ne_true (h.symm.trans (all_isDigit_toDigits n))

theorem takeSign_toDigits : takeSign (Nat.toDigits 10 n) = (false, Nat.toDigits 10 n) := by
  unfold takeSign
  split
  next heq => exact absurd (heq ▸ List.mem_cons_self) (not_mem_toDigits n (c := '-') rfl)
  next heq => exact absurd (heq ▸ List.mem_cons_self) (not_mem_toDigits n (c := '+') rfl)
  next => rfl

theorem decimalDigits?_toDigits :
    decimalDigits? (Nat.toDigits 10 n) = some (Nat.toDigits 10 n) := by
  have hplain := plainDigits?_eq (Nat.toDigits_ne_nil (n := n) (b := 10)) (not_mem_toDigits n rfl)
  have hfirst := Json.Number.leadingDigit n
  have hguard : ((Nat.toDigits 10 n).all Char.isDigit &&
      ((Nat.toDigits 10 n).head? != some '0' || (Nat.toDigits 10 n).length == 1)) = true := by
    rw [all_isDigit_toDigits, Bool.true_and]
    simpa using hfirst
  unfold decimalDigits?
  refine Option.bind_eq_some_iff.mpr ⟨_, hplain, ?_⟩
  exact Option.bind_eq_some_iff.mpr ⟨(), if_pos hguard, rfl⟩

theorem bounded?_natural {n : Nat} (h : n < 1 <<< 63) : bounded? n = some (n : Int) := by
  have hlow : -((1 <<< 63 : Nat) : Int) ≤ n := by omega
  exact if_pos ⟨hlow, Int.ofNat_lt.mpr h⟩

theorem integer?_toDigits (h : n < 1 <<< 63) :
    integer? (Nat.toDigits 10 n) = some (n : Int) := by
  have hvalue : Nat.ofDigitChars 10 (Nat.toDigits 10 n) 0 = n := Nat.ofDigitChars_ten_toDigits
  have hnumber : numberOf? 10 (Nat.toDigits 10 n) = some n := by
    rw [numberOf?, numberOf?_eq (fun c hc => isDigit_of_mem_toDigits n hc), hvalue]
  unfold integer?
  split
  next heq => exact absurd (heq ▸ by simp) (not_mem_toDigits n (c := 'x') rfl)
  next heq => exact absurd (heq ▸ by simp) (not_mem_toDigits n (c := 'o') rfl)
  next heq => exact absurd (heq ▸ by simp) (not_mem_toDigits n (c := 'b') rfl)
  next =>
    rw [takeSign_toDigits]
    refine Option.bind_eq_some_iff.mpr ⟨_, decimalDigits?_toDigits n, ?_⟩
    exact Option.bind_eq_some_iff.mpr ⟨_, hnumber, bounded?_natural h⟩

/-- Digits alone are no date and no time of day. -/
theorem isMoment_toDigits : isMoment (Nat.toDigits 10 n) = false := by
  have hdate : readDate? (Nat.toDigits 10 n) = none := by
    unfold readDate?
    split
    next heq => exact absurd (heq ▸ by simp) (not_mem_toDigits n (c := '-') rfl)
    next => rfl
  have htime : readTimeOfDay? (Nat.toDigits 10 n) = none := by
    unfold readTimeOfDay?
    split
    next heq => exact absurd (heq ▸ by simp) (not_mem_toDigits n (c := ':') rfl)
    next => rfl
  rw [isMoment, hdate, htime]
  rfl

/-- A number with a fraction or an exponent has a point or a letter. -/
theorem isFloat_toDigits : isFloat (Nat.toDigits 10 n) = false := by
  have hmark : ∀ c ∈ Nat.toDigits 10 n, (!(c == 'e' || c == 'E')) = true := by
    intro c hc
    have hdigit := isDigit_of_mem_toDigits n hc
    have hsmall : c ≠ 'e' := ne_of_kind hdigit rfl
    have hlarge : c ≠ 'E' := ne_of_kind hdigit rfl
    simp [hsmall, hlarge]
  have hnoMark : (Nat.toDigits 10 n).any (fun c => c == 'e' || c == 'E') = false := by
    rw [List.any_eq_false]
    intro c hc
    simpa using hmark c hc
  have hnoPoint : (Nat.toDigits 10 n).any (· == '.') = false := by
    rw [List.any_eq_false]
    intro c hc
    have hpoint : c ≠ '.' := ne_of_kind (isDigit_of_mem_toDigits n hc) rfl
    simpa using hpoint
  have hmantissa : (Nat.toDigits 10 n).takeWhile (fun c => !(c == 'e' || c == 'E')) =
      Nat.toDigits 10 n := List.takeWhile_eq_self_iff.mpr hmark
  have hinf : (Nat.toDigits 10 n == ['i', 'n', 'f']) = false := toDigits_beq_eq_false n (by decide)
  have hnan : (Nat.toDigits 10 n == ['n', 'a', 'n']) = false := toDigits_beq_eq_false n (by decide)
  simp only [isFloat, takeSign_toDigits, hmantissa, hnoMark, hnoPoint, hinf, hnan]
  simp only [Bool.or_self, Bool.false_eq_true, if_false, Bool.false_and]
  split
  · rfl
  · rfl

theorem ofRun?_toDigits (h : n < 1 <<< 63) : ofRun? (Nat.toDigits 10 n) = some (.integer n) := by
  have htrue : (Nat.toDigits 10 n == ['t', 'r', 'u', 'e']) = false :=
    toDigits_beq_eq_false n (by decide)
  have hfalse : (Nat.toDigits 10 n == ['f', 'a', 'l', 's', 'e']) = false :=
    toDigits_beq_eq_false n (by decide)
  rw [ofRun?, htrue, hfalse, isMoment_toDigits, isFloat_toDigits, integer?_toDigits n h]
  rfl

end Natural

theorem takeRun_eq {run : List Char} (hrun : ∀ c ∈ run, isRunChar c = true) (rest : List Char) :
    takeRun (run ++ '\n' :: rest) = (run, '\n' :: rest) := by
  have hstop : ∀ c ∈ ('\n' :: rest).head?, isRunChar c = false := by
    intro c hc
    cases hc
    decide
  obtain ⟨htake, hdrop⟩ := takeWhile_append_eq hrun hstop
  unfold takeRun
  rw [htake, hdrop]
  rfl

/-- A run of characters at the end of a line stands for one value. -/
theorem writes_of_run {text : String} {value : Toml} (hne : text ≠ "")
    (hrun : text.toList.all isRunChar = true) (hvalue : ofRun? text.toList = some value) :
    Writes text value := by
  intro rest
  rw [List.all_eq_true] at hrun
  obtain ⟨c, more, htext⟩ := List.exists_cons_of_ne_nil (l := text.toList) (by simpa using hne)
  have htake := takeRun_eq hrun rest
  have hc : isRunChar c = true := hrun c (htext ▸ List.mem_cons_self)
  have hgap : isGap c = false := isGap_eq_false hc (by decide) (by decide)
  rw [htext, List.cons_append] at htake ⊢
  rw [dropGaps_cons hgap, readValue?_run hc, htake, ← htext, hvalue]
  rfl

theorem writes_natural {n : Nat} (h : n < 1 <<< 63) : Writes (toString n) (.integer n) := by
  have htext : (toString n).toList = Nat.toDigits 10 n := Nat.toList_repr
  refine writes_of_run ?_ ?_ ?_
  · intro hempty
    rw [hempty] at htext
    exact Nat.toDigits_ne_nil htext.symm
  · rw [List.all_eq_true]
    intro c hc
    have hdigit := isDigit_of_mem_toDigits n (htext ▸ hc)
    simp [isRunChar, Char.isAlphanum, hdigit]
  · rw [htext]
    exact ofRun?_toDigits n h

/-! ## Truth values -/

theorem writes_boolean (b : Bool) : Writes (if b then "true" else "false") (.boolean b) := by
  cases b with
  | true => exact writes_of_run (by decide) (by decide) rfl
  | false => exact writes_of_run (by decide) (by decide) rfl

end ArchiveSearch.Toml
