import ArchiveSearch.Json.Written
import Mathlib.Data.List.TakeWhile
import Mathlib.Data.Nat.Digits.Defs

/-! # Numbers and strings in their written forms

An integer is written in decimal digits and reads back, as long as no character follows that could
go on a number. Every character of a string reads back from its escaped form, and only the quote
behind the string ends it.
-/

namespace ArchiveSearch

/-- A run of characters ends where a text begins that does not go on with it. -/
theorem takeWhile_append_eq {p : Char → Bool} {run rest : List Char} (hrun : ∀ c ∈ run, p c = true)
    (hrest : ∀ c ∈ rest.head?, p c = false) :
    (run ++ rest).takeWhile p = run ∧ (run ++ rest).dropWhile p = rest := by
  rw [List.takeWhile_append_of_pos hrun, List.dropWhile_append_of_pos hrun]
  cases rest with
  | nil => simp
  | cons c rest =>
      have hc := hrest c rfl
      simp [hc]

namespace Json

/-! ## Integers -/

namespace Number

/-- Whether a number is an integer of 64 bits, with or without a sign. -/
def IsInteger : Number → Prop
  | integer value => -0x8000000000000000 ≤ value ∧ value < 0x10000000000000000
  | double _ => False

instance : DecidablePred IsInteger
  | integer value =>
      inferInstanceAs (Decidable (-0x8000000000000000 ≤ value ∧ value < 0x10000000000000000))
  | double _ => inferInstanceAs (Decidable False)

/-- Whether a character could go on a number. -/
def goesOn (c : Char) : Bool := c.isDigit || c == '.' || c == 'e' || c == 'E'

variable {digits rest : List Char}

/-- All digits of a number that fits are taken. -/
theorem takeDigits_eq (significand : Nat)
    (hfits : Nat.ofDigitChars 10 digits significand < 1 <<< 64) :
    takeDigits significand digits = (Nat.ofDigitChars 10 digits significand, digits.length) := by
  induction digits generalizing significand with
  | nil => rfl
  | cons c digits ih =>
      rw [Nat.ofDigitChars_cons] at hfits ⊢
      have hnext : 10 * significand + digitValue c < 1 <<< 64 := by
        refine Nat.lt_of_le_of_lt ?_ hfits
        rw [Nat.ofDigitChars_eq_ofDigitChars_zero]
        exact Nat.le_add_right_of_le (Nat.le_mul_of_pos_left _ (Nat.pow_pos (by decide)))
      have hrest : takeDigits (10 * significand + digitValue c) digits = _ := ih _ hfits
      rw [takeDigits, if_pos hnext, hrest]
      rfl

theorem readDigits?_append (hne : digits ≠ []) (hdigits : ∀ c ∈ digits, c.isDigit = true)
    (hrest : ∀ c ∈ rest.head?, c.isDigit = false) :
    readDigits? (digits ++ rest) = some (digits, rest) := by
  obtain ⟨htake, hdrop⟩ := takeWhile_append_eq hdigits hrest
  unfold readDigits?
  rw [htake, hdrop]
  split
  next => exact absurd rfl hne
  next => rfl

theorem readFraction?_of_goesOn (hrest : ∀ c ∈ rest.head?, goesOn c = false) :
    readFraction? rest = some (none, rest) := by
  unfold readFraction?
  split
  next s => exact absurd (hrest '.' rfl) (by decide)
  next => rfl

theorem readExponent?_of_goesOn (hrest : ∀ c ∈ rest.head?, goesOn c = false) :
    readExponent? rest = some (none, rest) := by
  cases rest with
  | nil => rfl
  | cons c rest =>
      have hc := hrest c rfl
      simp only [goesOn, Bool.or_eq_false_iff] at hc
      rw [readExponent?, if_neg (by simp [hc])]

theorem head?_toDigits {n : Nat} (hn : 0 < n) : (Nat.toDigits 10 n).head? ≠ some '0' := by
  induction n using Nat.strongRecOn with
  | ind n ih =>
      by_cases hsmall : n < 10
      · rw [Nat.toDigits_of_lt_base hsmall]
        simpa using hn.ne'
      · have hle := Nat.le_of_not_lt hsmall
        have hfirst := ih (n / 10) (Nat.div_lt_self hn (by decide)) (Nat.div_pos hle (by decide))
        obtain ⟨c, rest, hdigits⟩ := List.exists_cons_of_ne_nil
          (Nat.toDigits_ne_nil (n := n / 10) (b := 10))
        rw [Nat.toDigits_of_base_le (by decide) hle, hdigits]
        rwa [hdigits] at hfirst

/-- A number has no needless zero in front. -/
theorem leadingDigit (n : Nat) :
    (Nat.toDigits 10 n).head? ≠ some '0' ∨ (Nat.toDigits 10 n).length = 1 := by
  rcases Nat.eq_zero_or_pos n with rfl | hn
  · exact .inr rfl
  · exact .inl (head?_toDigits hn)

/-- Digits are read as the integer that they stand for, if it fits. -/
theorem read?_digits {s : List Char} {minus : Bool} {n : Nat} {i : Int}
    (hrest : ∀ c ∈ rest.head?, goesOn c = false)
    (hparts : ofParts? minus (Nat.toDigits 10 n) none none = some (.integer i))
    (hminus : readMinus s = (minus, Nat.toDigits 10 n ++ rest)) :
    read? s = some (some (.integer i), rest) := by
  have hdigit : ∀ c ∈ rest.head?, c.isDigit = false := by
    intro c hc
    have hgoes := hrest c hc
    simp only [goesOn, Bool.or_eq_false_iff] at hgoes
    exact hgoes.1.1.1
  have hdigits : ∀ c ∈ Nat.toDigits 10 n, c.isDigit = true := fun c hc =>
    Nat.isDigit_of_mem_toDigits (by decide) (by decide) hc
  have hwhole := readDigits?_append Nat.toDigits_ne_nil hdigits hdigit
  unfold read?
  dsimp only
  rw [hminus]
  refine Option.bind_eq_some_iff.mpr ⟨_, hwhole, ?_⟩
  refine Option.bind_eq_some_iff.mpr ⟨(), if_pos (leadingDigit n), ?_⟩
  refine Option.bind_eq_some_iff.mpr ⟨_, readFraction?_of_goesOn hrest, ?_⟩
  refine Option.bind_eq_some_iff.mpr ⟨_, readExponent?_of_goesOn hrest, ?_⟩
  exact congrArg some (Prod.ext hparts rfl)

theorem takeDigits_toDigits {n : Nat} (hn : n < 1 <<< 64) :
    takeDigits 0 (Nat.toDigits 10 n) = (n, (Nat.toDigits 10 n).length) := by
  have hvalue : Nat.ofDigitChars 10 (Nat.toDigits 10 n) 0 = n := Nat.ofDigitChars_ten_toDigits
  rw [takeDigits_eq 0 (hvalue.symm ▸ hn), hvalue]

theorem ofParts?_positive {n : Nat} (hn : n < 1 <<< 64) :
    ofParts? false (Nat.toDigits 10 n) none none = some (.integer n) := by
  simp [ofParts?, takeDigits_toDigits hn]

theorem ofParts?_negative {n : Nat} (hpos : 0 < n) (hn : n ≤ 1 <<< 63) :
    ofParts? true (Nat.toDigits 10 n) none none = some (.integer (-n)) := by
  have hfits : n < 1 <<< 64 := Nat.lt_of_le_of_lt hn (by decide)
  simpa [ofParts?, takeDigits_toDigits hfits, hpos] using hn

theorem text_ofNat (n : Nat) : (integer (.ofNat n)).text.toList = Nat.toDigits 10 n :=
  Nat.toList_repr

theorem text_negSucc (n : Nat) :
    (integer (.negSucc n)).text.toList = '-' :: Nat.toDigits 10 (n + 1) := by
  change ("-" ++ (n + 1).repr).toList = _
  rw [String.toList_append, Nat.toList_repr]
  rfl

/-- The text of an integer begins with a sign or a digit. -/
theorem exists_text_integer (i : Int) :
    ∃ c digits, (integer i).text.toList = c :: digits ∧ (c = '-' ∨ c.isDigit = true) := by
  cases i with
  | ofNat n =>
      obtain ⟨c, digits, hdigits⟩ := List.exists_cons_of_ne_nil
        (Nat.toDigits_ne_nil (n := n) (b := 10))
      have hc : c ∈ Nat.toDigits 10 n := hdigits ▸ List.mem_cons_self
      exact ⟨c, digits, (text_ofNat n).trans hdigits,
        .inr (Nat.isDigit_of_mem_toDigits (by decide) (by decide) hc)⟩
  | negSucc n => exact ⟨'-', _, text_negSucc n, .inl rfl⟩

/-- An integer reads back from its text, unless a character follows that goes on a number. -/
theorem read?_text {i : Int} (hi : (integer i).IsInteger)
    (hrest : ∀ c ∈ rest.head?, goesOn c = false) :
    read? ((integer i).text.toList ++ rest) = some (some (.integer i), rest) := by
  obtain ⟨hlow, hhigh⟩ := hi
  cases i with
  | ofNat n =>
      rw [text_ofNat]
      refine read?_digits hrest (ofParts?_positive (Int.ofNat_lt.mp hhigh)) ?_
      -- A digit stands in front, so there is no sign.
      have hdigit : ∀ c ∈ Nat.toDigits 10 n, c ≠ '-' := by
        rintro _ hc rfl
        exact absurd (Nat.isDigit_of_mem_toDigits (by decide) (by decide) hc) (by decide)
      obtain ⟨c, digits, hdigits⟩ := List.exists_cons_of_ne_nil
        (Nat.toDigits_ne_nil (n := n) (b := 10))
      rw [hdigits, List.cons_append, readMinus]
      intro s hs
      exact hdigit c (hdigits ▸ List.mem_cons_self) (List.cons.inj hs).1
  | negSucc n =>
      rw [text_negSucc]
      have hn : n + 1 ≤ 1 <<< 63 := by
        have hbound : (1 <<< 63 : Nat) = 0x8000000000000000 := rfl
        omega
      exact read?_digits hrest (ofParts?_negative (Nat.succ_pos n) hn) rfl

end Number

/-! ## Strings -/

/-- A hexadecimal digit is read as the number that it stands for. -/
theorem hexValue?_hexDigit {n : Nat} (hn : n < 16) : hexValue? (hexDigit n) = some n := by
  have hall : ∀ m < 16, hexValue? (hexDigit m) = some m := by decide
  exact hall n hn

theorem codeUnit?_hexDigit {n : Nat} (hn : n < 32) :
    codeUnit? '0' '0' (hexDigit (n / 16)) (hexDigit (n % 16)) = some n := by
  have hzero : hexValue? '0' = some 0 := by decide
  have hhigh := hexValue?_hexDigit (n := n / 16) (by omega)
  have hlow := hexValue?_hexDigit (n := n % 16) (by omega)
  rw [codeUnit?, hzero, hhigh, hlow]
  simp only [bind, Option.bind_some, pure, Option.some.injEq]
  omega

theorem readString?_shortEscape {e c : Char} (h : shortEscape? e = some c) (s : StringSoFar)
    (rest : List Char) :
    readString? s (['\\', e] ++ rest) = readString? (s.push c) rest := by
  have hu : e ≠ 'u' := by
    rintro rfl
    cases h
  rw [List.cons_append, List.singleton_append, readString?, h]
  intro _ _ _ _ _ hfirst
  exact absurd hfirst hu

/-- The escaped form of a character is read as the character. -/
theorem readString?_escapeChar (s : StringSoFar) (c : Char) (rest : List Char) :
    readString? s (escapeChar c ++ rest) = readString? (s.push c) rest := by
  have hshort {d e : Char} (hd : c = d) (he : shortEscape? e = some d) :
      readString? s (['\\', e] ++ rest) = readString? (s.push c) rest := by
    subst hd
    exact readString?_shortEscape he s rest
  have hcode {n : Nat} (hn : (c.toNat == n) = true) : c = Char.ofNat n := by
    rw [← eq_of_beq hn, Char.ofNat_toNat]
  unfold escapeChar
  split
  next h => exact hshort (eq_of_beq h) rfl
  split
  next h => exact hshort (eq_of_beq h) rfl
  split
  next h => exact hshort (eq_of_beq h) rfl
  split
  next h => exact hshort (eq_of_beq h) rfl
  split
  next h => exact hshort (eq_of_beq h) rfl
  split
  next h => exact hshort (hcode h) rfl
  split
  next h => exact hshort (hcode h) rfl
  split
  next hcontrol =>
    -- The other control characters stand as code units below all surrogates.
    have hpush : s.pushUnit c.toNat = s.push c := by
      rw [StringSoFar.pushUnit, if_neg (by omega), if_neg (by omega), Char.ofNat_toNat]
    simp only [List.cons_append, List.nil_append, readString?, codeUnit?_hexDigit hcontrol, hpush]
  next hquote hbackslash _ _ _ _ _ hcontrol =>
    have hc : c ≠ '"' ∧ c ≠ '\\' := ⟨by simpa using hquote, by simpa using hbackslash⟩
    rw [List.singleton_append, readString?, if_neg hcontrol]
    · exact hc.1
    · intro _ _ _ _ _ hfirst
      exact absurd hfirst hc.2
    · intro _ _ hfirst
      exact absurd hfirst hc.2

theorem readString?_flatMap_escapeChar (s : StringSoFar) (text rest : List Char) :
    readString? s (text.flatMap escapeChar ++ rest) =
      readString? (text.foldl StringSoFar.push s) rest := by
  induction text generalizing s with
  | nil => rfl
  | cons c text ih =>
      rw [List.flatMap_cons, List.append_assoc, readString?_escapeChar, ih, List.foldl_cons]

namespace StringSoFar

theorem foldl_push (reversed text : List Char) :
    text.foldl push ⟨reversed, none, true⟩ = ⟨text.reverse ++ reversed, none, true⟩ := by
  induction text generalizing reversed with
  | nil => rfl
  | cons c text ih =>
      rw [List.foldl_cons, List.reverse_cons, List.append_assoc]
      exact ih (c :: reversed)

end StringSoFar

/-- A string reads back from its written form, whatever follows. -/
theorem readString?_quote (s : String) (rest : List Char) :
    readString? {} (s.toList.flatMap escapeChar ++ '"' :: rest) = some (some s, rest) := by
  have hpush : s.toList.foldl StringSoFar.push {} = ⟨s.toList.reverse, none, true⟩ := by
    rw [StringSoFar.foldl_push, List.append_nil]
  rw [readString?_flatMap_escapeChar, hpush, readString?]
  simp [StringSoFar.finish]

end Json

end ArchiveSearch
