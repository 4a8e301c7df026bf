import ArchiveSearch.Calendar.Date
import ArchiveSearch.Numeric.Double
import ArchiveSearch.Toml.Text

/-!
# Numbers and times in TOML

Numbers, truth values and times are written without blanks, so each of them is one run of letters,
digits and a few signs; only a date and its time of day may have a blank between them. Underscores
may stand between the digits of a number.
-/

namespace ArchiveSearch.Toml

/-- Whether a character may belong to a number, a truth value or a time. -/
def isRunChar (c : Char) : Bool :=
  c.isAlphanum || c == '_' || c == '+' || c == '-' || c == '.' || c == ':'

/-- Takes out the underscores of a run of digits. Each must stand between two digits. -/
def plainDigits? : List Char → Option (List Char)
  | [] => none
  | c :: '_' :: rest =>
      if c == '_' then none else (plainDigits? rest).map (c :: ·)
  | [c] => if c == '_' then none else some [c]
  | c :: rest => if c == '_' then none else (plainDigits? rest).map (c :: ·)

/-- The digits of a decimal number, without needless zeros in front. -/
def decimalDigits? (text : List Char) : Option (List Char) := do
  let digits ← plainDigits? text
  guard (digits.all Char.isDigit && (digits.head? != some '0' || digits.length == 1))
  return digits

/-- The digits of a fraction or an exponent. -/
def anyDigits? (text : List Char) : Option (List Char) := do
  let digits ← plainDigits? text
  guard (digits.all Char.isDigit)
  return digits

/-- Takes a sign off; the number is negative if it is a minus. -/
def takeSign : List Char → Bool × List Char
  | '-' :: rest => (true, rest)
  | '+' :: rest => (false, rest)
  | text => (false, text)

/-- An integer that fits 64 bits, its sign included. -/
def bounded? (n : Int) : Option Int :=
  if -(1 <<< 63 : Nat) ≤ n ∧ n < (1 <<< 63 : Nat) then some n else none

/-- The integer that a run of characters stands for. -/
def integer? (text : List Char) : Option Int :=
  match text with
  | '0' :: 'x' :: rest => do bounded? (← numberOf? 16 (← plainDigits? rest))
  | '0' :: 'o' :: rest => do bounded? (← numberOf? 8 (← plainDigits? rest))
  | '0' :: 'b' :: rest => do bounded? (← numberOf? 2 (← plainDigits? rest))
  | _ => do
      let (negative, rest) := takeSign text
      let n ← numberOf? 10 (← decimalDigits? rest)
      bounded? (if negative then -(n : Int) else n)

/-- Whether a positive decimal number is too large for a double. -/
def isTooLarge (significand : Nat) (exponent : Int) : Bool :=
  let digits := (Nat.toDigits 10 significand).length
  if significand = 0 then false
  else if exponent + digits < 300 then false
  else if 320 < exponent + digits then true
  else (Numeric.Magnitude.ofQuotient? (significand * Nat.pow 10 exponent.toNat)
    (Nat.pow 10 (-exponent).toNat)).isNone

/-- Whether a run of characters stands for a number with a fraction or an exponent, or for one of
the values that are no numbers. -/
def isFloat (text : List Char) : Bool :=
  let (negative, body) := takeSign text
  let isPoint (c : Char) : Bool := c == '.'
  let isMark (c : Char) : Bool := c == 'e' || c == 'E'
  let mantissa := body.takeWhile (!isMark ·)
  let exponent := (body.dropWhile (!isMark ·)).drop 1
  let fraction := (mantissa.dropWhile (!isPoint ·)).drop 1
  let hasExponent := body.any isMark
  let hasFraction := mantissa.any isPoint
  let (below, exponentText) := takeSign exponent
  if body == ['i', 'n', 'f'] || body == ['n', 'a', 'n'] then true
  else
    match decimalDigits? (mantissa.takeWhile (!isPoint ·)),
        (if hasFraction then anyDigits? fraction else some []),
        (if hasExponent then anyDigits? exponentText else some []) with
    | some whole, some fraction, some digits =>
        let size : Int := Nat.ofDigitChars 10 digits 0
        let scale := (if below then -size else size) - fraction.length
        (hasFraction || hasExponent) &&
          (negative || !isTooLarge (Nat.ofDigitChars 10 (whole ++ fraction) 0) scale)
    | _, _, _ => false

/-- The number of two digits, if it lies between bounds. -/
def twoDigits? (low high : Nat) (a b : Char) : Option Nat :=
  let n := Nat.ofDigitChars 10 [a, b] 0
  if a.isDigit && b.isDigit && decide (low ≤ n) && decide (n ≤ high) then some n else none

/-- Whether characters stand for a date, and what follows it. -/
def readDate? : List Char → Option (List Char)
  | y₁ :: y₂ :: y₃ :: y₄ :: '-' :: m₁ :: m₂ :: '-' :: d₁ :: d₂ :: rest => do
      guard ([y₁, y₂, y₃, y₄].all Char.isDigit)
      let month ← twoDigits? 1 12 m₁ m₂
      let lengths := Calendar.monthLengths (Nat.ofDigitChars 10 [y₁, y₂, y₃, y₄] 0)
      let _ ← twoDigits? 1 (lengths.getD (month - 1) 0) d₁ d₂
      return rest
  | _ => none

/-- Whether characters stand for a time of day, and what follows it. -/
def readTimeOfDay? : List Char → Option (List Char)
  | h₁ :: h₂ :: ':' :: m₁ :: m₂ :: ':' :: s₁ :: s₂ :: rest => do
      let _ ← twoDigits? 0 23 h₁ h₂
      let _ ← twoDigits? 0 59 m₁ m₂
      let _ ← twoDigits? 0 60 s₁ s₂
      match rest with
      | '.' :: fraction =>
          guard (fraction.head?.any Char.isDigit)
          return fraction.dropWhile Char.isDigit
      | _ => return rest
  | _ => none

/-- Whether characters stand for an offset from universal time, or for nothing. -/
def isOffset : List Char → Bool
  | [] => true
  | ['Z'] => true
  | ['z'] => true
  | [sign, h₁, h₂, ':', m₁, m₂] =>
      (sign == '+' || sign == '-') && (twoDigits? 0 23 h₁ h₂).isSome &&
        (twoDigits? 0 59 m₁ m₂).isSome
  | _ => false

/-- Whether a run of characters stands for a date, a time of day, or both. -/
def isMoment (text : List Char) : Bool :=
  match readDate? text with
  | some [] => true
  | some (mark :: rest) =>
      (mark == 'T' || mark == 't' || mark == ' ') && (readTimeOfDay? rest).any isOffset
  | none => readTimeOfDay? text == some []

/-- Takes the run of characters at the front of a text, a time of day behind a date included. -/
def takeRun (text : List Char) : List Char × List Char :=
  let run := text.takeWhile isRunChar
  let rest := text.dropWhile isRunChar
  match rest with
  | ' ' :: c :: _ =>
      if readDate? run == some [] && c.isDigit then
        (run ++ ' ' :: (rest.drop 1).takeWhile isRunChar, (rest.drop 1).dropWhile isRunChar)
      else (run, rest)
  | _ => (run, rest)

end ArchiveSearch.Toml
