/-!
# Strings in TOML

A string is written between quotes, with escapes, or between apostrophes, without. Three quotes or
three apostrophes enclose a string of several lines, whose first line break does not count. The
writer takes the first form that needs no escapes; where there is none, it escapes.
-/

namespace ArchiveSearch.Toml

/-- Whether a character may stand in a string or a comment by itself. -/
def isPlain (c : Char) : Bool := c == '\t' || (' ' ≤ c && c != '\x7f')

/-- Whether a character is a space or a tab. -/
def isGap (c : Char) : Bool := c == ' ' || c == '\t'

/-- The character that an escape of one letter stands for. -/
def shortEscape? (c : Char) : Option Char :=
  if c == '"' || c == '\\' then some c
  else if c == 'b' then some '\x08'
  else if c == 't' then some '\t'
  else if c == 'n' then some '\n'
  else if c == 'f' then some '\x0c'
  else if c == 'r' then some '\r'
  else none

/-- The value of a digit, to base 16 at most. -/
def digitValue? (c : Char) : Option Nat :=
  if c.isDigit then some (c.toNat - '0'.toNat)
  else if 'a' ≤ c ∧ c ≤ 'f' then some (c.toNat - 'a'.toNat + 10)
  else if 'A' ≤ c ∧ c ≤ 'F' then some (c.toNat - 'A'.toNat + 10)
  else none

/-- The value of digits to a base of at most 16. -/
def numberOf? (base : Nat) (digits : List Char) : Option Nat :=
  digits.foldlM (fun n c =>
    (digitValue? c).bind fun d => if d < base then some (base * n + d) else none) 0

/-- Reads the character with a number of a fixed count of hexadecimal digits. -/
def readCode? (count : Nat) (text : List Char) : Option (Char × List Char) := do
  let digits := text.take count
  guard (digits.length = count)
  let n ← numberOf? 16 digits
  if n.isValidChar then some (Char.ofNat n, text.drop count) else none

/-- Reads what follows a backslash. -/
def readEscape? : List Char → Option (Char × List Char)
  | [] => none
  | c :: rest =>
      if c == 'u' then readCode? 4 rest
      else if c == 'U' then readCode? 8 rest
      else (shortEscape? c).map (·, rest)

theorem readEscape?_length {text after : List Char} {c : Char}
    (h : readEscape? text = some (c, after)) : after.length ≤ text.length := by
  have hcode {count : Nat} {text after : List Char} (h : readCode? count text = some (c, after)) :
      after.length ≤ text.length := by
    obtain ⟨-, -, h⟩ := Option.bind_eq_some_iff.mp h
    obtain ⟨n, -, h⟩ := Option.bind_eq_some_iff.mp h
    split at h
    next =>
      simp only [Option.some.injEq, Prod.mk.injEq] at h
      obtain ⟨-, rfl⟩ := h
      simp
    next => simp at h
  unfold readEscape? at h
  split at h
  next => simp at h
  next c' rest =>
    simp only [List.length_cons]
    split at h
    next => exact Nat.le_succ_of_le (hcode h)
    next =>
      split at h
      next => exact Nat.le_succ_of_le (hcode h)
      next =>
        obtain ⟨e, -, heq⟩ := Option.map_eq_some_iff.mp h
        simp only [Prod.mk.injEq] at heq
        exact heq.2 ▸ Nat.le_succ _

/-- Reads a string on one line after its opening quote. -/
def readBasic? (text : List Char) : Option (List Char × List Char) :=
  match text with
  | [] => none
  | c :: rest =>
      if c == '"' then some ([], rest)
      else if c == '\\' then
        match h : readEscape? rest with
        | none => none
        | some (e, after) =>
            have := readEscape?_length h
            (readBasic? after).map fun (value, after) => (e :: value, after)
      else if isPlain c then (readBasic? rest).map fun (value, after) => (c :: value, after)
      else none
termination_by text.length

/-- Reads a string on one line after its opening apostrophe. -/
def readLiteral? (text : List Char) : Option (List Char × List Char) :=
  let value := text.takeWhile (· != '\'')
  match text.dropWhile (· != '\'') with
  | _ :: after => if value.all isPlain then some (value, after) else none
  | [] => none

/-- Where the closing quotes of a string of several lines begin: how many of a run of quotes belong
to the string, at most two, and what follows the closing ones. -/
def closeBlock (quote : Char) (text : List Char) : List Char × List Char :=
  let own := min ((text.takeWhile (· == quote)).length - 3) 2
  (List.replicate own quote, text.drop (own + 3))

/-- Whether three quotes stand here. -/
def closesBlock (quote : Char) (text : List Char) : Bool :=
  3 ≤ (text.takeWhile (· == quote)).length

/-- Drops a line break that stands here. -/
def dropBreak : List Char → List Char
  | '\n' :: rest => rest
  | '\r' :: '\n' :: rest => rest
  | text => text

/-- Whether a line ends here. -/
def startsBreak : List Char → Bool
  | '\n' :: _ => true
  | '\r' :: '\n' :: _ => true
  | _ => false

/-- Reads a string of several lines after its opening quotes. After an escaped line break, spaces
and line breaks are skipped. -/
def readBlock? (skipping : Bool) (text : List Char) : Option (List Char × List Char) :=
  match text with
  | [] => none
  | '\n' :: rest =>
      if skipping then readBlock? true rest
      else (readBlock? false rest).map fun (value, after) => ('\n' :: value, after)
  | '\r' :: '\n' :: rest =>
      if skipping then readBlock? true rest
      else (readBlock? false rest).map fun (value, after) => ('\n' :: value, after)
  | '\\' :: rest =>
      if startsBreak (rest.dropWhile isGap) then readBlock? true rest
      else
        match h : readEscape? rest with
        | none => none
        | some (e, after) =>
            have := readEscape?_length h
            (readBlock? false after).map fun (value, after) => (e :: value, after)
  | c :: rest =>
      if skipping && isGap c then readBlock? true rest
      else if closesBlock '"' (c :: rest) then some (closeBlock '"' (c :: rest))
      else if isPlain c then (readBlock? false rest).map fun (value, after) => (c :: value, after)
      else none
termination_by text.length

/-- Reads a string of several lines after its opening apostrophes. -/
def readLiteralBlock? : List Char → Option (List Char × List Char)
  | [] => none
  | '\n' :: rest => (readLiteralBlock? rest).map fun (value, after) => ('\n' :: value, after)
  | '\r' :: '\n' :: rest =>
      (readLiteralBlock? rest).map fun (value, after) => ('\n' :: value, after)
  | c :: rest =>
      if closesBlock '\'' (c :: rest) then some (closeBlock '\'' (c :: rest))
      else if isPlain c then
        (readLiteralBlock? rest).map fun (value, after) => (c :: value, after)
      else none

/-- Reads a string in any of the four forms. -/
def readString? : List Char → Option (List Char × List Char)
  | '"' :: '"' :: '"' :: rest => readBlock? false (dropBreak rest)
  | '"' :: rest => readBasic? rest
  | '\'' :: '\'' :: '\'' :: rest => readLiteralBlock? (dropBreak rest)
  | '\'' :: rest => readLiteral? rest
  | _ => none

/-! ## Writing -/

/-- The four forms of a string. -/
inductive Form where
  | basic
  | literal
  | block
  | literalBlock
deriving DecidableEq, Repr

/-- The length of the longest run of a character, given the length of the run before the text. -/
def longestRun (c : Char) (run : Nat) : List Char → Nat
  | [] => run
  | d :: rest => if d = c then longestRun c (run + 1) rest else max run (longestRun c 0 rest)

/-- Whether a character can only be written with an escape. -/
def needsEscape (c : Char) : Bool := !isPlain c && c != '\n'

/-- The form in which a string is written. -/
def formOf (s : List Char) : Form :=
  let escapes := s.any needsEscape
  let quotes := longestRun '"' 0 s
  let apostrophes := longestRun '\'' 0 s
  let lines := s.contains '\n'
  let slashes := s.contains '\\'
  if !escapes && !slashes && quotes = 0 && !lines then .basic
  else if !escapes && apostrophes = 0 && !lines then .literal
  else if !escapes && !slashes && quotes ≤ 2 then .block
  else if !escapes && apostrophes ≤ 2 then .literalBlock
  else if lines then .block
  else .basic

/-- The hexadecimal digit of a number below 16, a capital letter from ten on. -/
def hexDigit (n : Nat) : Char :=
  if n < 10 then Char.ofNat ('0'.toNat + n) else Char.ofNat ('A'.toNat + (n - 10))

/-- How a character that is no quote is written between quotes. -/
def escapeChar (c : Char) : List Char :=
  if c == '\x08' then ['\\', 'b']
  else if c == '\t' then ['\\', 't']
  else if c == '\n' then ['\\', 'n']
  else if c == '\x0c' then ['\\', 'f']
  else if c == '\r' then ['\\', 'r']
  else if c == '\\' then ['\\', '\\']
  else if !isPlain c then
    ['\\', 'u', '0', '0', hexDigit (c.toNat / 16), hexDigit (c.toNat % 16)]
  else [c]

/-- Writes the inside of a string between quotes, of which `room` may follow one another; `run`
have just been written. -/
def escapeWith (room : Nat) (lines : Bool) (run : Nat) : List Char → List Char
  | [] => []
  | c :: rest =>
      if c == '"' then
        if run < room then c :: escapeWith room lines (run + 1) rest
        else '\\' :: '"' :: escapeWith room lines 0 rest
      else if c == '\n' && lines then c :: escapeWith room lines 0 rest
      else escapeChar c ++ escapeWith room lines 0 rest

/-- A string in the given form. A string with line breaks begins on a line of its own. -/
def writeAs (form : Form) (s : List Char) : List Char :=
  let start := if s.contains '\n' then ['\n'] else []
  match form with
  | .basic => '"' :: escapeWith 0 false 0 s ++ ['"']
  | .literal => '\'' :: s ++ ['\'']
  | .block => ['"', '"', '"'] ++ start ++ escapeWith 2 true 0 s ++ ['"', '"', '"']
  | .literalBlock => ['\'', '\'', '\''] ++ start ++ s ++ ['\'', '\'', '\'']

/-- The written form of a string. -/
def writeString (s : String) : String :=
  String.ofList (writeAs (formOf s.toList) s.toList)

end ArchiveSearch.Toml
