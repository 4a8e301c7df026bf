import ArchiveSearch.Json.Basic

/-!
# JSON texts

A text is read in two steps. Its structure is found by a machine that takes one lexeme at a time
and keeps a stack of the arrays and objects that are still open. The result, a written value,
keeps the entries of objects as they stand, repeated names included, and remembers a string with
unpaired surrogates or a number out of range as unusable. A written value then becomes a value,
unless it is unusable somewhere or nested too deeply. A reader of a document may skip parts of a
written value without ever asking for their values.
-/

namespace ArchiveSearch.Json

/-- The smallest units of a text. -/
inductive Lexeme where
  | openArray
  | closeArray
  | openObject
  | closeObject
  | comma
  | colon
  | null
  | bool (value : Bool)
  | number (value : Option Number)
  | string (value : Option String)

/-- The value of a hexadecimal digit. -/
def hexValue? (c : Char) : Option Nat :=
  if c.isDigit then some (c.toNat - '0'.toNat)
  else if 'a' ≤ c ∧ c ≤ 'f' then some (c.toNat - 'a'.toNat + 10)
  else if 'A' ≤ c ∧ c ≤ 'F' then some (c.toNat - 'A'.toNat + 10)
  else none

/-- The code unit of four hexadecimal digits. -/
def codeUnit? (a b c d : Char) : Option Nat := do
  return ((← hexValue? a) * 16 + (← hexValue? b)) * 256 + ((← hexValue? c) * 16 + (← hexValue? d))

/-- The character that a one-letter escape stands for. -/
def shortEscape? (c : Char) : Option Char :=
  if c == '"' || c == '\\' || c == '/' then some c
  else if c == 'b' then some '\x08'
  else if c == 'f' then some '\x0c'
  else if c == 'n' then some '\n'
  else if c == 'r' then some '\r'
  else if c == 't' then some '\t'
  else none

/-- The characters of a string in reverse, the first half of a surrogate pair if one has just been
read, and whether all surrogates so far were paired. -/
structure StringSoFar where
  reversed : List Char := []
  high : Option Nat := none
  paired : Bool := true

namespace StringSoFar

/-- Adds a character. -/
def push (s : StringSoFar) (c : Char) : StringSoFar :=
  ⟨c :: s.reversed, none, s.paired && s.high.isNone⟩

/-- Adds a code unit that was written in hexadecimal. -/
def pushUnit (s : StringSoFar) (unit : Nat) : StringSoFar :=
  if 0xd800 ≤ unit ∧ unit < 0xdc00 then ⟨s.reversed, some unit, s.paired && s.high.isNone⟩
  else if 0xdc00 ≤ unit ∧ unit < 0xe000 then
    match s.high with
    | some high =>
        ⟨Char.ofNat (0x10000 + (high - 0xd800) * 0x400 + (unit - 0xdc00)) :: s.reversed, none,
          s.paired⟩
    | none => { s with paired := false }
  else s.push (Char.ofNat unit)

/-- The string, if all its surrogates are paired. -/
def finish (s : StringSoFar) : Option String :=
  if s.paired && s.high.isNone then some (String.ofList s.reversed.reverse) else none

end StringSoFar

/-- Reads a string after its opening quote. -/
def readString? (s : StringSoFar) : List Char → Option (Option String × List Char)
  | [] => none
  | '"' :: rest => some (s.finish, rest)
  | '\\' :: 'u' :: a :: b :: c :: d :: rest =>
      match codeUnit? a b c d with
      | some unit => readString? (s.pushUnit unit) rest
      | none => none
  | '\\' :: e :: rest =>
      match shortEscape? e with
      | some c => readString? (s.push c) rest
      | none => none
  | c :: rest => if c.toNat < 32 then none else readString? (s.push c) rest

/-- Reads the lexeme that begins with the given character. -/
def readLexeme? (c : Char) (rest : List Char) : Option (Lexeme × List Char) :=
  if c == '[' then some (.openArray, rest)
  else if c == ']' then some (.closeArray, rest)
  else if c == '\x7b' then some (.openObject, rest)
  else if c == '\x7d' then some (.closeObject, rest)
  else if c == ',' then some (.comma, rest)
  else if c == ':' then some (.colon, rest)
  else if c == '"' then (readString? {} rest).map fun (value, rest) => (.string value, rest)
  else if c == '-' || c.isDigit then
    (Number.read? (c :: rest)).map fun (value, rest) => (.number value, rest)
  else
    match c :: rest with
    | 'n' :: 'u' :: 'l' :: 'l' :: rest => some (.null, rest)
    | 't' :: 'r' :: 'u' :: 'e' :: rest => some (.bool true, rest)
    | 'f' :: 'a' :: 'l' :: 's' :: 'e' :: rest => some (.bool false, rest)
    | _ => none

/-- Whether a character may stand between lexemes. -/
def isSpace (c : Char) : Bool := c == ' ' || c == '\n' || c == '\t' || c == '\r'

/-- A value as it stands in a text. -/
inductive Written where
  | null
  | bool (value : Bool)
  | number (value : Option Number)
  | string (value : Option String)
  | array (items : List Written)
  | object (entries : List (Option String × Written))
deriving Inhabited

/-- An array or an object that is still open, with what it holds so far in reverse. -/
inductive Frame where
  | items (before : List Written)
  | entries (before : List (Option String × Written)) (name : Option String)

/-- What may come next inside the frames that are open, innermost first. -/
inductive Machine where
  /-- A value. -/
  | value (frames : List Frame)
  /-- The first item of an array, or its end. -/
  | firstItem (frames : List Frame)
  /-- A comma or the end of the innermost frame; if there is none, the end of the text. -/
  | afterValue (frames : List Frame) (value : Written)
  /-- The first name of an object, or its end. -/
  | firstName (frames : List Frame)
  /-- Another name of an object. -/
  | name (frames : List Frame) (before : List (Option String × Written))
  /-- The colon after a name. -/
  | colon (frames : List Frame) (before : List (Option String × Written)) (name : Option String)

namespace Machine

/-- Where a value is expected. -/
def takeValue (frames : List Frame) : Lexeme → Option Machine
  | .null => some (afterValue frames .null)
  | .bool b => some (afterValue frames (.bool b))
  | .number n => some (afterValue frames (.number n))
  | .string s => some (afterValue frames (.string s))
  | .openArray => some (firstItem frames)
  | .openObject => some (firstName frames)
  | _ => none

/-- One lexeme. -/
def step : Machine → Lexeme → Option Machine
  | value frames, lexeme => takeValue frames lexeme
  | firstItem frames, .closeArray => some (afterValue frames (.array []))
  | firstItem frames, lexeme => takeValue (.items [] :: frames) lexeme
  | afterValue (.items before :: frames) v, .comma => some (value (.items (v :: before) :: frames))
  | afterValue (.items before :: frames) v, .closeArray =>
      some (afterValue frames (.array (v :: before).reverse))
  | afterValue (.entries before n :: frames) v, .comma => some (name frames ((n, v) :: before))
  | afterValue (.entries before n :: frames) v, .closeObject =>
      some (afterValue frames (.object ((n, v) :: before).reverse))
  | firstName frames, .closeObject => some (afterValue frames (.object []))
  | firstName frames, .string s => some (colon frames [] s)
  | name frames before, .string s => some (colon frames before s)
  | colon frames before n, .colon => some (value (.entries before n :: frames))
  | _, _ => none

/-- The value of a text at its end. -/
def result? : Machine → Option Written
  | afterValue [] v => some v
  | _ => none

end Machine

theorem readString?_length {s : StringSoFar} {text rest : List Char} {value : Option String}
    (h : readString? s text = some (value, rest)) : rest.length < text.length := by
  fun_induction readString? s text <;> simp_all <;> grind

namespace Number

theorem readDigits?_length {s digits rest : List Char}
    (h : readDigits? s = some (digits, rest)) : rest.length < s.length := by
  unfold readDigits? at h
  split at h
  next => simp at h
  next hne =>
    have hsplit := congrArg List.length (List.takeWhile_append_dropWhile (p := Char.isDigit) (l := s))
    have hpos := List.length_pos_iff.mpr hne
    simp only [Option.some.injEq, Prod.mk.injEq] at h
    obtain ⟨-, rfl⟩ := h
    simp only [List.length_append] at hsplit
    omega

theorem readFraction?_length {s rest : List Char} {fraction : Option (List Char)}
    (h : readFraction? s = some (fraction, rest)) : rest.length ≤ s.length := by
  unfold readFraction? at h
  split at h
  next =>
    obtain ⟨⟨digits, after⟩, hdigits, heq⟩ := Option.map_eq_some_iff.mp h
    have := readDigits?_length hdigits
    simp_all
    omega
  next => simp_all

theorem readSign_length {s : List Char} : (readSign s).2.length ≤ s.length := by
  unfold readSign
  split <;> simp

theorem readMinus_length {s : List Char} : (readMinus s).2.length ≤ s.length := by
  unfold readMinus
  split <;> simp

theorem readExponent?_length {s rest : List Char} {exponent : Option Int}
    (h : readExponent? s = some (exponent, rest)) : rest.length ≤ s.length := by
  unfold readExponent? at h
  split at h
  next c s =>
    split at h
    next =>
      obtain ⟨⟨digits, after⟩, hdigits, heq⟩ := Option.bind_eq_some_iff.mp h
      have hlength := readDigits?_length hdigits
      have hsign := readSign_length (s := s)
      simp only [pure, Option.some.injEq, Prod.mk.injEq] at heq
      obtain ⟨-, rfl⟩ := heq
      simp only [List.length_cons]
      omega
    next => simp_all
  next => simp_all

theorem read?_length {s rest : List Char} {value : Option Number}
    (h : read? s = some (value, rest)) : rest.length < s.length := by
  obtain ⟨⟨whole, s₁⟩, hwhole, h⟩ := Option.bind_eq_some_iff.mp h
  obtain ⟨-, -, h⟩ := Option.bind_eq_some_iff.mp h
  obtain ⟨⟨fraction, s₂⟩, hfraction, h⟩ := Option.bind_eq_some_iff.mp h
  obtain ⟨⟨exponent, s₃⟩, hexponent, heq⟩ := Option.bind_eq_some_iff.mp h
  have h₁ := readDigits?_length hwhole
  have h₂ := readFraction?_length hfraction
  have h₃ := readExponent?_length hexponent
  have h₀ := readMinus_length (s := s)
  simp only [pure, Option.some.injEq, Prod.mk.injEq] at heq
  obtain ⟨-, rfl⟩ := heq
  omega

end Number

/-- A lexeme takes at least the character that it begins with. -/
theorem readLexeme?_length {c : Char} {rest after : List Char} {lexeme : Lexeme}
    (h : readLexeme? c rest = some (lexeme, after)) : after.length ≤ rest.length := by
  unfold readLexeme? at h
  repeat' split at h
  all_goals grind [Option.map_eq_some_iff, → Number.read?_length, → readString?_length]

/-- Runs the machine over a text. -/
def Machine.run (m : Machine) (text : List Char) : Option Machine :=
  match text with
  | [] => some m
  | c :: rest =>
      if isSpace c then m.run rest
      else
        match h : readLexeme? c rest with
        | none => none
        | some (lexeme, after) =>
            have := readLexeme?_length h
            match m.step lexeme with
            | none => none
            | some next => next.run after
termination_by text.length

/-- Reads a text that holds one value and nothing else but spaces. -/
def Written.read? (text : String) : Option Written := do
  let m ← (Machine.value []).run text.toList
  m.result?

mutual

/-- The value that a written one stands for. There is none if a string or a number is unusable or
if more than `room` arrays and objects contain one another. -/
def Written.value? (room : Nat) : Written → Option Json
  | .null => some .null
  | .bool b => some (.bool b)
  | .number n => n.map .number
  | .string s => s.map .string
  | .array items =>
      match room with
      | 0 => none
      | room + 1 => (valueItems? room items).map .array
  | .object entries =>
      match room with
      | 0 => none
      | room + 1 => (valueEntries? room entries).map .ofEntries

def Written.valueItems? (room : Nat) : List Written → Option (List Json)
  | [] => some []
  | item :: rest => do
      let item ← value? room item
      return item :: (← valueItems? room rest)

def Written.valueEntries? (room : Nat) :
    List (Option String × Written) → Option (List (String × Json))
  | [] => some []
  | (name, value) :: rest => do
      let name ← name
      let value ← value? room value
      return (name, value) :: (← valueEntries? room rest)

end

/-- The number of arrays and objects that may contain one another. -/
def nestingLimit : Nat := 127

/-- The value of a text. -/
def read? (text : String) : Option Json := do
  let written ← Written.read? text
  written.value? nestingLimit

end ArchiveSearch.Json
