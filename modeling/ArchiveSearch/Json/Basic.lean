import ArchiveSearch.Dictionary
import ArchiveSearch.Json.Number

/-!
# JSON values

The entries of an object come in the order in which they are written; the objects of a text that
has been read have each name once and in ascending order. A value is written compactly or over
indented lines.
-/

namespace ArchiveSearch

/-- A JSON value. -/
inductive Json where
  | null
  | bool (value : Bool)
  | number (value : Json.Number)
  | string (value : String)
  | array (items : List Json)
  | object (entries : List (String × Json))
deriving Inhabited

namespace Json

/-- The hexadecimal digit of a number below 16. -/
def hexDigit (n : Nat) : Char :=
  if n < 10 then Char.ofNat ('0'.toNat + n) else Char.ofNat ('a'.toNat + (n - 10))

/-- How a character is written inside a string: quotes, backslashes and control characters are
escaped, with a short form where there is one. -/
def escapeChar (c : Char) : List Char :=
  if c == '"' then ['\\', '"']
  else if c == '\\' then ['\\', '\\']
  else if c == '\n' then ['\\', 'n']
  else if c == '\r' then ['\\', 'r']
  else if c == '\t' then ['\\', 't']
  else if c.toNat == 8 then ['\\', 'b']
  else if c.toNat == 12 then ['\\', 'f']
  else if c.toNat < 32 then
    ['\\', 'u', '0', '0', hexDigit (c.toNat / 16), hexDigit (c.toNat % 16)]
  else [c]

/-- The written form of a string. -/
def quote (s : String) : List Char :=
  '"' :: s.toList.flatMap escapeChar ++ ['"']

/-- Texts with commas between them. -/
def commaList : List (List Char) → List Char
  | [] => []
  | [item] => item
  | item :: rest => item ++ ',' :: commaList rest

mutual

/-- The compact form of a value, without blanks. -/
def compact : Json → List Char
  | null => "null".toList
  | bool true => "true".toList
  | bool false => "false".toList
  | number value => value.text.toList
  | string value => quote value
  | array items => '[' :: commaList (compactItems items) ++ [']']
  | object entries => '\x7b' :: commaList (compactEntries entries) ++ ['\x7d']

def compactItems : List Json → List (List Char)
  | [] => []
  | item :: rest => compact item :: compactItems rest

def compactEntries : List (String × Json) → List (List Char)
  | [] => []
  | entry :: rest => (quote entry.1 ++ ':' :: compact entry.2) :: compactEntries rest

end

/-- A line break and the indentation of a level, two blanks for each. -/
def newLine (level : Nat) : List Char :=
  '\n' :: List.replicate (2 * level) ' '

/-- Texts on lines of their own at a level, with commas between them. -/
def lineList (level : Nat) : List (List Char) → List Char
  | [] => []
  | [item] => newLine level ++ item
  | item :: rest => newLine level ++ item ++ ',' :: lineList level rest

mutual

/-- The form of a value over several lines; empty arrays and objects stay on one. -/
def indented (level : Nat) : Json → List Char
  | array [] => "[]".toList
  | array items =>
      '[' :: lineList (level + 1) (indentedItems (level + 1) items) ++ newLine level ++ [']']
  | object [] => ['\x7b', '\x7d']
  | object entries =>
      '\x7b' :: lineList (level + 1) (indentedEntries (level + 1) entries) ++ newLine level ++
        ['\x7d']
  | value => compact value

def indentedItems (level : Nat) : List Json → List (List Char)
  | [] => []
  | item :: rest => indented level item :: indentedItems level rest

def indentedEntries (level : Nat) : List (String × Json) → List (List Char)
  | [] => []
  | entry :: rest =>
      (quote entry.1 ++ ':' :: ' ' :: indented level entry.2) :: indentedEntries level rest

end

/-- The compact text of a value. -/
def compactText (value : Json) : String := String.ofList value.compact

/-- The text of a value over several lines. -/
def indentedText (value : Json) : String := String.ofList (value.indented 0)

/-- An object with the given names and values, in ascending order of the names. -/
def ofDictionary (d : Dictionary Json) : Json := object d.entries

/-- The object of a list of entries, of which the last one for a name counts. -/
def ofEntries (entries : List (String × Json)) : Json :=
  ofDictionary (Dictionary.ofList entries)

/-- A natural number as a value. -/
def ofNat (n : Nat) : Json := number (.integer n)

/-- Text or `null`. -/
def ofText? : Option String → Json
  | some s => string s
  | none => null

end Json

end ArchiveSearch
