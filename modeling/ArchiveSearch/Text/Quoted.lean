import ArchiveSearch.Text.Word

/-!
# Quoted text

Text is shown to a person between quotes. Quotes, backslashes and the common control characters
are written with a backslash, and a character that would not be seen, or would join the one before
it, by its number.
-/

namespace ArchiveSearch.Text

/-- The digits of a number to base sixteen, in lower case. -/
def hexText (n : Nat) : String := String.ofList (Nat.toDigits 16 n)

/-- How a character is written between quotes. -/
def quotedForm (c : Char) : String :=
  match c with
  | '"' => "\\\""
  | '\\' => "\\\\"
  | '\n' => "\\n"
  | '\r' => "\\r"
  | '\t' => "\\t"
  | '\x00' => "\\0"
  | _ =>
      if extendingRanges.holds c.toNat || !shownRanges.holds c.toNat then
        "\\u" ++ "\x7b" ++ hexText c.toNat ++ "\x7d"
      else c.toString

/-- A text between quotes. -/
def quoted (s : String) : String :=
  "\"" ++ String.join (s.toList.map quotedForm) ++ "\""

/-- A path between quotes; apostrophes are written with a backslash, too. -/
def quotedPath (s : String) : String :=
  "\"" ++ String.join (s.toList.map fun c => if c = '\'' then "\\'" else quotedForm c) ++ "\""

end ArchiveSearch.Text
