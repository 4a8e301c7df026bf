import ArchiveSearch.Failure

/-!
# Outcomes

What the program does for its user: a text on its output, messages beside it, and a code that tells
others whether it went well.
-/

namespace ArchiveSearch.Command

/-- A line beside the output. -/
inductive Message where
  | line (text : String)
  /-- How much a search has found; the time that it took is added when the line is shown. -/
  | found (results books : Nat)
deriving DecidableEq, Repr

/-- A number of microseconds in milliseconds, with three places. -/
def millisText (micros : Nat) : String :=
  let places := Nat.toDigits 10 (micros % 1000)
  toString (micros / 1000) ++ "." ++
    String.ofList (List.replicate (3 - places.length) '0' ++ places) ++ "ms"

/-- The text of a message, given the time in microseconds. -/
def Message.text (micros : Nat) : Message → String
  | line text => text
  | found results books =>
      "Found " ++ toString results ++ " results in " ++ toString books ++ " books in " ++
        millisText micros

/-- What the program does. -/
structure Outcome where
  code : Nat := 0
  output : String := ""
  messages : List Message := []
deriving DecidableEq, Repr

namespace Outcome

/-- Lines on the output. -/
def ofLines (lines : List String) : Outcome where
  output := String.join (lines.map (· ++ "\n"))

/-- An error that ends the program. -/
def error (o : Outcome) (message : String) : Outcome :=
  { o with code := 1, messages := o.messages ++ [.line ("Error: " ++ message)] }

/-- A failure and what lies behind it. -/
def ofFailure (f : Failure) : Outcome :=
  ({} : Outcome).error (f.message ++
    match f.cause? with
    | some cause => "\n\nCaused by:\n    " ++ cause
    | none => "")

/-- The messages as one text, given the time in microseconds. -/
def messageText (o : Outcome) (micros : Nat) : String :=
  String.join (o.messages.map fun m => m.text micros ++ "\n")

end Outcome

end ArchiveSearch.Command
