import ArchiveSearch.Text.Blank

/-!
# Tokens of a query

A query is a sequence of tokens. A token is a value, written bare or in quotes, that may follow a
run of dashes and a command, a run of letters with a colon. Inside quotes a doubled quote stands
for one quote. A quote that cannot be closed belongs to no token, and reading goes on behind it.
-/

namespace ArchiveSearch.Query

/-- A token: its command if it has one, whether its dashes are even in number, and its value. -/
structure Token where
  command : Option String
  positive : Bool
  value : String
deriving DecidableEq, Repr

namespace Token

/-- Reads a quoted value after its opening quote. Quotes are taken in pairs as long as the value
can still be closed behind them; if it cannot, the first quote of the last pair closes it. -/
def closeQuote : List Char → Option (List Char × List Char)
  | [] => none
  | '"' :: '"' :: rest =>
      match closeQuote rest with
      | some (value, after) => some ('"' :: value, after)
      | none => some ([], '"' :: rest)
  | c :: rest =>
      if c = '"' then some ([], rest)
      else
        match closeQuote rest with
        | some (value, after) => some (c :: value, after)
        | none => none

/-- Reads a quoted value. -/
def readQuoted? : List Char → Option (List Char × List Char)
  | '"' :: rest => closeQuote rest
  | _ => none

/-- Whether a character can stand in a bare value. -/
def isBare (c : Char) : Bool := c != '"' && !Text.isBlank c

/-- Reads a value in quotes, or else the bare value at the front, which may be empty. -/
def readValue (text : List Char) : List Char × List Char :=
  match readQuoted? text with
  | some read => read
  | none => (text.takeWhile isBare, text.dropWhile isBare)

/-- Reads the name of a command and its colon. -/
def readName? (text : List Char) : Option (List Char × List Char) :=
  match text.takeWhile Char.isAlpha, text.dropWhile Char.isAlpha with
  | c :: name, ':' :: rest => some (c :: name, rest)
  | _, _ => none

/-- Whether a value that is not an empty bare one begins here. -/
def startsValue (text : List Char) : Bool :=
  (readQuoted? text).isSome || text.head?.any isBare

/-- Reads the token at the front of a text. -/
def read? (text : List Char) : Option (Token × List Char) :=
  let dashes := text.takeWhile (· == '-')
  let body := text.dropWhile (· == '-')
  let positive := dashes.length % 2 == 0
  match readName? body with
  | some (name, rest) =>
      let (value, after) := readValue rest
      some (⟨some (String.ofList name), positive, String.ofList value⟩, after)
  | none =>
      if dashes.isEmpty && !startsValue body then none
      else
        let (value, after) := readValue body
        some (⟨none, positive, String.ofList value⟩, after)

theorem closeQuote_length {text value after : List Char}
    (h : closeQuote text = some (value, after)) : after.length < text.length := by
  fun_induction closeQuote text generalizing value <;> grind

theorem readQuoted?_length {text value after : List Char}
    (h : readQuoted? text = some (value, after)) : after.length < text.length := by
  unfold readQuoted? at h
  split at h
  next => exact Nat.lt_succ_of_lt (closeQuote_length h)
  next => simp at h

theorem readName?_length {text name rest : List Char} (h : readName? text = some (name, rest)) :
    rest.length < text.length := by
  have hsplit := congrArg List.length (List.takeWhile_append_dropWhile (p := Char.isAlpha) (l := text))
  unfold readName? at h
  split at h
  next hrest =>
    rw [hrest] at hsplit
    simp only [Option.some.injEq, Prod.mk.injEq] at h
    obtain ⟨-, rfl⟩ := h
    simp only [List.length_append, List.length_cons] at hsplit
    omega
  next => simp at h

theorem readValue_length (text : List Char) : (readValue text).2.length ≤ text.length := by
  unfold readValue
  split
  next read hread => exact Nat.le_of_lt (readQuoted?_length hread)
  next => exact (List.dropWhile_suffix _).length_le

theorem readValue_length_of_startsValue {text : List Char} (h : startsValue text = true) :
    (readValue text).2.length < text.length := by
  unfold readValue
  split
  next read hread => exact readQuoted?_length hread
  next hnone =>
    match text with
    | [] => simp [startsValue, readQuoted?] at h
    | c :: rest =>
        have hbare : isBare c = true := by simpa [startsValue, hnone] using h
        simp only [List.dropWhile_cons, hbare, if_true, List.length_cons]
        exact Nat.lt_succ_of_le (List.dropWhile_suffix _).length_le

/-- A token takes at least one character. -/
theorem read?_length {text after : List Char} {token : Token}
    (h : read? text = some (token, after)) : after.length < text.length := by
  have hsplit := congrArg List.length (List.takeWhile_append_dropWhile (p := (· == '-')) (l := text))
  simp only [List.length_append] at hsplit
  simp only [read?] at h
  split at h
  next hname =>
    have hrest := readName?_length hname
    simp only [Option.some.injEq, Prod.mk.injEq] at h
    obtain ⟨-, rfl⟩ := h
    exact Nat.lt_of_le_of_lt (readValue_length _) (by omega)
  next =>
    split at h
    next => simp at h
    next hstart =>
      simp only [Option.some.injEq, Prod.mk.injEq] at h
      obtain ⟨-, rfl⟩ := h
      simp only [Bool.and_eq_true, Bool.not_eq_true', not_and, Bool.not_eq_false] at hstart
      by_cases hdashes : (text.takeWhile (· == '-')).isEmpty = true
      · exact Nat.lt_of_lt_of_le (readValue_length_of_startsValue (hstart hdashes)) (by omega)
      · have hpos := List.length_pos_iff.mpr (mt List.isEmpty_iff.mpr hdashes)
        exact Nat.lt_of_le_of_lt (readValue_length _) (by omega)

/-- The tokens of a text. Where no token begins, one character is skipped. -/
def scan (text : List Char) : List Token :=
  match h : read? text with
  | some (token, after) =>
      have := read?_length h
      token :: scan after
  | none =>
      match text with
      | [] => []
      | _ :: rest => scan rest
termination_by text.length

/-- The written form of a value: in quotes, with its own quotes doubled. -/
def quote (value : List Char) : List Char :=
  '"' :: value.flatMap (fun c => if c = '"' then ['"', '"'] else [c]) ++ ['"']

end Token

/-- Splits a query into its tokens. -/
def tokenize (query : String) : List Token :=
  Token.scan query.toList

/-- Quotes a value so that it reads back as one token. -/
def quoteTerm (value : String) : String :=
  String.ofList (Token.quote value.toList)

end ArchiveSearch.Query
