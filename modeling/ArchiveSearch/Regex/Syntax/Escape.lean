import ArchiveSearch.Regex.Syntax
import ArchiveSearch.Text.Blank

/-!
# Escapes

What may follow a backslash. In verbose expressions blanks and comments are skipped, also inside
the longer escapes. Every reader returns what is left of the text, which is never longer.
-/

namespace ArchiveSearch.Regex

open Text

/-- Skips blanks and comments, which run from `#` to the end of the line. -/
def skipVerbose (inComment : Bool) : List Char → List Char
  | [] => []
  | c :: rest =>
      if inComment then skipVerbose (c != '\n') rest
      else if isBlank c then skipVerbose false rest
      else if c == '#' then skipVerbose true rest
      else c :: rest

/-- Skips what has no meaning; outside verbose expressions that is nothing. -/
def skip (verbose : Bool) (text : List Char) : List Char :=
  if verbose then skipVerbose false text else text

theorem skipVerbose_length (inComment : Bool) (text : List Char) :
    (skipVerbose inComment text).length ≤ text.length := by
  fun_induction skipVerbose inComment text <;> grind

theorem skip_length (verbose : Bool) (text : List Char) :
    (skip verbose text).length ≤ text.length := by
  unfold skip
  split
  next => exact skipVerbose_length false text
  next => exact Nat.le_refl _

/-- Takes the characters at the front that pass a test, skipping after each of them. -/
def collect (verbose : Bool) (test : Char → Bool) : List Char → List Char × List Char
  | [] => ([], [])
  | c :: rest =>
      if test c then
        have := skip_length verbose rest
        let (taken, after) := collect verbose test (skip verbose rest)
        (c :: taken, after)
      else ([], c :: rest)
termination_by text => text.length

theorem collect_length (verbose : Bool) (test : Char → Bool) (text : List Char) :
    (collect verbose test text).2.length ≤ text.length := by
  fun_induction collect verbose test text with
  | case1 => exact Nat.le_refl _
  | case2 c rest htest taken after ih hcollect =>
      have := skip_length verbose rest
      simp_all
      omega
  | case3 => exact Nat.le_refl _

/-- The value of a hexadecimal digit. -/
def hexValue (c : Char) : Nat :=
  if c.isDigit then c.toNat - '0'.toNat
  else if 'a' ≤ c ∧ c ≤ 'f' then c.toNat - 'a'.toNat + 10
  else c.toNat - 'A'.toNat + 10

def isHex (c : Char) : Bool :=
  c.isDigit || ('a' ≤ c && c ≤ 'f') || ('A' ≤ c && c ≤ 'F')

/-- The character that hexadecimal digits name, if they name one. -/
def charOfHex? (digits : List Char) : Option Char :=
  let n := digits.foldl (fun n c => 16 * n + hexValue c) 0
  if n.isValidChar then some (Char.ofNat n) else none

/-- Takes exactly `n` hexadecimal digits, skipping after each of them. -/
def takeHex? (verbose : Bool) : Nat → List Char → Option (List Char × List Char)
  | 0, text => some ([], text)
  | _ + 1, [] => none
  | n + 1, c :: rest =>
      if isHex c then
        match takeHex? verbose n (skip verbose rest) with
        | some (digits, after) => some (c :: digits, after)
        | none => none
      else none

theorem takeHex?_length {verbose : Bool} {n : Nat} {text digits after : List Char}
    (h : takeHex? verbose n text = some (digits, after)) : after.length ≤ text.length := by
  fun_induction takeHex? verbose n text generalizing digits with
  | case1 => simp_all
  | case2 => simp at h
  | case3 n c rest hc digits' after' hrec ih =>
      simp only [Option.some.injEq, Prod.mk.injEq] at h
      obtain ⟨-, rfl⟩ := h
      have := skip_length verbose rest
      have := ih hrec
      simp only [List.length_cons]
      omega
  | case4 => simp at h
  | case5 => simp at h

/-- Reads the digits of a hexadecimal escape, either a fixed number of them or any number in
braces. -/
def readHex? (verbose : Bool) (count : Nat) (text : List Char) : Option (Literal × List Char) :=
  match skip verbose text with
  | '\x7b' :: rest =>
      match collect verbose isHex (skip verbose rest) with
      | (digits, '\x7d' :: after) =>
          if digits.isEmpty then none
          else (charOfHex? digits).map fun c => (⟨c, false⟩, skip verbose after)
      | _ => none
  | rest => do
      let (digits, after) ← takeHex? verbose count rest
      let c ← charOfHex? digits
      return (⟨c, count == 2⟩, after)

theorem readHex?_length {verbose : Bool} {count : Nat} {text after : List Char} {l : Literal}
    (h : readHex? verbose count text = some (l, after)) : after.length ≤ text.length := by
  have htext := skip_length verbose text
  unfold readHex? at h
  split at h
  next rest hrest =>
    split at h
    next digits after' hcollect =>
      have hlength := collect_length verbose isHex (skip verbose rest)
      have hskip := skip_length verbose rest
      have hafter := skip_length verbose after'
      rw [hcollect] at hlength
      rw [hrest] at htext
      split at h
      next => simp at h
      next =>
        obtain ⟨c, -, heq⟩ := Option.map_eq_some_iff.mp h
        simp only [Prod.mk.injEq] at heq
        obtain ⟨-, rfl⟩ := heq
        simp only [List.length_cons] at *
        omega
    next => simp at h
  next =>
    simp only [bind, Option.bind_eq_some_iff] at h
    obtain ⟨⟨digits, after'⟩, htake, c, -, heq⟩ := h
    have := takeHex?_length htake
    simp only [pure, Option.some.injEq, Prod.mk.injEq] at heq
    obtain ⟨-, rfl⟩ := heq
    exact Nat.le_trans this htext

/-- The first place where `pattern` occurs in a text: what stands before and after it. -/
def splitAt? (pattern : List Char) : List Char → Option (List Char × List Char)
  | [] => none
  | c :: rest =>
      if pattern.isPrefixOf (c :: rest) then some ([], (c :: rest).drop pattern.length)
      else
        match splitAt? pattern rest with
        | some (before, after) => some (c :: before, after)
        | none => none

/-- A property by what was written between its braces; a value may follow `!=`, `:` or `=`. -/
def PropertyName.ofText (text : List Char) : PropertyName :=
  match (splitAt? ['!', '='] text).or ((splitAt? [':'] text).or (splitAt? ['='] text)) with
  | some (name, value) => .withValue (String.ofList name) (String.ofList value)
  | none => .alone (String.ofList text)

/-- Reads the name of a property, one letter or any text in braces. -/
def readProperty? (verbose : Bool) (text : List Char) : Option (PropertyName × List Char) :=
  match skip verbose text with
  | [] => none
  | '\x7b' :: rest =>
      match collect verbose (· != '\x7d') (skip verbose rest) with
      | (name, _ :: after) => some (.ofText name, after)
      | _ => none
  | c :: rest => if c == '\\' then none else some (.alone c.toString, skip verbose rest)

theorem readProperty?_length {verbose : Bool} {text after : List Char} {p : PropertyName}
    (h : readProperty? verbose text = some (p, after)) : after.length ≤ text.length := by
  have htext := skip_length verbose text
  unfold readProperty? at h
  split at h
  next => simp at h
  next rest hrest =>
    split at h
    next name c after' hcollect =>
      have hlength := collect_length verbose (· != '\x7d') (skip verbose rest)
      have hskip := skip_length verbose rest
      rw [hcollect] at hlength
      rw [hrest] at htext
      simp only [Option.some.injEq, Prod.mk.injEq] at h
      obtain ⟨-, rfl⟩ := h
      simp only [List.length_cons] at *
      omega
    next => simp at h
  next c rest _ hrest =>
    have hskip := skip_length verbose rest
    rw [hrest] at htext
    split at h
    next => simp at h
    next =>
      simp only [Option.some.injEq, Prod.mk.injEq] at h
      obtain ⟨-, rfl⟩ := h
      simp only [List.length_cons] at *
      omega

/-- The test of a position that `\b` and a name in braces stand for. -/
def specialBoundary? (name : String) : Option Anchor :=
  match name with
  | "start" => some .startWord
  | "end" => some .endWord
  | "start-half" => some .startWordHalf
  | "end-half" => some .endWordHalf
  | _ => none

/-- Reads what follows `\b`. Braces that do not begin with a letter or a dash are left to be read
as a repetition. -/
def readBoundary? (verbose : Bool) : List Char → Option (Anchor × List Char)
  | '\x7b' :: rest =>
      let isNameChar (c : Char) : Bool := c.isAlpha || c == '-'
      match skip verbose rest with
      | [] => none
      | c :: body =>
          if isNameChar c then
            match collect verbose isNameChar (c :: body) with
            | (name, '\x7d' :: after) =>
                (specialBoundary? (String.ofList name)).map fun anchor => (anchor, after)
            | _ => none
          else some (.boundary, '\x7b' :: rest)
  | text => some (.boundary, text)

theorem readBoundary?_length {verbose : Bool} {text after : List Char} {a : Anchor}
    (h : readBoundary? verbose text = some (a, after)) : after.length ≤ text.length := by
  unfold readBoundary? at h
  split at h
  next rest =>
    have hskip := skip_length verbose rest
    simp only at h
    split at h
    next => simp at h
    next c body hbody =>
      split at h
      next =>
        split at h
        next name after' hcollect =>
          have hlength := collect_length verbose (fun c => c.isAlpha || c == '-') (c :: body)
          rw [hcollect] at hlength
          rw [hbody] at hskip
          obtain ⟨anchor, -, heq⟩ := Option.map_eq_some_iff.mp h
          simp only [Prod.mk.injEq] at heq
          obtain ⟨-, rfl⟩ := heq
          simp only [List.length_cons] at *
          omega
        next => simp at h
      next => simp_all
  next => simp_all

/-- What an escape stands for. -/
inductive Primitive where
  | literal (l : Literal)
  | anchor (a : Anchor)
  | short (name : ShortClass) (negated : Bool)
  | property (name : PropertyName) (negated : Bool)

/-- Escapes of one character. Of the basic letters and digits only some may follow a backslash;
other basic characters stand for themselves. -/
def simpleEscape? (c : Char) : Option Primitive :=
  match c with
  | 'd' => some (.short .digit false)
  | 'D' => some (.short .digit true)
  | 's' => some (.short .blank false)
  | 'S' => some (.short .blank true)
  | 'w' => some (.short .word false)
  | 'W' => some (.short .word true)
  | 'a' => some (.literal ⟨'\x07', false⟩)
  | 'f' => some (.literal ⟨'\x0c', false⟩)
  | 't' => some (.literal ⟨'\t', false⟩)
  | 'n' => some (.literal ⟨'\n', false⟩)
  | 'r' => some (.literal ⟨'\r', false⟩)
  | 'v' => some (.literal ⟨'\x0b', false⟩)
  | 'A' => some (.anchor .startText)
  | 'z' => some (.anchor .endText)
  | 'B' => some (.anchor .notBoundary)
  | '<' => some (.anchor .startWord)
  | '>' => some (.anchor .endWord)
  | c => if c.toNat < 128 && !c.isAlphanum then some (.literal ⟨c, false⟩) else none

/-- Reads an escape after its backslash. -/
def readEscape? (verbose : Bool) : List Char → Option (Primitive × List Char)
  | [] => none
  | c :: rest =>
      match c with
      | 'x' => (readHex? verbose 2 rest).map fun (l, after) => (.literal l, after)
      | 'u' => (readHex? verbose 4 rest).map fun (l, after) => (.literal l, after)
      | 'U' => (readHex? verbose 8 rest).map fun (l, after) => (.literal l, after)
      | 'p' => (readProperty? verbose rest).map fun (p, after) => (.property p false, after)
      | 'P' => (readProperty? verbose rest).map fun (p, after) => (.property p true, after)
      | 'b' => (readBoundary? verbose rest).map fun (a, after) => (.anchor a, after)
      | c => (simpleEscape? c).map fun p => (p, rest)

theorem readEscape?_length {verbose : Bool} {text after : List Char} {p : Primitive}
    (h : readEscape? verbose text = some (p, after)) : after.length < text.length := by
  unfold readEscape? at h
  split at h
  next => simp at h
  next c rest =>
    split at h <;> obtain ⟨x, hread, heq⟩ := Option.map_eq_some_iff.mp h <;>
      simp only [Prod.mk.injEq] at heq <;> obtain ⟨-, rfl⟩ := heq
    case h_4 => exact Nat.lt_succ_of_le (readProperty?_length hread)
    case h_5 => exact Nat.lt_succ_of_le (readProperty?_length hread)
    case h_6 => exact Nat.lt_succ_of_le (readBoundary?_length hread)
    case h_7 => exact Nat.lt_succ_self _
    all_goals exact Nat.lt_succ_of_le (readHex?_length hread)

end ArchiveSearch.Regex
