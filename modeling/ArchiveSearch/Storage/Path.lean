/-!
# Paths

A path is a text of names with slashes between them. Empty names and the name `.` count for
nothing, except that a path may begin with `.`. The name of a file divides at its last point into
a stem and an extension, unless nothing stands before the point.
-/

namespace ArchiveSearch

/-- A path as it was given. -/
structure Path where
  text : String
deriving DecidableEq, Repr, Inhabited

namespace Path

/-- Divides a text at its slashes. -/
def splitNames : List Char → List (List Char)
  | [] => [[]]
  | c :: rest =>
      if c = '/' then [] :: splitNames rest
      else
        match splitNames rest with
        | name :: names => (c :: name) :: names
        | [] => [[c]]

/-- Names with slashes between them. -/
def joinNames : List (List Char) → List Char
  | [] => []
  | [name] => name
  | name :: rest => name ++ '/' :: joinNames rest

/-- Whether a name counts for nothing. -/
def isIdle (name : List Char) : Bool := name == [] || name == ['.']

/-- Drops the names at the end that count for nothing. -/
def trimNames (names : List (List Char)) : List (List Char) :=
  (names.reverse.dropWhile isIdle).reverse

/-- Divides a path into its beginning, a slash or a point that counts, and its names. -/
def parts (p : Path) : List Char × List (List Char) :=
  match p.text.toList with
  | '/' :: rest => (['/'], splitNames rest)
  | ['.'] => (['.'], [])
  | '.' :: '/' :: rest => (['.'], splitNames ('/' :: rest))
  | text => ([], splitNames text)

def isAbsolute (p : Path) : Bool := p.text.toList.head? == some '/'

/-- The last name, if it names a file. -/
def fileName? (p : Path) : Option (List Char) :=
  match (trimNames p.parts.2).getLast? with
  | some name => if name = ['.', '.'] then none else some name
  | none => none

/-- The path without its last name. -/
def parent (p : Path) : Path :=
  let (start, names) := p.parts
  ⟨String.ofList (start ++ joinNames (trimNames (trimNames names).dropLast))⟩

/-- Divides the name of a file into its stem and its extension. -/
def splitExtension (name : List Char) : List Char × Option (List Char) :=
  match name.reverse.dropWhile (· != '.') with
  | _ :: c :: before => ((c :: before).reverse, some (name.reverse.takeWhile (· != '.')).reverse)
  | _ => (name, none)

/-- The stem of the name of the file, empty if there is none. -/
def stem (p : Path) : String :=
  String.ofList ((p.fileName?.map fun name => (splitExtension name).1).getD [])

/-- The extension of the name of the file. -/
def extension? (p : Path) : Option String :=
  (p.fileName?.bind fun name => (splitExtension name).2).map String.ofList

/-- Goes on by a name; an absolute one stands for itself. -/
def join (p : Path) (name : String) : Path :=
  if name.toList.head? == some '/' || p.text.isEmpty then ⟨name⟩
  else if p.text.toList.getLast? == some '/' then ⟨p.text ++ name⟩
  else ⟨p.text ++ "/" ++ name⟩

/-- The path with another last name. -/
def withFileName (p : Path) (name : String) : Path :=
  if p.fileName?.isSome then p.parent.join name else p.join name

/-- The names of a path, those that count for nothing included. -/
def names (p : Path) : List (List Char) := splitNames p.text.toList

/-- Whether a directory can have an entry of this name. -/
def isName (name : List Char) : Bool :=
  !name.contains '\x00' && (String.ofList name).utf8ByteSize ≤ 255

/-- One step along a path from a place, which is given by the names that lead to it from the root
directory: `..` leads back. -/
def follow (place : List String) (name : List Char) : List String :=
  if isIdle name then place
  else if name = ['.', '.'] then place.dropLast
  else place ++ [String.ofList name]

end Path

end ArchiveSearch
