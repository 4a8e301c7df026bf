import ArchiveSearch.Book.Document
import ArchiveSearch.Storage.Tree

/-!
# Loading and saving books

A library is a directory with a file for every book. The texts of a book may lie in a file of their
own next to it; then they take the place of the texts in the file of the book, unless they are too
large to be read. Whether they are out of date is told by the times of the two files.
-/

namespace ArchiveSearch

/-- What is asked of the files of texts. -/
structure LoadOptions where
  /-- Texts are out of date if they are older than this many seconds and older than their book. -/
  threshold : Option Nat := some 432000
  /-- The nanoseconds of the threshold beyond its whole seconds. -/
  thresholdNanos : Nat := 0
  /-- Larger files of texts are not read. -/
  sizeLimit : Option Nat := none
deriving DecidableEq, Repr

/-- The threshold as a whole, in nanoseconds. -/
def LoadOptions.span? (options : LoadOptions) : Option Nat :=
  options.threshold.map fun seconds => 1000000000 * seconds + options.thresholdNanos

/-- What the names of files of texts end with. -/
def textsSuffix : String := ".fulltext.json"

/-- The path of the file of texts that belongs to the file of a book. -/
def textsPath (p : Path) : Path := p.withFileName (p.stem ++ textsSuffix)

/-- Whether texts of the given age are out of date. -/
def isOutdated (options : LoadOptions) (now book texts : Time) : Bool :=
  match options.span? with
  | none => false
  | some nanos =>
      decide (texts.nanos < book.nanos) &&
        (texts.later? nanos).any fun deadline => decide (deadline.nanos < now.nanos)

/-- Reads a text at a path, and gives the failure of a book if it does not have its form. -/
def readDocument {α : Type} (t : Tree) (p : Path) (ofText? : String → Option α) :
    Except Failure α := do
  let text ← (t.readText p).mapError .file
  match ofText? text with
  | some document => .ok document
  | none => .error (.corruptedBook p.text)

/-- Adds the texts of a file of their own to a book. -/
def loadTexts (t : Tree) (now : Time) (options : LoadOptions) (p : Path) (texts : File)
    (book : Book) : Except Failure Book :=
  if options.sizeLimit.any fun limit => decide (limit < texts.bytes.size) then
    .ok { book with texts := .empty, status := .blocked texts.bytes.size }
  else do
    let read ← readDocument t (textsPath p) Texts.ofText?
    let outdated := (t.file? p).any fun f => isOutdated options now f.modified texts.modified
    return { book with texts := read, status := if outdated then .outdated else .current }

/-- Loads a book with its texts. -/
def loadBook (t : Tree) (now : Time) (options : LoadOptions) (p : Path) : Except Failure Book := do
  let book ← readDocument t p Book.ofText?
  match t.file? (textsPath p) with
  | some texts => loadTexts t now options p texts book
  | none => return { book with status := if book.hasTexts then .current else .missing }

/-- Whether an entry of a directory is the file of a book. -/
def isBookName (name : String) : Bool :=
  (Path.mk name).extension? == some "json" && !textsSuffix.toList.isSuffixOf name.toList

/-- Orders books by their identifiers. -/
def sortBooks (books : List Book) : List Book :=
  books.mergeSort fun a b => decide (a.id ≤ b.id)

/-- Loads the books among some entries of a directory. -/
def loadEntries (t : Tree) (now : Time) (options : LoadOptions) (directory : Path)
    (names : List String) : Except Failure (List Book) := do
  let books ← (names.filter isBookName).mapM fun name =>
    loadBook t now options (directory.join name)
  return sortBooks books

/-- Loads the books of a directory. -/
def loadBooks (t : Tree) (now : Time) (options : LoadOptions) (directory : Path) :
    Except Failure (List Book) :=
  if t.isDirectory directory then loadEntries t now options directory (t.names directory)
  else .error (.libraryNotFound directory.text)

/-- Writes a text to a name in a directory, which is made if need be. -/
def saveText (t : Tree) (now : Time) (directory : Path) (name text : String) :
    Except Failure (Path × Tree) :=
  let p := directory.join name
  (do
    let t ← t.makeDirectory directory
    let t ← t.writeFile p ⟨text.toUTF8, now⟩
    return (p, t)).mapError Failure.file

/-- Saves a book in a file that is named after it. -/
def saveBook (t : Tree) (now : Time) (directory : Path) (b : Book) : Except Failure (Path × Tree) :=
  saveText t now directory (b.id ++ ".json") b.json.indentedText

/-- Saves the texts of a book in a file of their own. -/
def saveTexts (t : Tree) (now : Time) (directory : Path) (b : Book) :
    Except Failure (Path × Tree) :=
  saveText t now directory (b.id ++ textsSuffix) (Texts.json b.texts).compactText

end ArchiveSearch
