import ArchiveSearch.Failure
import ArchiveSearch.Storage.Path

/-!
# Directories and files

The files that a program sees are a value: a tree of directories with the bytes of every file and
the time at which it was last changed. Entries of a directory come in the order in which they were
made, and nothing may depend on it. Names are texts, so a file whose name is not one, as bytes that
are not UTF-8, has no place here.
-/

namespace ArchiveSearch

/-- A point in time, in nanoseconds. The seconds in it fit 64 bits. -/
structure Time where
  nanos : Int
  inRange : -(1000000000 <<< 63) ≤ nanos ∧ nanos < 1000000000 <<< 63 := by decide
deriving DecidableEq, Repr

namespace Time

instance : Inhabited Time := ⟨{ nanos := 0 }⟩

/-- The time of a number of nanoseconds, if it can be told. -/
def ofNanos? (nanos : Int) : Option Time :=
  if h : -(1000000000 <<< 63) ≤ nanos ∧ nanos < 1000000000 <<< 63 then some ⟨nanos, h⟩ else none

/-- The time some nanoseconds later, if it can be told. -/
def later? (t : Time) (nanos : Nat) : Option Time := ofNanos? (t.nanos + nanos)

end Time

/-- A file: what it holds, and when it was last changed. -/
structure File where
  bytes : ByteArray
  modified : Time

/-- What a name in a directory stands for. -/
inductive Node where
  | directory
  | file (f : File)

/-- The names that lead to a place, from the root directory. -/
abbrev Location := List String

/-- Puts a node at a location, in place of an older one. -/
def putNode (l : Location) (n : Node) : List (Location × Node) → List (Location × Node)
  | [] => [(l, n)]
  | entry :: rest => if entry.1 = l then (l, n) :: rest else entry :: putNode l n rest

/-- The places are the old ones and the new one. -/
theorem mem_places_putNode {l place : Location} {n : Node} {nodes : List (Location × Node)} :
    place ∈ (putNode l n nodes).map (·.1) ↔ place = l ∨ place ∈ nodes.map (·.1) := by
  induction nodes with
  | nil => simp [putNode]
  | cons entry rest ih =>
      unfold putNode
      split
      next heq =>
        subst heq
        simp
      next =>
        rw [List.map_cons, List.mem_cons, ih, List.map_cons, List.mem_cons]
        exact or_left_comm

/-- No place is there twice if none was before. -/
theorem nodup_putNode (l : Location) (n : Node) {nodes : List (Location × Node)}
    (h : (nodes.map (·.1)).Nodup) : ((putNode l n nodes).map (·.1)).Nodup := by
  induction nodes with
  | nil => exact List.nodup_cons.mpr ⟨List.not_mem_nil, List.nodup_nil⟩
  | cons entry rest ih =>
      obtain ⟨hfirst, hrest⟩ := List.nodup_cons.mp h
      unfold putNode
      split
      next heq =>
        subst heq
        exact h
      next hne =>
        refine List.nodup_cons.mpr ⟨?_, ih hrest⟩
        rw [mem_places_putNode]
        rintro (heq | hmem)
        · exact hne heq
        · exact hfirst hmem

/-- Directories and files, each place once, and the directory that the program works in. -/
structure Tree where
  nodes : List (Location × Node) := []
  here : Location := []
  once : (nodes.map (·.1)).Nodup := by decide

namespace Tree

/-- What is found at a location. The root directory is always there. -/
def node? (t : Tree) (l : Location) : Option Node :=
  if l = [] then some .directory else (t.nodes.find? fun entry => entry.1 = l).map (·.2)

/-- Goes on from a location by a name, which only directories allow. -/
def step? (t : Tree) (l : Location) (name : List Char) : Option Location :=
  match t.node? l with
  | some .directory => if Path.isName name then some (Path.follow l name) else none
  | _ => none

/-- Where a path begins. -/
def start (t : Tree) (p : Path) : Location := if p.isAbsolute then [] else t.here

/-- The location of a path, whether anything is there or not. The empty path has none. -/
def locate? (t : Tree) (p : Path) : Option Location :=
  if p.text.isEmpty then none else p.names.foldlM t.step? (t.start p)

/-- What a path leads to. -/
def at? (t : Tree) (p : Path) : Option Node := (t.locate? p).bind t.node?

/-- Whether a path leads to a directory. -/
def isDirectory (t : Tree) (p : Path) : Bool :=
  match t.at? p with
  | some .directory => true
  | _ => false

/-- The file that a path leads to. -/
def file? (t : Tree) (p : Path) : Option File :=
  match t.at? p with
  | some (.file f) => some f
  | _ => none

/-- Reads a file as text. -/
def readText (t : Tree) (p : Path) : Except FileFault String :=
  match t.at? p with
  | some (.file f) =>
      match String.fromUTF8? f.bytes with
      | some text => .ok text
      | none => .error .notText
  | some .directory => .error .isDirectory
  | none => .error .missing

/-- The names of the entries of a directory. -/
def names (t : Tree) (p : Path) : List String :=
  match t.locate? p with
  | none => []
  | some l => t.nodes.filterMap fun (entry, _) =>
      if entry ≠ [] ∧ entry.dropLast = l then entry.getLast? else none

/-- Puts a node at a location, in place of an older one. -/
def put (t : Tree) (l : Location) (n : Node) : Tree where
  nodes := putNode l n t.nodes
  here := t.here
  once := nodup_putNode l n t.once

/-- Makes the directories that names lead through from a location, where they are missing. The last
one is not made if a point stands behind it, since it has to be there for that. A failure does not
tell which ones were made before it. -/
def makeDirectories (t : Tree) (l : Location) : List (List Char) → Except FileFault Tree
  | [] => .ok t
  | name :: rest =>
      let next := Path.follow l name
      if !Path.isName name then .error .missing
      else
        match t.node? next with
        | some .directory => t.makeDirectories next rest
        | some (.file _) => .error .notDirectory
        | none =>
            if rest.all Path.isIdle && rest.contains ['.'] then .error .missing
            else (t.put next .directory).makeDirectories next rest

/-- Makes the directory of a path and those on the way to it; for the empty path nothing is done. -/
def makeDirectory (t : Tree) (p : Path) : Except FileFault Tree :=
  if p.text.isEmpty then .ok t else t.makeDirectories (t.start p) p.names

/-- Writes a file into a directory that is there. -/
def writeFile (t : Tree) (p : Path) (f : File) : Except FileFault Tree :=
  match t.locate? p with
  | none => .error .missing
  | some l =>
      match t.node? l with
      | some .directory => .error .isDirectory
      | _ => .ok (t.put l (.file f))

/-- Removes what a path leads to, with all it holds. -/
def remove? (t : Tree) (p : Path) : Option Tree := do
  let l ← t.locate? p
  let _ ← t.node? l
  return { t with
    nodes := t.nodes.filter fun entry => entry.1.take l.length ≠ l
    once := t.once.sublist (List.filter_sublist.map _) }

end Tree

end ArchiveSearch
