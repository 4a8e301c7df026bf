import ArchiveSearch.Command.Run
import Std.Time.Zoned.Database

/-!
# The program

Collects the files that the program needs, runs it on them, and shows what comes out.
-/

namespace ArchiveSearch

/-- Reads what is at a location, if there is anything. -/
def readNode (l : Location) : IO (Option Node) := do
  let path := (← IO.currentDir) / ("/" ++ "/".intercalate l)
  if ← path.isDir then return some .directory
  try
    let bytes ← IO.FS.readBinFile path
    let changed := (← path.metadata).modified
    let time := Time.ofNanos? (changed.sec * 1000000000 + changed.nsec.toNat)
    return some (.file ⟨bytes, time.getD default⟩)
  catch _ => return none

/-- Adds to a tree what a path leads to, and what it passes on the way. -/
def addPath (t : Tree) (path : Path) : IO Tree := do
  let mut tree := t
  let mut l := t.start path
  for name in path.names do
    l := Path.follow l name
    if let some node ← readNode l then tree := tree.put l node
  return tree

/-- Adds a directory and what it holds to a tree. -/
def addDirectory (t : Tree) (path : Path) : IO Tree := do
  if path.text.isEmpty then return t
  let mut tree ← addPath t path
  if tree.isDirectory path then
    for entry in ← ((← IO.currentDir) / path.text).readDir do
      tree ← addPath tree (path.join entry.fileName)
  return tree

/-- The offset of the local clocks at a time; without rules for them, that of universal time. -/
def readClocks (now : Std.Time.Timestamp) : IO Calendar.Offset := do
  try
    let zone := (← Std.Time.Database.defaultGetLocalZoneRules).timezoneAt now
    return (Calendar.Offset.ofSeconds? zone.offset.second.val).getD .zero
  catch _ => return .zero

/-- The directories that the user has named, and what the local clocks show. -/
def readSurroundings (now : Std.Time.Timestamp) : IO Surroundings := do
  return {
    home := ← IO.getEnv "HOME"
    configHome := ← IO.getEnv "XDG_CONFIG_HOME"
    dataHome := ← IO.getEnv "XDG_DATA_HOME"
    clocks := ← readClocks now }

/-- The files that a task needs. -/
def collectFiles (i : Command.Invocation) (s : Surroundings) : IO Tree := do
  let place : Path := ⟨(← IO.currentDir).toString⟩
  let tree ← addPath { here := place.names.foldl Path.follow [] } place
  match i.configFile s with
  | .error _ => return tree
  | .ok file =>
      let tree ← addPath tree file
      match (i.configuration s tree).bind (·.libraryDirectory s) with
      | .ok directory => addDirectory tree directory
      | .error _ => return tree

end ArchiveSearch

open ArchiveSearch in
def main (args : List String) : IO UInt32 := do
  let started ← IO.monoNanosNow
  let now ← Std.Time.Timestamp.now
  let surroundings ← readSurroundings now
  let library ← IO.getEnv "QUARRY_LIBRARY"
  let tree ← match Command.Invocation.read args library with
    | .ok i => collectFiles i surroundings
    | .error _ => pure {}
  let time := Time.ofNanos? now.toNanosecondsSinceUnixEpoch.val
  let outcome := Command.run args library surroundings tree (time.getD default)
  IO.print outcome.output
  let finished ← IO.monoNanosNow
  IO.eprint (outcome.messageText ((finished - started) / 1000))
  return UInt32.ofNat outcome.code
