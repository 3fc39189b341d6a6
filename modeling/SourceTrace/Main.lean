import SourceTrace.CommandLine.Run
import SourceTrace.Shell.Run

/-!
# The program

Reads the files below the current directory and below the directories that the arguments name, does
what the arguments ask for, brings the files on disk up to date, and prints.
-/
namespace SourceTrace.Disk

/-- Where a location is on disk. -/
def place (location : Location) := show IO _ from do
  return location.foldl (· / ·) ((← IO.currentDir) / "/")

/-- Everything below a directory on disk. -/
partial def below (location : Location) : IO (List (Location × Node)) := do
  let mut found := #[]
  for entry in ← (← place location).readDir do
    let inner := location ++ [entry.fileName]
    if ← entry.path.isDir then
      found := found.push (inner, Node.directory) ++ (← below inner).toArray
    else
      let bytes ← IO.FS.readBinFile entry.path
      found := found.push (inner, Node.file bytes.toList)
  return found.toList

/-- A directory on disk with those above it and everything below it, as far as they are there. -/
def entries (location : Location) : IO (List (Location × Node)) := do
  let mut found := #[]
  for depth in List.range (location.length + 1) do
    if ← (← place (location.take depth)).isDir then
      found := found.push (location.take depth, Node.directory)
  if ← (← place location).isDir then found := found ++ (← below location).toArray
  return found.toList

def put (location : Location) (node : Node) : IO Unit := do
  let here ← place location
  match node with
  | .file bytes => IO.FS.writeBinFile here ⟨bytes.toArray⟩
  | .directory => IO.FS.createDirAll here

def remove (location : Location) (node : Node) : IO Unit := do
  let here ← place location
  match node with
  | .file _ => IO.FS.removeFile here
  | .directory => IO.FS.removeDirAll here

/-- Brings the disk from one tree to another: what is gone is removed from the inside out, and what
is new or other is written from the outside in. -/
def update (before after : FileTree) : IO Unit := do
  for (location, node) in before.entries.reverse do
    if (after.node? location).isNone then remove location node
  for (location, node) in after.entries do
    if before.node? location != some node then put location node

/-- The current directory with what is below it and below other directories. -/
def read (directories : List Path) : IO FileTree := do
  let here : Path := ⟨(← IO.currentDir).toString⟩
  let location (path : Path) : Location := (here.join path).normalize.pieces.filter (· != "")
  let current := location ⟨""⟩
  let all := (current :: directories.map location).eraseDups
  let outermost := all.filter fun inner =>
    !all.any fun outer => outer != inner && outer.isPrefixOf inner
  let found ← outermost.mapM entries
  return ⟨current, found.flatten.filter fun (known, _) => !known.isPrefixOf current⟩

end SourceTrace.Disk

open SourceTrace in
/-- Runs the command line on the current directory. -/
def main (arguments : List String) : IO UInt32 := do
  let before ← Disk.read (CommandLine.directories arguments)
  let result := CommandLine.run Shell.host arguments before
  Disk.update before result.files
  IO.print result.output
  match result.complaint with
  | some complaint => IO.eprintln complaint
  | none => pure ()
  return UInt32.ofNat result.code
