import SourceTrace.FileTree

/-!
# Actions on files

An action reads and changes files and may fail. What it changed before it failed stays changed.
-/
namespace SourceTrace

abbrev FileAction (α : Type) := ExceptT Error (StateM FileTree) α

namespace FileAction

def query {α : Type} (ask : FileTree → Except Error α) : FileAction α :=
  ExceptT.mk fun tree => (ask tree, tree)

/-- Changes the files, or fails and leaves them as they are. -/
def change (step : FileTree → Except FileError FileTree) : FileAction Unit :=
  ExceptT.mk fun tree =>
    match step tree with
    | .ok changed => (.ok (), changed)
    | .error cause => (.error (.file cause), tree)

def readText (path : Path) : FileAction String :=
  query fun tree => (tree.readText path).mapError Error.file

def writeText (path : Path) (text : String) : FileAction Unit :=
  change fun tree => tree.writeText path text

def createAll (path : Path) : FileAction Unit := change fun tree => tree.createAll path

end FileAction

end SourceTrace
