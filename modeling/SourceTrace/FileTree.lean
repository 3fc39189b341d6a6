import SourceTrace.Error
import SourceTrace.Sorting

/-!
# Files and directories

A file system as a program sees it that has a current directory. Relative paths are followed from
there and absolute ones from the root, step by step as an operating system does it: a missing
directory cannot be stepped out of again, a file has nothing below it, and above the root is the
root.
-/
namespace SourceTrace

inductive Node where
  | file (bytes : List UInt8)
  | directory
  deriving DecidableEq, Repr

/-- Where a node is: the names from the root down. -/
abbrev Location := List String

/-- The current directory and all that was put anywhere. The current directory and those above it
are always there, so they need no entries. -/
structure FileTree where
  current : Location
  entries : List (Location × Node)
  deriving DecidableEq, Repr

namespace FileTree

/-- An empty current directory among the temporary ones. -/
def empty : FileTree := ⟨["tmp", "files"], []⟩

def node? (tree : FileTree) (location : Location) : Option Node :=
  if location.isPrefixOf tree.current then some .directory else List.lookup location tree.entries

/-- Everything that is there, the directories without entries first. -/
def nodes (tree : FileTree) : List (Location × Node) :=
  ((List.range (tree.current.length + 1)).map fun depth =>
    (tree.current.take depth, Node.directory)) ++ tree.entries

def expectDirectory (tree : FileTree) (location : Location) : Except FileError Unit :=
  match tree.node? location with
  | some .directory => .ok ()
  | some (.file _) => .error .notADirectory
  | none => .error .notFound

/-- Where a piece of a path leads from a directory. -/
def step (location : Location) (piece : String) : Location :=
  if piece == "" || piece == "." then location
  else if piece == ".." then location.dropLast
  else location ++ [piece]

/-- Follows the pieces of a path from a location. Every piece is looked up in a directory, so only
the last one may be missing. -/
def walk (tree : FileTree) (location : Location) : List String → Except FileError Location
  | [] => .ok location
  | piece :: rest => do
    tree.expectDirectory location
    tree.walk (step location piece) rest

/-- Where the first piece of a path is looked up. -/
def start (tree : FileTree) (path : Path) : Location := if path.isAbsolute then [] else tree.current

/-- The location of a path. The empty path is nowhere. -/
def locate (tree : FileTree) (path : Path) : Except FileError Location :=
  if path.text == "" then .error .notFound else tree.walk (tree.start path) path.pieces

def find (tree : FileTree) (path : Path) : Except FileError Node := do
  let location ← tree.locate path
  match tree.node? location with
  | some node => .ok node
  | none => .error .notFound

def isDirectory (tree : FileTree) (path : Path) : Bool :=
  match tree.find path with
  | .ok .directory => true
  | _ => false

def isFile (tree : FileTree) (path : Path) : Bool :=
  match tree.find path with
  | .ok (.file _) => true
  | _ => false

def read (tree : FileTree) (path : Path) : Except FileError (List UInt8) := do
  match ← tree.find path with
  | .file bytes => .ok bytes
  | .directory => .error .isADirectory

def readText (tree : FileTree) (path : Path) : Except FileError String := do
  match Text.Utf8.decode? (← tree.read path) with
  | some text => .ok text
  | none => .error .notText

def putEntry (location : Location) (node : Node) :
    List (Location × Node) → List (Location × Node)
  | [] => [(location, node)]
  | (known, old) :: rest =>
    if known = location then (location, node) :: rest
    else (known, old) :: putEntry location node rest

def put (tree : FileTree) (location : Location) (node : Node) : FileTree :=
  { tree with entries := putEntry location node tree.entries }

/-- The path without the slashes at its end. One is kept of a path that is nothing else. -/
def withoutEndSlashes (path : Path) : Path :=
  let kept := (path.text.toList.reverse.dropWhile (· == '/')).reverse
  if kept.isEmpty && path.isAbsolute then ⟨"/"⟩ else ⟨String.ofList kept⟩

/-- The tree with a file written. Its directory must be there, and a path that ends in a slash is
never a file. -/
def write (tree : FileTree) (path : Path) (bytes : List UInt8) : Except FileError FileTree := do
  let location ← tree.locate (withoutEndSlashes path)
  match tree.node? location with
  | some .directory => .error .isADirectory
  | some (.file _) =>
    if withoutEndSlashes path = path then .ok (tree.put location (.file bytes))
    else .error .notADirectory
  | none =>
    if withoutEndSlashes path = path then .ok (tree.put location (.file bytes))
    else .error .isADirectory

def writeText (tree : FileTree) (path : Path) (text : String) : Except FileError FileTree :=
  tree.write path (Text.Utf8.bytes text)

def createDirectory (tree : FileTree) (path : Path) : Except FileError FileTree := do
  let location ← tree.locate (withoutEndSlashes path)
  match tree.node? location with
  | some _ => .error .alreadyExists
  | none => .ok (tree.put location .directory)

/-- Creates a directory and, as far as `fuel` goes, the missing ones above it. A directory that is
there already is fine. -/
def createAllFrom (tree : FileTree) : Nat → Path → Except FileError FileTree
  | 0, _ => .error .notFound
  | fuel + 1, path =>
    if path.text == "" then .ok tree
    else
      match tree.createDirectory path with
      | .ok tree => .ok tree
      | .error .notFound =>
        match path.parent? with
        | none => .error .notFound
        | some parent => do
          let tree ← tree.createAllFrom fuel parent
          match tree.createDirectory path with
          | .ok tree => .ok tree
          | .error cause => if tree.isDirectory path then .ok tree else .error cause
      | .error cause => if tree.isDirectory path then .ok tree else .error cause

def createAll (tree : FileTree) (path : Path) : Except FileError FileTree :=
  tree.createAllFrom (path.pieces.length + 1) path

def list (tree : FileTree) (path : Path) : Except FileError (List String) := do
  let location ← tree.locate path
  tree.expectDirectory location
  .ok <| tree.nodes.filterMap fun (known, _) =>
    match known.getLast? with
    | some name => if known.dropLast = location then some name else none
    | none => none

/-- The tree without a directory and everything below it, except for what is always there. -/
def removeAll (tree : FileTree) (path : Path) : Except FileError FileTree := do
  let location ← tree.locate path
  tree.expectDirectory location
  .ok { tree with entries := tree.entries.filter fun (known, _) => !location.isPrefixOf known }

def removeFile (tree : FileTree) (path : Path) : Except FileError FileTree := do
  let location ← tree.locate path
  match tree.node? location with
  | some (.file _) =>
    .ok { tree with entries := tree.entries.filter fun (known, _) => known ≠ location }
  | some .directory => .error .isADirectory
  | none => .error .notFound

/-- The paths of all files below the current directory in ascending order. -/
def files (tree : FileTree) : List String :=
  let paths := tree.entries.filterMap fun (location, node) =>
    match node with
    | .file _ =>
      if tree.current.isPrefixOf location then
        some (Text.join "/" (location.drop tree.current.length))
      else none
    | .directory => none
  Sorting.sort Sorting.textLe paths

/-- The tree with a file and all directories above it. -/
def place (tree : FileTree) (path : Path) (bytes : List UInt8) : Except FileError FileTree := do
  let tree ← tree.createAll (path.parent?.getD ⟨""⟩)
  tree.write path bytes

end FileTree

end SourceTrace
