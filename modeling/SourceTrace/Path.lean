import SourceTrace.Text.Basic

/-!
# File paths

A path is a text in which slashes divide the components. Its text is kept as it was given; the
components are what the text means: repeated slashes and inner dots say nothing, a leading slash is
the root, and a dot counts only as the very first component of a relative path.

A name that is not UTF-8 has no text. Where bytes name a path, as in a file URL, the faulty ones
become U+FFFD, so that names which differ in such bytes alone are the same path.
-/
namespace SourceTrace

/-- A file path, kept as its text. -/
structure Path where
  text : String
  deriving DecidableEq, Repr, Inhabited

namespace Path

inductive Component where
  | root
  | here
  | up
  | name (text : String)
  deriving DecidableEq, Repr

/-- The text between the slashes. -/
def pieces (path : Path) : List String :=
  (Text.split (· == '/') path.text.toList).map String.ofList

def isAbsolute (path : Path) : Bool := path.text.toList.head? == some '/'

/-- The component that a piece behind the first slash stands for, if any. -/
def inner? (piece : String) : Option Component :=
  if piece == "" || piece == "." then none
  else if piece == ".." then some .up
  else some (.name piece)

def components (path : Path) : List Component :=
  match path.pieces with
  | [] => []
  | first :: rest =>
    let lead :=
      if path.isAbsolute then [.root]
      else if first == "." then [.here]
      else (inner? first).toList
    lead ++ rest.filterMap inner?

def Component.text : Component → String
  | .root => "/"
  | .here => "."
  | .up => ".."
  | .name text => text

/-- Whether two paths have the same components. -/
def same (left right : Path) : Bool := left.components == right.components

/-- The path of `next` seen from `base`: an absolute `next` replaces the base. -/
def join (base next : Path) : Path :=
  if next.isAbsolute then next
  else if base.text == "" || base.text.toList.getLast? == some '/' then ⟨base.text ++ next.text⟩
  else ⟨base.text ++ "/" ++ next.text⟩

instance : HDiv Path String Path := ⟨fun base next => base.join ⟨next⟩⟩

/-- Drops pieces without meaning from the end. -/
def trimPieces (pieces : List String) : List String :=
  (pieces.reverse.dropWhile fun piece => piece == "" || piece == ".").reverse

/-- The path without its last component. The root and the empty path have no parent. -/
def parent? (path : Path) : Option Path :=
  match path.pieces with
  | [] => none
  | first :: rest =>
    let kept := trimPieces rest
    if kept.isEmpty then
      if path.isAbsolute || first == "" then none else some ⟨""⟩
    else
      let above := trimPieces kept.dropLast
      if path.isAbsolute && above.isEmpty then some ⟨"/"⟩
      else some ⟨Text.join "/" (first :: above)⟩

/-- The name of the last component, unless the path ends in the root, a dot or two dots. -/
def fileName? (path : Path) : Option String :=
  match path.components.getLast? with
  | some (.name text) => some text
  | _ => none

/-- The part of the file name behind its last dot. A dot at the very start does not count. -/
def extension? (path : Path) : Option String := do
  let name ← path.fileName?
  let backwards := name.toList.reverse
  let tail := backwards.takeWhile (· != '.')
  let stem := backwards.drop (tail.length + 1)
  if stem.isEmpty then none else some (String.ofList tail.reverse)

/-- The path with its file name replaced. -/
def withFileName (path : Path) (name : String) : Path :=
  match path.fileName?, path.parent? with
  | some _, some dir => dir / name
  | _, _ => path / name

/-- One component onto a normal path: a dot says nothing, two dots take the last component back if
there is one to take, and anything else is joined. -/
def advance (path : Path) : Component → Path
  | .here => path
  | .up =>
    match path.parent? with
    | some dir => dir
    | none => path / ".."
  | component => path / component.text

/-- The path without dots and without two dots that have a component to take back. The disk is not
consulted. -/
def normalize (path : Path) : Path := path.components.foldl advance ⟨""⟩

/-- What is left of a path below a directory whose components it starts with. -/
def below? (path dir : Path) : Option Path :=
  let outer := dir.components
  let inner := path.components
  if outer.isPrefixOf inner then
    some ⟨Text.join "/" ((inner.drop outer.length).map Component.text)⟩
  else none

/-- Whether a path ends with all components of another one. -/
def endsWith (path tail : Path) : Bool := tail.components.isSuffixOf path.components

end Path

end SourceTrace
