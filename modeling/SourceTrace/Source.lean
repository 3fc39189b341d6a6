import SourceTrace.Url

/-!
# Where sources are

A map names its sources by texts that are paths relative to the map's directory, absolute paths or
URLs. This module finds the local file that such a text names, gives sources of different maps a
common key, and renames a source for a map in another directory.
-/
namespace SourceTrace.Source

def isAbsolute (source : String) : Bool :=
  match source.toList with
  | '/' :: _ => true
  | letter :: ':' :: slash :: _ :: _ => letter.isAlpha && (slash == '/' || slash == '\\')
  | _ => false

/-- The file that a plain path names when it is seen from a directory. -/
def resolvePlain? (base : Option Path) (source : String) : Option Path :=
  let path : Path := ⟨source⟩
  if isAbsolute source then some path.normalize
  else base.map fun dir => (dir.join path).normalize

/-- The local file that a source of a map in directory `base` names. -/
def resolve? (base : Option Path) (source : String) : Option Path :=
  if source == "" then none
  else
    match Url.read source with
    | .file path => some path.normalize
    | .foreign => none
    | .plain => resolvePlain? base source

/-- A key that a source has in all maps that refer to it: the file it names, or else its text. -/
def key (base : Option Path) (source : String) : String :=
  match resolve? base source with
  | some path => path.text
  | none => source

/-- The non-empty pieces of a path, with both kinds of slashes. -/
def steps (path : String) : List String :=
  ((Text.split (fun c => c == '/' || c == '\\') path.toList).filter (!·.isEmpty)).map String.ofList

def sharedLength : List String → List String → Nat
  | a :: left, b :: right => if a = b then sharedLength left right + 1 else 0
  | _, _ => 0

/-- The path that leads from the directory of a file to a target. -/
def relative (file target : String) : String :=
  let goal := steps target
  let start := (steps file).dropLast
  let shared := sharedLength goal start
  let ups := String.join (List.replicate (start.length - shared) "../")
  let path := ups ++ Text.join "/" (goal.drop shared)
  if path == "" then "." else path

/-- A source of a map in directory `origin` as a map in directory `target` writes it. Absolute
paths and sources that name no file stay as they are, and so does everything when a directory is
not known. -/
def rebase (source : String) (origin target : Option Path) : String :=
  match origin, target with
  | some originDir, some targetDir =>
    match resolve? (some originDir) source with
    | some path =>
      if isAbsolute source then source else relative (targetDir / "_").text path.text
    | none => source
  | _, _ => source

end SourceTrace.Source
