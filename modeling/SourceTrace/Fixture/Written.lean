import SourceTrace.FileAction
import SourceTrace.Fixture.Basic

/-!
# Fixtures on disk

The files of a fixture as they were written, and which of them a source of a document is. A source
that resolves to the place of a file is that file. Any other source is the first file whose name it
is or ends with, so that texts from standard input and invented paths are recognised too.
-/
namespace SourceTrace

structure FixtureFile where
  name : String
  path : Path
  text : String
  deriving DecidableEq, Repr

structure WrittenFixture where
  files : List FixtureFile
  deriving DecidableEq, Repr

def Fixture.writeTo (fixture : Fixture) (dir : Path) (ending : LineEnding) :
    FileAction WrittenFixture := do
  let files ← fixture.files.mapM fun (name, text) => do
    let path := dir / name
    if let some parent := path.parent? then FileAction.createAll parent
    let text := ending.apply text
    FileAction.writeText path text
    return { name, path := path.normalize, text : FixtureFile }
  return ⟨files⟩

namespace WrittenFixture

def get? (written : WrittenFixture) (name : String) : Option FixtureFile :=
  written.files.find? (·.name == name)

/-- Whether a source with plain slashes is a name or ends with it behind a slash. -/
def endsWithName (source : List Char) (name : String) : Bool :=
  source == name.toList || (Text.before? ('/' :: name.toList) source).isSome

/-- The file that a source of a document in directory `base` is. -/
def match? (written : WrittenFixture) (base : Option Path) (source : String) :
    Option FixtureFile :=
  let byPath := (Source.resolve? base source).bind fun path =>
    written.files.find? (·.path.same path)
  let plain := source.toList.map fun c => if c = '\\' then '/' else c
  byPath.or (written.files.find? fun file => endsWithName plain file.name)

/-- The number of the first source of a document that is the file of a name. -/
def sourceId? (written : WrittenFixture) (doc : Document) (name : String) : Option Nat :=
  doc.sources.findIdx? fun source => (written.match? doc.baseDir source).any (·.name == name)

end WrittenFixture

end SourceTrace
