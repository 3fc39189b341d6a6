import SourceTrace.Artifact
import SourceTrace.Fixture.Flags

/-!
# Fixtures

A fixture is a set of input files with what is to be verified about the output of building them: the
texts to find again, the identifiers that keep their names, the settings to build with, and how the
output is to be built once more.
-/
namespace SourceTrace

/-- The values of every setting that a fixture is built with. -/
structure Matrix where
  minify : List Bool
  lineEndings : List LineEnding
  entryModes : List EntryMode
  bundle : List Bool
  codeSplitting : List Bool
  sourcemap : List MapMode
  deriving DecidableEq, Repr

/-- Everything but code splitting. -/
def Matrix.standard : Matrix :=
  { minify := [false, true], lineEndings := [.lf, .crlf], entryModes := [.file, .stdin],
    bundle := [false, true], codeSplitting := [false], sourcemap := [.linked, .inline] }

/-- An unrelated file that is bundled next to an artifact. -/
structure ExtraFile where
  name : String
  text : String
  deriving DecidableEq, Repr

/-- The file used unless a fixture has its own. -/
def ExtraFile.standard : ExtraFile := ⟨"extra.js", "console.log(\"extra\");\n"⟩

/-- How artifacts are built once more. -/
structure ChainSetup where
  embeddings : List Embedding
  orders : List ChainOrder
  extra : ExtraFile
  deriving DecidableEq, Repr

/-- Every embedding in every order. -/
def ChainSetup.standard : ChainSetup := ⟨Embedding.all, ChainOrder.all, ExtraFile.standard⟩

/-- A text that stands at known places of some of the files. -/
structure Marker where
  text : String
  files : List String
  deriving DecidableEq, Repr

structure Fixture where
  name : String
  kind : Option String
  /-- Names and texts, each name once and in ascending order. -/
  files : List (String × String)
  entries : List String
  markers : List Marker
  /-- What the identifiers start with whose names must survive. -/
  namePrefix : Option String
  matrix : Matrix
  chain : Option ChainSetup
  deriving DecidableEq, Repr

namespace Fixture

/-- What reports call this sort of fixture. -/
def kindText (fixture : Fixture) : String := fixture.kind.getD fixture.name

/-- Whether a fixture can be built with some settings: standard input takes exactly one entry, and
only bundles are split. -/
def allows (fixture : Fixture) (flags : BuildFlags) : Bool :=
  !(flags.entryMode = .stdin && fixture.entries.length != 1) &&
    !(flags.codeSplitting && !flags.bundle)

/-- All settings of the matrix that the fixture can be built with. -/
def permutations (fixture : Fixture) : List BuildFlags :=
  let m := fixture.matrix
  let all := m.minify.flatMap fun minify => m.lineEndings.flatMap fun lineEnding =>
    m.entryModes.flatMap fun entryMode => m.bundle.flatMap fun bundle =>
    m.codeSplitting.flatMap fun codeSplitting => m.sourcemap.map fun sourcemap =>
      { minify, lineEnding, entryMode, bundle, codeSplitting, sourcemap : BuildFlags }
  all.filter fixture.allows

end Fixture

end SourceTrace
