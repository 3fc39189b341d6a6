import SourceTrace.Check.Failure
import SourceTrace.Content
import SourceTrace.Fixture.Written

/-!
# Sources are listed once and their texts are the fixture's

No document may list a source twice, and the text found for a source that is a fixture file must be
the text of that file.
-/
namespace SourceTrace.Check

/-- No source may be listed twice. -/
def uniqueness (doc : Document) : List Failure :=
  doc.duplicateSources.map fun source =>
    (Failure.of .uniqueness "source is listed more than once").observing source

def contentFailure? (file : FixtureFile) (found : Except Error (String × ContentOrigin)) :
    Option Failure :=
  match found with
  | .ok (text, origin) =>
    if text = file.text then none
    else
      some <| (Failure.of .content s!"{file.name} resolves to different text ({origin.text})")
        |>.expecting (Text.Quoted.text file.text)
        |>.observing (Text.Quoted.text text)
  | .error cause =>
    some <| (Failure.of .content s!"{file.name} has no text").observing cause.message

/-- Checks the files of a fixture one by one; the store remembers what was read. -/
def contentsOf (tree : FileTree) (doc : Document) (written : WrittenFixture) :
    List FixtureFile → ContentStore → List Failure × ContentStore
  | [], store => ([], store)
  | file :: rest, store =>
    match written.sourceId? doc file.name with
    | none => contentsOf tree doc written rest store
    | some id =>
      let (found, store) := store.resolve tree doc id
      let (failures, store) := contentsOf tree doc written rest store
      ((contentFailure? file found).toList ++ failures, store)

/-- The text of every fixture source must be that of its file. -/
def contents (tree : FileTree) (doc : Document) (written : WrittenFixture) (store : ContentStore) :
    List Failure × ContentStore :=
  contentsOf tree doc written written.files store

end SourceTrace.Check
