import SourceTrace.Document.Basic
import SourceTrace.FileTree
import SourceTrace.Source

/-!
# The text of sources

The text of a source is looked for in three places: in the document itself, in the file that the
source names, and among the texts that were found for the same source in an earlier layer of a chain
of builds. What was once read from a file, or was once not there, is remembered.
-/
namespace SourceTrace

inductive ContentOrigin where
  | embedded
  | file
  | backfill
  deriving DecidableEq, Repr

def ContentOrigin.text : ContentOrigin → String
  | .embedded => "Embedded"
  | .file => "File"
  | .backfill => "Backfill"

/-- The texts found so far, by the key of the source and by the path of the file. -/
structure ContentStore where
  /-- Texts from earlier layers, each under the key of its source. -/
  backfill : List (String × String)
  /-- Files that were asked for, with their texts if they could be read. -/
  files : List (String × Option String)
  deriving DecidableEq, Repr

namespace ContentStore

def empty : ContentStore := ⟨[], []⟩

/-- Keeps a text of an earlier layer. The first one for a source stays. -/
def record (store : ContentStore) (base : Option Path) (source text : String) : ContentStore :=
  let key := Source.key base source
  match List.lookup key store.backfill with
  | some _ => store
  | none => { store with backfill := store.backfill ++ [(key, text)] }

/-- The text of an earlier layer for a source. -/
def backfill? (store : ContentStore) (base : Option Path) (source : String) : Option String :=
  List.lookup (Source.key base source) store.backfill

/-- The number of sources with a text of an earlier layer. -/
def backfillCount (store : ContentStore) : Nat := store.backfill.length

def readFile (tree : FileTree) (base : Option Path) (source : String) (store : ContentStore) :
    Option String × ContentStore :=
  match Source.resolve? base source with
  | none => (none, store)
  | some path =>
    match List.lookup path.text store.files with
    | some known => (known, store)
    | none =>
      let text := (tree.readText path).toOption
      (text, { store with files := (path.text, text) :: store.files })

/-- The text of a source of a document, and where it was found. -/
def resolve (tree : FileTree) (doc : Document) (id : Nat) (store : ContentStore) :
    Except Error (String × ContentOrigin) × ContentStore :=
  match doc.source? id with
  | none => (.error (.badSourceReference id), store)
  | some source =>
    match doc.content? id with
    | some text => (.ok (text, .embedded), store)
    | none =>
      match store.readFile tree doc.baseDir source with
      | (some text, store) => (.ok (text, .file), store)
      | (none, store) =>
        match store.backfill? doc.baseDir source with
        | some text => (.ok (text, .backfill), store)
        | none => (.error (.missingContent source), store)

end ContentStore

end SourceTrace
