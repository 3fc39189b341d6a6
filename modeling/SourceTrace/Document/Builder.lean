import SourceTrace.Document.Basic

/-!
# Building documents

A builder collects segments one by one. Sources and names are registered by their text: a text gets
a number when it first comes and keeps it, so that the finished document lists every text once, in
the order of first use.
-/
namespace SourceTrace

/-- A document under construction. -/
structure Builder where
  file : Option String
  names : List String
  sources : List String
  /-- The segments, in the order they were added. -/
  segments : List Segment
  /-- The contents of the first sources; the other sources have none. -/
  contents : List (Option String)
  baseDir : Option Path
  deriving DecidableEq, Repr

/-- The number of a text in a list, which is extended if the text is new. -/
def register (texts : List String) (text : String) : Nat × List String :=
  match texts.idxOf? text with
  | some id => (id, texts)
  | none => (texts.length, texts ++ [text])

namespace Builder

def empty (file : Option String) : Builder :=
  { file, names := [], sources := [], segments := [], contents := [], baseDir := none }

def setBaseDir (b : Builder) (dir : Option Path) : Builder := { b with baseDir := dir }

def addSource (b : Builder) (source : String) : Nat × Builder :=
  let (id, sources) := register b.sources source
  (id, { b with sources })

def addName (b : Builder) (name : String) : Nat × Builder :=
  let (id, names) := register b.names name
  (id, { b with names })

def source? (b : Builder) (id : Nat) : Option String := b.sources[id]?

def content? (b : Builder) (id : Nat) : Option String := (b.contents[id]?).join

/-- Sets the content of a registered source; `none` if there is no such source. -/
def setContent? (b : Builder) (id : Nat) (content : Option String) : Option Builder :=
  if id < b.sources.length then
    let padded := Document.padContents b.sources.length b.contents
    some { b with contents := padded.set id content }
  else none

def addSegment (b : Builder) (segment : Segment) : Builder :=
  { b with segments := b.segments ++ [segment] }

def addUnmapped (b : Builder) (line column : Nat) : Segment × Builder :=
  let segment : Segment :=
    { line, column, sourceLine := 0, sourceColumn := 0, source := none, name := none }
  (segment, b.addSegment segment)

/-- Adds a segment with the texts of its source and name. A segment without a source has no name
either. -/
def add (b : Builder) (line column sourceLine sourceColumn : Nat) (source name : Option String) :
    Segment × Builder :=
  match source with
  | none =>
    let segment : Segment :=
      { line, column, sourceLine, sourceColumn, source := none, name := none }
    (segment, b.addSegment segment)
  | some source =>
    let (sourceId, b) := b.addSource source
    let (nameId, b) :=
      match name with
      | some name => let (id, b) := b.addName name; (some id, b)
      | none => (none, b)
    let segment : Segment :=
      { line, column, sourceLine, sourceColumn, source := some sourceId, name := nameId }
    (segment, b.addSegment segment)

/-- Sets the content of a source that has none yet. -/
def offerContent (b : Builder) (id : Nat) (content : Option String) : Builder :=
  match content, b.content? id with
  | some text, none => (b.setContent? id (some text)).getD b
  | _, _ => b

/-- The finished document. It carries contents if a source has one. -/
def finish (b : Builder) : Document :=
  let contents :=
    if b.contents.any Option.isSome then
      some (Document.padContents b.sources.length b.contents)
    else none
  (Document.ofParts b.file b.segments b.names b.sources contents).setBaseDir b.baseDir

end Builder

end SourceTrace
