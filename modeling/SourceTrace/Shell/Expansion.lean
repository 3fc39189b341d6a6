import SourceTrace.Shell.Arithmetic
import SourceTrace.Shell.Machine

/-!
# Expansion of words

Parameters, results of arithmetic and the output of scripts take the place of the pieces that name
them. What comes from an unquoted piece is then cut at separators, which are blanks unless a
variable says otherwise, and a field with an unquoted star, question mark or bracket becomes the
paths it matches.
-/
namespace SourceTrace.Shell

/-- How the output of a script is found. -/
abbrev Capture := List Char → Running String

/-- The values of a parameter: one, none, or all arguments. -/
def parameter (name : String) : Running (List String) := do
  let machine ← get
  match name with
  | "@" | "*" => return machine.arguments
  | "#" => return [toString machine.arguments.length]
  | "?" => return [toString machine.status]
  | "$" => return [toString machine.process]
  | "!" => return (machine.jobs.head?).toList.map fun job => toString job.number
  | "-" => return [String.ofList machine.options]
  | "0" => return [machine.name]
  | _ =>
    match name.toNat? with
    | some number => return (machine.arguments[number - 1]?).toList
    | none => return (List.lookup name machine.bindings).toList

/-- The fields found so far and the one that is being read, if one is. -/
structure Fields where
  closed : List (List Glyph)
  current : Option (List Glyph)

namespace Fields

def none : Fields := ⟨[], Option.none⟩

/-- Ends the current field. -/
def close (fields : Fields) : Fields := ⟨fields.closed ++ fields.current.toList, Option.none⟩

/-- Adds glyphs to the current field, which is there from then on. -/
def add (fields : Fields) (glyphs : List Glyph) : Fields :=
  { fields with current := some (fields.current.getD [] ++ glyphs) }

def addQuoted (fields : Fields) (text : List Char) : Fields :=
  fields.add (text.map fun c => ⟨c, true⟩)

/-- Adds an unquoted text, cut at separators. A separator that is no blank also ends an empty
field. -/
def addSplit (separators : List Char) (fields : Fields) (text : List Char) : Fields :=
  text.foldl (fun fields c =>
    if !separators.contains c then fields.add [⟨c, false⟩]
    else if c = ' ' || c = '\t' || c = '\n' then fields.close
    else (fields.add []).close) fields

/-- Adds quoted texts as fields of their own. -/
def addEach (fields : Fields) (texts : List String) : Fields :=
  match texts with
  | [] => fields
  | first :: rest =>
    rest.foldl (fun fields text => fields.close.addQuoted text.toList)
      (fields.addQuoted first.toList)

def toList (fields : Fields) : List (List Glyph) := fields.close.closed

end Fields

def glyphText (glyphs : List Glyph) : List Char := glyphs.map Glyph.char

/-- The characters that unquoted values are cut at. -/
def separators : Running (List Char) := do
  match List.lookup "IFS" (← get).bindings with
  | some text => return text.toList
  | none => return [' ', '\t', '\n']

/-- Adds a value to the fields. -/
def addValue (isQuoted splits : Bool) (fields : Fields) (text : List Char) : Running Fields := do
  if isQuoted then return fields.addQuoted text
  else if splits then return fields.addSplit (← separators) text
  else if text.isEmpty then return fields
  else return fields.add (text.map fun c => ⟨c, false⟩)

/-- The text that all values of a parameter make together. The first separator stands between
them. -/
def joined (name : String) (isQuoted : Bool) (values : List String) : Running (List Char) := do
  let separators ← separators
  let between :=
    if name == "*" && isQuoted then
      match separators with
      | c :: _ => String.ofList [c]
      | [] => ""
    else " "
  return (Text.join between values).toList

/-- The value of an arithmetic expression as text. A faulty one ends the script. -/
def calculate (text : String) : Running (List Char) := do
  let machine ← get
  match (Arithmetic.parse? text).bind (Arithmetic.evaluate machine.bindings) with
  | some (value, bindings) =>
    set { machine with bindings }
    return (toString value).toList
  | none => Running.exit 2

mutual
/-- Adds the expansion of pieces to the fields. With `splits`, unquoted values are cut. -/
def expandPieces (capture : Capture) (splits : Bool) (fields : Fields) :
    List Piece → Running Fields
  | [] => pure fields
  | piece :: rest => do
    let fields ← expandPiece capture splits fields piece
    expandPieces capture splits fields rest

def expandPiece (capture : Capture) (splits : Bool) (fields : Fields) : Piece → Running Fields
  | .plain c => pure (fields.add [⟨c, false⟩])
  | .quoted text => pure (fields.addQuoted text)
  | .output isQuoted script => do
    let text ← capture script
    addValue isQuoted splits fields text.toList
  | .number isQuoted expression => do
    let other ← expandPieces capture false Fields.none expression
    let text ← calculate (String.ofList (glyphText (other.current.getD [])))
    addValue isQuoted splits fields text
  | .value isQuoted name edit operand => do
    let values ← parameter name
    let text ← joined name isQuoted values
    let isMissing (orEmpty : Bool) : Bool := values.isEmpty || (orEmpty && text.isEmpty)
    let whole : Running (List Glyph) := do
      let other ← expandPieces capture false Fields.none operand
      return other.current.getD []
    let other : Running Fields := do
      if isQuoted then return fields.addQuoted (glyphText (← whole))
      else expandPieces capture splits fields operand
    let isList := name == "@" || name == "*"
    match edit with
    | .keep =>
      if values.isEmpty && !isList && (← get).options.contains 'u' then Running.exit 2
      else if isQuoted && splits && name == "@" then return fields.addEach values
      else if values.isEmpty && !isQuoted then return fields
      else if !isQuoted && splits && isList then
        let separators ← separators
        match values with
        | [] => return fields
        | first :: rest =>
          return rest.foldl (fun fields text => fields.close.addSplit separators text.toList)
            (fields.addSplit separators first.toList)
      else addValue isQuoted splits fields text
    | .count =>
      let size := (Text.Utf8.encode text).length
      addValue isQuoted splits fields (toString size).toList
    | .instead orEmpty =>
      if isMissing orEmpty then other else addValue isQuoted splits fields text
    | .assign orEmpty =>
      if isMissing orEmpty then
        let value := glyphText (← whole)
        Running.setVariable name (String.ofList value)
        addValue isQuoted splits fields value
      else addValue isQuoted splits fields text
    | .require orEmpty =>
      if isMissing orEmpty then Running.exit 2 else addValue isQuoted splits fields text
    | .whenGiven orEmpty =>
      if isMissing orEmpty then addValue isQuoted splits fields [] else other
    | .dropStart longest =>
      let pattern := Pattern.ofGlyphs (← whole)
      addValue isQuoted splits fields (Pattern.dropStart longest pattern text)
    | .dropEnd longest =>
      let pattern := Pattern.ofGlyphs (← whole)
      addValue isQuoted splits fields (Pattern.dropEnd longest pattern text)
end

/-- A word as one field that is not cut. -/
def expandWhole (capture : Capture) (word : List Piece) : Running (List Glyph) := do
  let fields ← expandPieces capture false Fields.none word
  return fields.current.getD []

def expandText (capture : Capture) (word : List Piece) : Running String := do
  return String.ofList (glyphText (← expandWhole capture word))

def glyphPieces : List Glyph → List (List Glyph)
  | [] => [[]]
  | glyph :: rest =>
    if glyph.char = '/' then [] :: glyphPieces rest
    else
      match glyphPieces rest with
      | [] => [[glyph]]
      | piece :: pieces => (glyph :: piece) :: pieces

/-- The names in a directory that a pattern matches, in ascending order. A name that starts with a
dot is matched only by a dot. -/
def matchingNames (files : FileTree) (dir : Path) (piece : List Glyph) : List String :=
  let pattern := Pattern.ofGlyphs piece
  let startsWithDot := (piece.head?).any fun glyph => glyph.char = '.'
  let names := ((files.list dir).toOption.getD []).filter fun name =>
    Pattern.covers pattern name.toList && (startsWithDot || name.toList.head? != some '.')
  Sorting.sort Sorting.textLe names

/-- The paths that the pieces of a field match behind what stands in front of them. -/
def matchingPaths (files : FileTree) (directory : Path) (front : String) :
    List (List Glyph) → List String
  | [] => [front]
  | piece :: rest =>
    let join (name : String) := front ++ if rest.isEmpty then name else name ++ "/"
    if Pattern.isOpen piece then
      let dir := if front == "" then directory else directory / front
      (matchingNames files dir piece).flatMap fun name =>
        matchingPaths files directory (join name) rest
    else matchingPaths files directory (join (String.ofList (glyphText piece))) rest

/-- The texts that a field stands for: the paths it matches, or its own text if it is no pattern or
matches nothing. -/
def matchFiles (field : List Glyph) : Running (List String) := do
  let text := String.ofList (glyphText field)
  let machine ← get
  if !Pattern.isOpen field || machine.options.contains 'f' then return [text]
  let paths := matchingPaths machine.files machine.directory "" (glyphPieces field)
  let found := paths.filter fun path =>
    (machine.files.find (machine.directory / path)).toOption.isSome
  return if found.isEmpty then [text] else found

def expandWords (capture : Capture) : List (List Piece) → Running (List String)
  | [] => pure []
  | word :: rest => do
    let fields ← expandPieces capture true Fields.none word
    let texts ← fields.toList.mapM matchFiles
    let more ← expandWords capture rest
    return texts.flatten ++ more

end SourceTrace.Shell
