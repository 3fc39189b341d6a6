import SourceTrace.Shell.Regex

/-!
# Searching lines

The program that prints the lines of files in which something is found.
-/
namespace SourceTrace.Shell.Program

def grepOptions : Known where
  flags := "EFGPivcnlLqsohHwxrRaUbzI".toList
  valued := ['e', 'f', 'm', 'A', 'B', 'C']
  words :=
    [("extended-regexp", 'E'), ("fixed-strings", 'F'), ("ignore-case", 'i'), ("invert-match", 'v'),
      ("count", 'c'), ("line-number", 'n'), ("files-with-matches", 'l'),
      ("files-without-match", 'L'), ("quiet", 'q'), ("silent", 'q'), ("only-matching", 'o'),
      ("no-filename", 'h'), ("with-filename", 'H'), ("word-regexp", 'w'), ("line-regexp", 'x'),
      ("recursive", 'r'), ("regexp", 'e'), ("max-count", 'm'), ("no-messages", 's')]

/-- The expressions that are searched for: those of options, or else the first operand, which may
have several lines. With them come the other operands. -/
def searched (given : Given) : Option (List Regex × List String) := do
  let (texts, operands) ←
    match given.values 'e', given.operands with
    | [], [] => none
    | [], pattern :: operands => some ([pattern], operands)
    | patterns, operands => some (patterns, operands)
  let patterns := texts.flatMap fun text => Text.split (· == '\n') (byteText text)
  let isExtended := given.has 'E' || given.has 'P'
  let regexes ← patterns.mapM fun pattern =>
    if given.has 'F' then some (Regex.ofText pattern) else Regex.parse? isExtended pattern
  let wrap (regex : Regex) : Regex :=
    if given.has 'x' then .sequence .start (.sequence regex .finish) else regex
  return (regexes.map wrap, operands)

/-- The parts of a line that expressions match. With `isWords`, only whole words count. -/
def matchesIn (given : Given) (regexes : List Regex) (line : List Char) : List (List Char) :=
  let found := regexes.flatMap fun regex => Regex.all (given.has 'i') regex line
  let isWhole (before found rest : List Char) : Bool :=
    !(before.getLast?.any Regex.isWord) && !(rest.head?.any Regex.isWord) && !found.isEmpty
  let kept :=
    if given.has 'w' then
      found.filter fun part =>
        let before := line.take (line.length - part.rest.length - part.found.length)
        isWhole before part.found part.rest
    else found
  kept.map Regex.Match.found

def searchedFiles (given : Given) (operands : List String) : Running (List String) := do
  if !(given.has 'r' || given.has 'R') then
    return if operands.isEmpty then ["-"] else operands
  let files := (← get).files
  let found ← (if operands.isEmpty then ["."] else operands).mapM fun operand => do
    let path ← Running.resolve operand
    let rec go : Nat → String → Path → List String
      | 0, _, _ => []
      | fuel + 1, text, path =>
        match files.list path with
        | .ok names =>
          (Sorting.sort Sorting.textLe names).flatMap fun name =>
            let inner := if operands.isEmpty && text == "." then name else s!"{text}/{name}"
            go fuel inner (path / name)
        | .error _ => [text]
    return go (files.nodes.length + 2) operand path
  return found.flatten

/-- What a search prints for one input, and whether something was found. -/
def searchReport (given : Given) (regexes : List Regex) (isNamed : Bool) (name : String)
    (text : List Char) : List (List Char) × Bool :=
  let limit := (given.value? 'm').bind count?
  let rows := (linesOf text).zipIdx.filterMap fun (line, index) =>
    let found := matchesIn given regexes line
    if found.isEmpty = given.has 'v' then some (index + 1, line, found) else none
  let rows := rows.take (limit.getD rows.length)
  let shownName := byteText (if name == "-" then "(standard input)" else name)
  let lead (number : Nat) : List Char :=
    (if isNamed then shownName ++ [':'] else [])
      ++ if given.has 'n' then (toString number ++ ":").toList else []
  let isFound := !rows.isEmpty
  let output :=
    if given.has 'q' then []
    else if given.has 'l' then if isFound then [shownName] else []
    else if given.has 'L' then if isFound then [] else [shownName]
    else if given.has 'c' then
      [(if isNamed then shownName ++ [':'] else []) ++ (toString rows.length).toList]
    else if given.has 'o' then
      rows.flatMap fun (number, _, found) =>
        (found.filter fun part => !part.isEmpty).map (lead number ++ ·)
    else rows.map fun (number, line, _) => lead number ++ line
  (output, isFound)

/-- Prints the lines of files in which something is found. -/
def grep (arguments : List String) : Running Unit := do
  match read grepOptions true arguments with
  | none => Running.setStatus 2
  | some given =>
    match searched given with
    | none => Running.setStatus 2
    | some (regexes, operands) =>
      let names ← searchedFiles given operands
      let isDeep := given.has 'r' || given.has 'R'
      let isNamed := (given.has 'H' || 1 < names.length || isDeep) && !given.has 'h'
      let results ← names.mapM fun name => do
        match ← operandBytes name with
        | .ok bytes =>
          let (output, isFound) := searchReport given regexes isNamed name (characters bytes)
          Running.printCharacters (unlines output)
          return some isFound
        | .error cause =>
          if !given.has 's' then Running.complain s!"grep: {name}: {reason cause}"
          return none
      let isFound := results.any (· == some true)
      let hasFailed := results.any Option.isNone
      if hasFailed && !(isFound && given.has 'q') then Running.setStatus 2
      else Running.setSuccess isFound

def egrep (arguments : List String) : Running Unit := grep ("-E" :: arguments)

def fgrep (arguments : List String) : Running Unit := grep ("-F" :: arguments)

end SourceTrace.Shell.Program
