import SourceTrace.Base64
import SourceTrace.Shell.Program.Options

/-!
# Programs on files

Programs that show, copy, move, create and remove files and directories.
-/
namespace SourceTrace.Shell.Program

/-- A character as it is shown where every character has to be visible. -/
def visible (given : Given) (c : Char) : List Char :=
  let n := c.toNat
  let isShown := ['v', 'A', 'e', 't'].any given.has
  if c = '\t' then if given.has 'T' || given.has 'A' || given.has 't' then ['^', 'I'] else [c]
  else if !isShown then [c]
  else if n < 32 then ['^', Char.ofNat (n + 64)]
  else if n < 127 then [c]
  else if n = 127 then ['^', '?']
  else
    let low := n - 128
    let shown :=
      if low < 32 then ['^', Char.ofNat (low + 64)]
      else if low = 127 then ['^', '?']
      else [Char.ofNat low]
    'M' :: '-' :: shown

/-- Lines of which those that are empty do not follow one another. -/
def squeezedLines : List (List Char) → List (List Char)
  | first :: second :: rest =>
    if first.isEmpty && second.isEmpty then squeezedLines (second :: rest)
    else first :: squeezedLines (second :: rest)
  | lines => lines

/-- A text with the numbers and marks that are asked for. -/
def annotated (given : Given) (text : List Char) : List Char :=
  if given.options.isEmpty then text else
  let isClosed := text.getLast? = some '\n'
  let lines := if given.has 's' then squeezedLines (linesOf text) else linesOf text
  let mark := if given.has 'E' || given.has 'A' || given.has 'e' then ['$'] else []
  let (_, shown) := lines.foldl (fun (number, shown) line =>
    let isNumbered := if given.has 'b' then !line.isEmpty else given.has 'n'
    let digits := (toString number).toList
    let lead :=
      if isNumbered then List.replicate (6 - digits.length) ' ' ++ digits ++ ['\t'] else []
    (if isNumbered then number + 1 else number, shown ++ [lead ++ line.flatMap (visible given)]))
    (1, ([] : List (List Char)))
  let whole := shown.flatMap fun line => line ++ mark ++ ['\n']
  if isClosed then whole else whole.take (whole.length - mark.length - 1)

def cat (arguments : List String) : Running Unit := do
  let words := [("number", 'n'), ("number-nonblank", 'b'), ("squeeze-blank", 's'),
    ("show-ends", 'E'), ("show-tabs", 'T'), ("show-all", 'A'), ("show-nonprinting", 'v')]
  match read ⟨"unbsETAvet".toList, [], words⟩ true arguments with
  | none => Running.setStatus 1
  | some given => filtering "cat" given.operands (annotated given)

/-- The name that something keeps when it is put into a directory. -/
def baseName (text : String) : String := (Path.mk text).fileName?.getD text

/-- What something is called when it goes to a target: it goes into the target if that is a
directory, and else to the target. -/
def destination (source target : String) : Running String := do
  let path ← Running.resolve target
  let machine ← get
  return if machine.files.isDirectory path then (Path.mk target / baseName source).text else target

/-- The tree with everything at and below a location put at another one as well. -/
def graft (tree : FileTree) (source target : Location) : FileTree :=
  tree.nodes.foldl (fun grown (known, node) =>
    if source.isPrefixOf known then grown.put (target ++ known.drop source.length) node
    else grown) tree

/-- The tree with a file, or with `isRecursive` a directory, copied. -/
def copyNode (isRecursive : Bool) (source target : Path) (tree : FileTree) :
    Except FileError FileTree := do
  let start ← tree.locate source
  match ← tree.find source with
  | .file bytes =>
    if (tree.locate target).toOption = some start then .error .alreadyExists
    else tree.write target bytes
  | .directory =>
    if !isRecursive then .error .isADirectory
    else
      let tree ← if tree.isDirectory target then .ok tree else tree.createDirectory target
      let goal ← tree.locate target
      if start.isPrefixOf goal then .error .alreadyExists else return graft tree start goal

/-- The tree with a file or a directory moved. A directory takes the place of an empty one only. -/
def moveNode (source target : Path) (tree : FileTree) : Except FileError FileTree := do
  if tree.isDirectory source && (tree.list target).toOption.any (!·.isEmpty) then
    throw (.other "Directory not empty")
  let tree ← copyNode true source target tree
  match ← tree.find source with
  | .file _ => tree.removeFile source
  | .directory => tree.removeAll source

def transferOptions : Known where
  flags := "rRaplfnuvdPLiT".toList
  valued := ['t']
  words :=
    [("recursive", 'r'), ("archive", 'a'), ("force", 'f'), ("verbose", 'v'), ("no-clobber", 'n'),
      ("target-directory", 't'), ("no-target-directory", 'T')]

/-- The sources and the target of a copy or a move; several sources need a directory. -/
def sourcesAndTarget (given : Given) : Running (Option (List String × String)) := do
  match given.value? 't' with
  | some target => return some (given.operands, target)
  | none =>
    match given.operands.getLast?, given.operands.dropLast with
    | some target, first :: rest =>
      let path ← Running.resolve target
      let machine ← get
      if rest.isEmpty || machine.files.isDirectory path then return some (first :: rest, target)
      else return none
    | _, _ => return none

/-- Copies or moves one source to a place and tells whether that was possible. -/
def transferOne (program : String) (given : Given)
    (step : Path → Path → FileTree → Except FileError FileTree) (source place : String) :
    Running Bool := do
  let start ← Running.resolve source
  let goal ← Running.resolve place
  let files := (← get).files
  if given.has 'n' && (files.find goal).toOption.isSome then return true
  if Running.isVoid goal then return true
  if Running.isVoid start then return ← Running.write goal []
  match files.find start with
  | .error cause =>
    Running.complain s!"{program}: cannot stat '{source}': {reason cause}"
    return false
  | .ok node =>
    match ← Running.attempt (step start goal) with
    | none =>
      if given.has 'v' then
        let verb := if program == "mv" then "renamed " else ""
        Running.printLine s!"{verb}'{source}' -> '{place}'"
      return true
    | some cause =>
      if node = .directory && program == "cp" && !files.isDirectory goal then
        Running.complain s!"cp: -r not specified; omitting directory '{source}'"
      else if program == "mv" then
        Running.complain s!"mv: cannot move '{source}' to '{place}': {reason cause}"
      else Running.complain s!"cp: cannot create regular file '{place}': {reason cause}"
      return false

/-- Copies or moves every source to the target. -/
def transfer (program : String) (given : Given)
    (step : Path → Path → FileTree → Except FileError FileTree) : Running Unit := do
  match ← sourcesAndTarget given with
  | none =>
    let target := given.operands.getLast?.getD ""
    Running.complain s!"{program}: target '{target}': No such file or directory"
    Running.setStatus 1
  | some (sources, target) =>
    forAll sources fun source => do
      let place ← if given.has 'T' then pure target else destination source target
      transferOne program given step source place

def cp (arguments : List String) : Running Unit := do
  match read transferOptions true arguments with
  | none => Running.setStatus 1
  | some given =>
    transfer "cp" given (copyNode (given.has 'r' || given.has 'R' || given.has 'a'))

def mv (arguments : List String) : Running Unit := do
  match read transferOptions true arguments with
  | none => Running.setStatus 1
  | some given => transfer "mv" given moveNode

def ln (arguments : List String) : Running Unit := do
  match letters "sfnv" arguments with
  | none => Running.setStatus 1
  | some given =>
    match ← sourcesAndTarget given with
    | none => Running.setStatus 1
    | some (sources, target) =>
      forAll sources fun source => do
        let place ← destination source target
        let goal ← Running.resolve place
        if !given.has 'f' && ((← get).files.find goal).toOption.isSome then
          Running.complain s!"ln: failed to create hard link '{place}': File exists"
          return false
        else transferOne "ln" given (copyNode false) source place

/-- Copies files and creates directories. -/
def install (arguments : List String) : Running Unit := do
  match read ⟨"dDvpcC".toList, ['m', 't', 'o', 'g'], []⟩ true arguments with
  | none => Running.setStatus 1
  | some given =>
    if given.has 'd' then
      forAll given.operands fun operand => do
        let path ← Running.resolve operand
        Running.change fun files => files.createAll path
    else
      if given.has 'D' then
        let parent := (given.operands.getLast?).bind fun target => (Path.mk target).parent?
        let path ← Running.resolve ((parent.map Path.text).getD "")
        discard (Running.change fun files => files.createAll path)
      transfer "cp" given (copyNode false)

/-- Whether a path ends in the name of its own directory or of the one above. -/
def endsInDots (text : String) : Bool :=
  let last := ((Path.mk text).pieces.filter (· != "")).getLast?
  last = some "." || last = some ".."

def rm (arguments : List String) : Running Unit := do
  let words := [("recursive", 'r'), ("force", 'f'), ("verbose", 'v'), ("dir", 'd')]
  match read ⟨"rRfvdiI".toList, [], words⟩ true arguments with
  | none => Running.setStatus 1
  | some given =>
    let isForced := given.has 'f'
    let isRecursive := given.has 'r' || given.has 'R'
    if given.operands.isEmpty then Running.setSuccess isForced
    else
      forAll given.operands fun operand => do
        let path ← Running.resolve operand
        let files := (← get).files
        let refuse (why : String) : Running Bool := do
          Running.complain s!"rm: cannot remove '{operand}': {why}"
          return false
        match files.find path with
        | .ok (.file _) => Running.change fun files => files.removeFile path
        | .ok .directory =>
          if isRecursive && endsInDots operand then return false
          else if isRecursive then Running.change fun files => files.removeAll path
          else if given.has 'd' && (files.list path).toOption = some [] then
            Running.change fun files => files.removeAll path
          else refuse "Is a directory"
        | .error cause => if isForced then return true else refuse (reason cause)

def mkdir (arguments : List String) : Running Unit := do
  match read ⟨['p', 'v'], ['m'], [("parents", 'p'), ("verbose", 'v'), ("mode", 'm')]⟩ true
      arguments with
  | none => Running.setStatus 1
  | some given =>
    if given.operands.isEmpty then Running.setStatus 1
    else
      forAll given.operands fun operand => do
        let path ← Running.resolve operand
        let step (files : FileTree) :=
          if given.has 'p' then files.createAll path else files.createDirectory path
        match ← Running.attempt step with
        | none => return true
        | some cause =>
          Running.complain s!"mkdir: cannot create directory '{operand}': {reason cause}"
          return false

def rmdir (arguments : List String) : Running Unit := do
  match letters "v" arguments with
  | none => Running.setStatus 1
  | some given =>
    forAll given.operands fun operand => do
      let path ← Running.resolve operand
      let step (files : FileTree) : Except FileError FileTree := do
        let names ← files.list path
        if names.isEmpty then files.removeAll path else .error (.other "Directory not empty")
      match ← Running.attempt step with
      | none => return true
      | some cause =>
        Running.complain s!"rmdir: failed to remove '{operand}': {reason cause}"
        return false

def touch (arguments : List String) : Running Unit := do
  match read ⟨"acmh".toList, ['t', 'd', 'r'], [("no-create", 'c')]⟩ true arguments with
  | none => Running.setStatus 1
  | some given =>
    if given.operands.isEmpty then Running.setStatus 1
    else
      forAll given.operands fun operand => do
        let path ← Running.resolve operand
        let files := (← get).files
        if Running.isVoid path || (files.find path).toOption.isSome || given.has 'c' then
          return true
        match ← Running.attempt fun files => files.write path [] with
        | none => return true
        | some cause =>
          Running.complain s!"touch: cannot touch '{operand}': {reason cause}"
          return false

/-- Whether a mode makes a file one that can be run, or takes that from it; `none` if it does
neither. -/
def modeRuns? (mode : String) : Option Bool :=
  let text := mode.toList
  if text.all Char.isDigit then
    some ((text.drop (text.length - 3)).any fun c => (c.toNat - 48) % 2 = 1)
  else if !text.contains 'x' then none
  else some (!text.contains '-')

/-- Changes what may be done with files, of which only running them is kept. -/
def chmod (arguments : List String) : Running Unit := do
  match arguments.filter fun text => !(["-R", "-v", "-f"].contains text) with
  | [] | [_] => Running.setStatus 1
  | mode :: operands =>
    forAll operands fun operand => do
      let path ← Running.resolve operand
      let machine ← get
      match machine.files.find path with
      | .error cause =>
        Running.complain s!"chmod: cannot access '{operand}': {reason cause}"
        return false
      | .ok _ =>
        let location := (machine.files.locate path).toOption.getD []
        let others := machine.runnable.filter (· != location)
        match modeRuns? mode with
        | some true => set { machine with runnable := location :: others }
        | some false => set { machine with runnable := others }
        | none => pure ()
        return true

/-- Copies standard input to files and prints it as well. -/
def tee (arguments : List String) : Running Unit := do
  match read ⟨['a', 'i'], [], [("append", 'a')]⟩ true arguments with
  | none => Running.setStatus 1
  | some given =>
    let bytes ← Running.takeInput
    Running.print bytes
    forAll given.operands fun operand => do
      let path ← Running.resolve operand
      let old := ((← get).files.read path).toOption.getD []
      let isWritten ← Running.write path (if given.has 'a' then old ++ bytes else bytes)
      if !isWritten then Running.complain s!"tee: {operand}: No such file or directory"
      return isWritten

def truncate (arguments : List String) : Running Unit := do
  match read ⟨['c'], ['s'], [("size", 's')]⟩ true arguments with
  | none => Running.setStatus 1
  | some given =>
    match (given.value? 's').bind count? with
    | none => Running.setStatus 1
    | some size =>
      forAll given.operands fun operand => do
        let path ← Running.resolve operand
        let old := ((← get).files.read path).toOption.getD []
        Running.write path (old.take size ++ List.replicate (size - old.length) 0)

/-- The values of arguments that are names and values with an equals sign between them. -/
def settings? (known : List String) (arguments : List String) :
    Option (List (String × String)) :=
  arguments.mapM fun argument => do
    let (name, value) ← Text.cutAt? ['='] argument.toList
    if known.contains (String.ofList name) then
      some (String.ofList name, String.ofList value)
    else none

/-- Copies a part of a file to a part of another one. -/
def dd (arguments : List String) : Running Unit := do
  let known := ["if", "of", "bs", "ibs", "obs", "count", "skip", "seek", "conv", "status"]
  match settings? known arguments with
  | none => Running.setStatus 1
  | some settings =>
    let number (name : String) : Option Nat := (List.lookup name settings).bind count?
    let size := (number "bs").getD 512
    match ← operandBytes ((List.lookup "if" settings).getD "-") with
    | .error cause =>
      let source := (List.lookup "if" settings).getD ""
      Running.complain s!"dd: failed to open '{source}': {reason cause}"
      Running.setStatus 1
    | .ok bytes =>
      let rest := bytes.drop ((number "skip").getD 0 * size)
      let part :=
        match number "count" with
        | some count => rest.take (count * size)
        | none => rest
      match List.lookup "of" settings with
      | none =>
        Running.print part
        Running.setStatus 0
      | some target =>
        let path ← Running.resolve target
        let old := ((← get).files.read path).toOption.getD []
        let start := (number "seek").getD 0 * size
        let gap := List.replicate (start - old.length) 0
        let keepsRest := List.lookup "conv" settings = some "notrunc"
        let tail := if keepsRest then old.drop (start + part.length) else []
        Running.setSuccess (← Running.write path (old.take start ++ gap ++ part ++ tail))

/-- What a format says about a file. -/
def described (name : String) (node : Node) : List Char → List Char
  | '%' :: 's' :: rest =>
    let size :=
      match node with
      | .file bytes => bytes.length
      | .directory => 4096
    (toString size).toList ++ described name node rest
  | '%' :: 'n' :: rest => name.toList ++ described name node rest
  | '%' :: 'F' :: rest =>
    let kind :=
      match node with
      | .file [] => "regular empty file"
      | .file _ => "regular file"
      | .directory => "directory"
    kind.toList ++ described name node rest
  | c :: rest => c :: described name node rest
  | [] => []

def stat (arguments : List String) : Running Unit := do
  match read ⟨['L', 't'], ['c'], [("format", 'c')]⟩ true arguments with
  | none => Running.setStatus 1
  | some given =>
    if given.operands.isEmpty then Running.setStatus 1
    else
      forAll given.operands fun operand => do
        let path ← Running.resolve operand
        match (← get).files.find path with
        | .ok node =>
          let format := (given.value? 'c').getD "%n"
          Running.printLine (String.ofList (described operand node format.toList))
          return true
        | .error cause =>
          Running.complain s!"stat: cannot statx '{operand}': {reason cause}"
          return false

def shownNames (given : Given) (files : FileTree) (path : Path) : List String :=
  let names := Sorting.sort Sorting.textLe ((files.list path).toOption.getD [])
  let shown :=
    if given.has 'a' then "." :: ".." :: names
    else if given.has 'A' then names
    else names.filter fun name => name.toList.head? != some '.'
  if given.has 'r' then shown.reverse else shown

/-- A name as a listing shows it. -/
def marked (given : Given) (files : FileTree) (path : Path) (name : String) : String :=
  if (given.has 'p' || given.has 'F') && files.isDirectory (path / name) then name ++ "/" else name

/-- The lines of the listings of directories that lie at most `fuel` deep. -/
def listing (given : Given) (files : FileTree) (isHeaded : Bool) :
    Nat → String → Path → List String
  | 0, _, _ => []
  | fuel + 1, title, path =>
    let names := shownNames given files path
    let head := if isHeaded then [title ++ ":"] else []
    let own := head ++ names.map (marked given files path)
    if given.has 'R' then
      let inner := names.filter fun name =>
        name != "." && name != ".." && files.isDirectory (path / name)
      own ++ inner.flatMap fun name =>
        "" :: listing given files isHeaded fuel s!"{title}/{name}" (path / name)
    else own

def ls (arguments : List String) : Running Unit := do
  match letters "1aAdrRpFtSCxmnkhiulogGfcsUvqQNbBHL" arguments with
  | none => Running.setStatus 2
  | some given =>
    let operands := if given.operands.isEmpty then ["."] else given.operands
    let operands := Sorting.sort Sorting.textLe operands
    let machine ← get
    let found ← operands.mapM fun operand => do
      let path ← Running.resolve operand
      match machine.files.find path with
      | .ok node => return some (operand, path, node = .directory && !given.has 'd')
      | .error cause =>
        Running.complain s!"ls: cannot access '{operand}': {reason cause}"
        return none
    let shown := found.filterMap id
    let plain := shown.filter fun (_, _, isListed) => !isListed
    let listed := shown.filter fun (_, _, isListed) => isListed
    let isHeaded := given.has 'R' || 1 < operands.length
    let blocks := listed.map fun (title, path, _) =>
      listing given machine.files isHeaded (machine.files.nodes.length + 1) title path
    let blocks := if plain.isEmpty then blocks else plain.map (·.1) :: blocks
    let text := Text.join "\n" (blocks.map fun lines => Text.join "" (lines.map (· ++ "\n")))
    Running.printText text.toList
    Running.setStatus (if found.all Option.isSome then 0 else 2)

/-- Prints the last component of a path, without an ending if one is given. -/
def basename (arguments : List String) : Running Unit := do
  let nameOf (path : String) : String :=
    if path != "" && path.toList.all (· == '/') then "/"
    else (((Path.mk path).pieces.filter (· != "")).getLast?).getD ""
  let without (ending name : String) : String :=
    match Text.before? ending.toList name.toList with
    | some [] | none => name
    | some stem => String.ofList stem
  match read ⟨['a', 'z'], ['s'], [("suffix", 's'), ("multiple", 'a')]⟩ false arguments with
  | none => Running.setStatus 1
  | some given =>
    match given.value? 's', given.operands with
    | some ending, paths => paths.forM fun path => Running.printLine (without ending (nameOf path))
    | none, [path] => Running.printLine (nameOf path)
    | none, [path, ending] =>
      if given.has 'a' then [path, ending].forM fun path => Running.printLine (nameOf path)
      else Running.printLine (without ending (nameOf path))
    | none, paths =>
      if given.has 'a' && !paths.isEmpty then paths.forM fun path => Running.printLine (nameOf path)
      else Running.setStatus 1

def directoryName (path : String) : String :=
  match (Path.mk path).parent? with
  | some dir => if dir.text == "" then "." else dir.text
  | none => if (Path.mk path).isAbsolute then "/" else "."

/-- Prints paths without their last components. -/
def dirname (arguments : List String) : Running Unit :=
  match read ⟨['z'], [], []⟩ false arguments with
  | none => Running.setStatus 1
  | some given =>
    if given.operands.isEmpty then Running.setStatus 1
    else given.operands.forM fun path => Running.printLine (directoryName path)

def locationText (location : Location) : String := "/" ++ Text.join "/" location

def realpath (arguments : List String) : Running Unit := do
  match letters "femsqnP" arguments with
  | none => Running.setStatus 1
  | some given =>
    forAll given.operands fun operand => do
      let path ← Running.resolve operand
      match (← get).files.locate path with
      | .ok location =>
        if given.has 'e' && ((← get).files.node? location).isNone then return false
        Running.printLine (locationText location)
        return true
      | .error cause =>
        Running.complain s!"realpath: {operand}: {reason cause}"
        return false

/-- Prints where links lead; only with an option that also takes what is no link. -/
def readlink (arguments : List String) : Running Unit := do
  match letters "femqnsv" arguments with
  | some given =>
    if given.has 'f' || given.has 'e' || given.has 'm' then realpath arguments
    else Running.setStatus 1
  | none => Running.setStatus 1

def pwd (_ : List String) : Running Unit := do
  let machine ← get
  Running.printLine (locationText ((machine.files.locate machine.directory).toOption.getD []))

/-- Compares two files byte by byte. -/
def cmp (arguments : List String) : Running Unit := do
  match letters "sl" arguments with
  | some given =>
    match given.operands with
    | [left, right] =>
      match ← operandBytes left, ← operandBytes right with
      | .ok first, .ok second =>
        if first = second then Running.setStatus 0
        else
          let same := ((first.zip second).takeWhile fun (a, b) => a = b).length
          let line := ((first.take same).filter (· == 10)).length + 1
          if same = first.length || same = second.length then
            let short := if same = first.length then left else right
            Running.complain s!"cmp: EOF on {short} after byte {same}"
          else if !given.has 's' then
            Running.printLine s!"{left} {right} differ: char {same + 1}, line {line}"
          Running.setStatus 1
      | _, _ => Running.setStatus 2
    | _ => Running.setStatus 2
  | none => Running.setStatus 2

def diff (arguments : List String) : Running Unit := do
  match letters "qurNaBbwisyc" arguments with
  | some given =>
    match given.operands with
    | [left, right] =>
      match ← operandBytes left, ← operandBytes right with
      | .ok first, .ok second =>
        if first != second && given.has 'q' then
          Running.printLine s!"Files {left} and {right} differ"
        if first = second && given.has 's' then
          Running.printLine s!"Files {left} and {right} are identical"
        Running.setSuccess (first = second)
      | _, _ => Running.setStatus 2
    | _ => Running.setStatus 2
  | none => Running.setStatus 2

/-- A text in lines of a width; zero stands for no limit. Lines end with line feeds unless there is
no limit. -/
def wrapped (width : Nat) (text : List Char) : List Char :=
  if width = 0 then text
  else
    let rec pieces : Nat → List Char → List (List Char)
      | 0, _ => []
      | fuel + 1, text =>
        if text.isEmpty then [] else text.take width :: pieces fuel (text.drop width)
    unlines (pieces (text.length + 1) text)

/-- Writes bytes as characters of the alphabet of 64, or reads them back. -/
def base64 (arguments : List String) : Running Unit := do
  match read ⟨['d', 'D', 'i'], ['w'], [("wrap", 'w'), ("decode", 'd')]⟩ true arguments with
  | none => Running.setStatus 1
  | some given =>
    match (given.value? 'w').map count?, given.operands with
    | some none, _ | _, _ :: _ :: _ => Running.setStatus 1
    | width, operands =>
      let operand := operands.headD "-"
      match ← operandBytes operand with
      | .error cause =>
        Running.complain s!"base64: {operand}: {reason cause}"
        Running.setStatus 1
      | .ok bytes =>
        if given.has 'd' || given.has 'D' then
          let text := (characters bytes).filter (· != '\n')
          match Base64.decode? text with
          | some bytes =>
            Running.print bytes
            Running.setStatus 0
          | none => Running.setStatus 1
        else
          let text := Base64.encode bytes
          Running.printText (wrapped ((width.bind id).getD 76) text)
          Running.setStatus 0

/-- What `find` asks of a path. -/
structure Query where
  names : List (List Matcher)
  isDirectory : Option Bool
  deepest : Option Nat
  least : Nat
  removes : Bool
  isEmpty : Bool

def query? (found : Query) : List String → Option Query
  | [] => some found
  | "-name" :: pattern :: rest =>
    let glyphs := pattern.toList.map fun c => Glyph.mk c false
    query? { found with names := Pattern.ofGlyphs glyphs :: found.names } rest
  | "-type" :: kind :: rest => query? { found with isDirectory := some (kind == "d") } rest
  | "-maxdepth" :: depth :: rest => do query? { found with deepest := ← count? depth } rest
  | "-mindepth" :: depth :: rest => do query? { found with least := ← count? depth } rest
  | "-empty" :: rest => query? { found with isEmpty := true } rest
  | "-delete" :: rest => query? { found with removes := true } rest
  | "-print" :: rest | "-a" :: rest => query? found rest
  | _ => none

def Query.accepts (query : Query) (files : FileTree) (depth : Nat) (path : Path) : Bool :=
  let name := (path.fileName?.getD path.text).toList
  let isDirectory := files.isDirectory path
  query.names.all (Pattern.covers · name) && query.isDirectory.all (· == isDirectory)
    && query.least ≤ depth
    && (!query.isEmpty || (files.list path).toOption = some []
      || (files.read path).toOption = some [])

/-- All names at and below a path, which lies at a depth, with the paths they stand for. -/
def below (files : FileTree) (deepest : Option Nat) :
    Nat → Nat → String → Path → List (Nat × String × Path)
  | 0, _, _, _ => []
  | fuel + 1, depth, text, path =>
    let inner :=
      if deepest.any (· ≤ depth) then []
      else Sorting.sort Sorting.textLe ((files.list path).toOption.getD [])
    (depth, text, path) :: inner.flatMap fun name =>
      below files deepest fuel (depth + 1) (Path.mk text / name).text (path / name)

/-- Prints the paths below others that a query asks for. -/
def findPaths (arguments : List String) : Running Unit := do
  let paths := arguments.takeWhile fun text => text.toList.head? != some '-'
  match query? ⟨[], none, none, 0, false, false⟩ (arguments.drop paths.length) with
  | none => Running.setStatus 1
  | some query =>
    forAll (if paths.isEmpty then ["."] else paths) fun start => do
      let path ← Running.resolve start
      let files := (← get).files
      if (files.find path).toOption.isNone then
        Running.complain s!"find: '{start}': No such file or directory"
        return false
      let found := (below files query.deepest (files.nodes.length + 1) 0 start path).filter
        fun (depth, _, path) => query.accepts files depth path
      for (_, text, path) in if query.removes then found.reverse else found do
        if query.removes then
          discard (Running.change fun files =>
            if files.isDirectory path then files.removeAll path else files.removeFile path)
        else Running.printLine text
      return true

end SourceTrace.Shell.Program
