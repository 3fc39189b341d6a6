import SourceTrace.Shell.Expansion
import SourceTrace.Shell.Program

/-!
# Commands of the shell itself

Commands that change the script that runs them: its variables, arguments, options and directory.
Some of them are special: when one of these goes wrong, the script ends.
-/
namespace SourceTrace.Shell.Builtin

/-- A number that a command takes as its first argument. -/
def countArgument (fallback : Nat) (arguments : List String) : Option Nat :=
  match arguments with
  | [] => some fallback
  | text :: _ => Program.count? text

/-- Splits an argument at its first equals sign. -/
def nameAndValue (text : String) : String × Option String :=
  match Text.cutAt? ['='] text.toList with
  | some (name, value) => (String.ofList name, some (String.ofList value))
  | none => (text, none)

def isName (text : String) : Bool :=
  (text.toList.head?).any isNameStart && text.toList.all isNameCharacter

def optionNames : List (String × Char) :=
  [("errexit", 'e'), ("noglob", 'f'), ("nounset", 'u'), ("xtrace", 'x'), ("verbose", 'v'),
    ("noexec", 'n'), ("allexport", 'a'), ("noclobber", 'C'), ("monitor", 'm'), ("notify", 'b'),
    ("ignoreeof", 'I'), ("nolog", 'l'), ("vi", 'V'), ("emacs", 'E')]

def optionLetters : List Char := "aefuxvnCmbIVE".toList

def setOptions : List String → Running Unit
  | [] => Running.setStatus 0
  | "--" :: rest | "-" :: rest =>
    modify fun machine => { machine with arguments := rest, status := 0 }
  | "-o" :: name :: rest => named true name rest
  | "+o" :: name :: rest => named false name rest
  | argument :: rest =>
    match argument.toList with
    | '-' :: letters => lettered true letters rest
    | '+' :: letters => lettered false letters rest
    | _ => modify fun machine => { machine with arguments := argument :: rest, status := 0 }
where
  /-- Sets an option given by name. -/
  named (isOn : Bool) (name : String) (rest : List String) : Running Unit := do
    match List.lookup name optionNames with
    | some letter =>
      modify fun machine => machine.withOption isOn letter
      setOptions rest
    | none => Running.exit 2
  /-- Sets options given by letters. -/
  lettered (isOn : Bool) (letters : List Char) (rest : List String) : Running Unit := do
    if !letters.all fun c => optionLetters.contains c || c = 'o' then Running.exit 2
    for letter in letters do
      modify fun machine => machine.withOption isOn letter
    setOptions rest

/-- The separators that are blanks, and those that are not. -/
def kindsOfSeparators : Running ((Char → Bool) × (Char → Bool)) := do
  let all ← separators
  let isBlank (c : Char) : Bool := c = ' ' || c = '\t' || c = '\n'
  return (fun c => all.contains c && isBlank c, fun c => all.contains c && !isBlank c)

/-- The first line of a text, whose characters may be quoted by a backslash, and the rest. The flag
says whether the line has an end. -/
def firstLine (isRaw : Bool) : List Char → List Glyph × List Char × Bool
  | [] => ([], [], false)
  | '\n' :: rest => ([], rest, true)
  | '\\' :: c :: rest =>
    let (line, after, isEnded) :=
      if isRaw then firstLine isRaw (c :: rest) else firstLine isRaw rest
    if isRaw then (⟨'\\', false⟩ :: line, after, isEnded)
    else if c = '\n' then (line, after, isEnded)
    else (⟨c, true⟩ :: line, after, isEnded)
  | c :: rest =>
    let (line, after, isEnded) := firstLine isRaw rest
    (⟨c, false⟩ :: line, after, isEnded)

/-- Gives variables the fields of a line; the last one takes what is left. -/
def assignFields (isBlank isMark : Char → Bool) (line : List Glyph) :
    List String → Running Unit
  | [] => pure ()
  | name :: rest => do
    let isFree (test : Char → Bool) (glyph : Glyph) : Bool := !glyph.isQuoted && test glyph.char
    let line := line.dropWhile (isFree isBlank)
    if rest.isEmpty then
      let trimmed := (line.reverse.dropWhile (isFree isBlank)).reverse
      let marks := trimmed.filter (isFree isMark)
      let isSingle := marks.length = 1 && (trimmed.getLast?).any (isFree isMark)
      let value := if isSingle then trimmed.dropLast else trimmed
      Running.setVariable name (String.ofList (glyphText value))
    else
      let first := line.takeWhile fun glyph => !isFree (fun c => isBlank c || isMark c) glyph
      Running.setVariable name (String.ofList (glyphText first))
      let line := (line.drop first.length).dropWhile (isFree isBlank)
      let line := if line.head?.any (isFree isMark) then line.tail else line
      assignFields isBlank isMark line rest

def readLine (arguments : List String) : Running Unit := do
  match Program.read ⟨['r'], ['p', 't'], []⟩ false arguments with
  | none => Running.setStatus 2
  | some given =>
    if given.operands.isEmpty then Running.setStatus 2
    else
      let machine ← get
      let (line, rest, isEnded) := firstLine (given.has 'r') (characters machine.input)
      set { machine with input := octets rest }
      let bytes := octets (glyphText line)
      let isPlain := line.all fun glyph => !glyph.isQuoted && glyph.char.toNat < 128
      let glyphs :=
        if isPlain then line
        else (Text.Utf8.decodeLossy bytes).toList.map fun c =>
          ⟨c, line.any fun glyph => glyph.isQuoted && glyph.char = c⟩
      let (isBlank, isMark) ← kindsOfSeparators
      assignFields isBlank isMark glyphs given.operands
      Running.setSuccess isEnded

def changeDirectory (arguments : List String) : Running Unit := do
  let operands := arguments.filter fun text => text != "-P" && text != "-L" && text != "--"
  let machine ← get
  let target := operands.headD ((List.lookup "HOME" machine.bindings).getD "")
  let isBack := target == "-"
  let text := if isBack then (List.lookup "OLDPWD" machine.bindings).getD "" else target
  let path ← Running.resolve text
  if machine.files.isDirectory path then
    let old := (machine.files.locate machine.directory).toOption.getD []
    set { machine with directory := path, status := 0 }
    let new := Program.locationText ((machine.files.locate path).toOption.getD [])
    Running.setVariable "OLDPWD" (Program.locationText old)
    Running.setVariable "PWD" new
    if isBack then Running.printLine new
    Running.setStatus 0
  else
    Running.complain s!"{machine.name}: 1: cd: can't cd to {text}"
    Running.setStatus 2

/-- Gives variables values and a property that they did not have. -/
def declare (change : String → Machine → Machine) : List String → Running Unit
  | [] => Running.setStatus 0
  | argument :: rest => do
    let (name, value) := nameAndValue argument
    if argument == "-p" || argument == "--" then declare change rest
    else
      if !isName name then Running.exit 2
      match value with
      | some value => Running.setVariable name value
      | none => pure ()
      modify (change name)
      declare change rest

def addExported (name : String) (machine : Machine) : Machine :=
  { machine with exported := name :: machine.exported.filter (· != name) }

/-- Keeps a variable from being changed. -/
def addFixed (name : String) (machine : Machine) : Machine :=
  { machine with fixed := name :: machine.fixed.filter (· != name) }

/-- Gives a named command variables of its own, which hold what the others of their names hold until
they get values. -/
def localVariables (arguments : List String) : Running Unit := do
  if (← get).calls = 0 then Running.exit 2
  for argument in arguments do
    let (name, value) := nameAndValue argument
    if !isName name then Running.exit 2
    modify fun machine =>
      if machine.shadowed.any fun (known, _) => known == name then machine
      else
        { machine with
          shadowed := (name, List.lookup name machine.bindings) :: machine.shadowed }
    match value with
    | some value => Running.setVariable name value
    | none => pure ()
  Running.setStatus 0

def unset : List String → Running Unit
  | "-f" :: names => do
    modify fun machine =>
      { machine with
        functions := machine.functions.filter fun (known, _) => !names.contains known }
    Running.setStatus 0
  | "-v" :: names | names => do
    for name in names do
      if !isName name then Running.exit 2
      Running.forgetVariable name
    Running.setStatus 0

/-- Waits for what was started, and takes over the status of the last of it that is named. -/
def wait (arguments : List String) : Running Unit := do
  let machine ← get
  let finish (jobs : List Job) : Running Unit :=
    for job in jobs do
      let elapsed := (← get).elapsed.milliseconds
      Running.wait (job.ends.milliseconds - elapsed)
  if arguments.isEmpty then
    finish machine.jobs
    modify fun machine => { machine with status := 0 }
  else
    for argument in arguments do
      let isMeant (job : Job) : Bool :=
        argument.toNat? = some job.number || argument.toList.head? = some '%'
      match machine.jobs.find? isMeant with
      | some job =>
        finish [job]
        Running.setStatus job.status
      | none => Running.setStatus 127

/-- Ends a number of loops, or goes on with the next round of one. -/
def leaveLoops (again : Bool) (arguments : List String) : Running Unit := do
  let loops := (← get).loops
  match countArgument 1 arguments with
  | some (count + 1) =>
    Running.setStatus 0
    if loops != 0 then throw (.unwind again (min (count + 1) loops))
  | _ => Running.exit 2

def nextOption : List String → Running Unit
  | description :: name :: given => do
    let machine ← get
    let arguments := if given.isEmpty then machine.arguments else given
    let index := ((List.lookup "OPTIND" machine.bindings).bind Program.count?).getD 1
    let isSilent := description.toList.head? = some ':'
    let finish : Running Unit := do
      Running.setVariable name "?"
      Running.setStatus 1
    let goOn (index offset : Nat) : Running Unit := do
      Running.setVariable "OPTIND" (toString index)
      modify fun machine => { machine with optionOffset := offset }
    match (arguments[index - 1]?).map String.toList with
    | none => finish
    | some ['-', '-'] => do
      goOn (index + 1) 0
      finish
    | some ('-' :: c :: more) => do
      let letters := (c :: more).drop machine.optionOffset
      let letter := letters.headD '?'
      let rest := letters.tail
      let behind := (description.toList.dropWhile (· != letter)).drop 1
      let isKnown := description.toList.contains letter && letter != ':'
      let skip : Running Unit :=
        if rest.isEmpty then goOn (index + 1) 0 else goOn index (machine.optionOffset + 1)
      if !isKnown then
        skip
        if isSilent then Running.setVariable "OPTARG" (String.ofList [letter])
        else Running.forgetVariable "OPTARG"
        Running.setVariable name "?"
      else if behind.head? != some ':' then
        skip
        Running.setVariable "OPTARG" ""
        Running.setVariable name (String.ofList [letter])
      else if !rest.isEmpty then
        goOn (index + 1) 0
        Running.setVariable "OPTARG" (String.ofList rest)
        Running.setVariable name (String.ofList [letter])
      else
        match arguments[index]? with
        | some value =>
          goOn (index + 2) 0
          Running.setVariable "OPTARG" value
          Running.setVariable name (String.ofList [letter])
        | none =>
          goOn (index + 1) 0
          if isSilent then Running.setVariable "OPTARG" (String.ofList [letter])
          else Running.forgetVariable "OPTARG"
          Running.setVariable name (if isSilent then ":" else "?")
      Running.setStatus 0
    | some _ => finish
  | _ => Running.setStatus 2

/-- Commands whose errors end the script. -/
def special? : String → Option (List String → Running Unit)
  | ":" | "times" => some fun _ => Running.setStatus 0
  | "exit" => some fun arguments => do
    match countArgument (← get).status arguments with
    | some status => Running.exit status
    | none => Running.exit 2
  | "return" => some fun arguments => do
    match countArgument (← get).status arguments with
    | some status => do
      Running.setStatus (status % 256)
      throw .returned
    | none => Running.exit 2
  | "set" => some setOptions
  | "shift" => some fun arguments => do
    let machine ← get
    match countArgument 1 arguments with
    | some count =>
      if count ≤ machine.arguments.length then
        set { machine with arguments := machine.arguments.drop count, status := 0 }
      else Running.exit 2
    | none => Running.exit 2
  | "export" => some (declare addExported)
  | "readonly" => some (declare addFixed)
  | "unset" => some unset
  | "trap" => some Signal.trap
  | "break" => some (leaveLoops false)
  | "continue" => some (leaveLoops true)
  | _ => none

/-- Commands of the shell that can be replaced. -/
def plain? : String → Option (List String → Running Unit)
  | "cd" | "chdir" => some changeDirectory
  | "read" => some readLine
  | "local" => some localVariables
  | "wait" => some wait
  | "getopts" => some nextOption
  | "umask" => some fun arguments =>
    if arguments.isEmpty then Running.printLine "0022" else Running.setStatus 0
  | "alias" | "unalias" | "hash" | "jobs" | "ulimit" | "fg" | "bg" => some fun _ =>
    Running.setStatus 0
  | name =>
    if ["true", "false", "echo", "printf", "test", "[", "kill", "pwd"].contains name then
      Program.find? name
    else none

/-- Special commands that run others. -/
def specialNames : List String := [".", "eval", "exec"]

def keywords : List String :=
  ["!", "case", "do", "done", "elif", "else", "esac", "fi", "for", "if", "in", "then", "until",
    "while", "\x7b", "\x7d"]

/-- What a name stands for in a script, as one word and as a sentence; `none` if it stands for
nothing. -/
def describe (machine : Machine) (name : String) : Option (String × String) :=
  let found := Program.named? name
  if keywords.contains name then some (name, s!"{name} is a shell keyword")
  else if (special? name).isSome || specialNames.contains name then
    some (name, s!"{name} is a special shell builtin")
  else if machine.functions.any fun (known, _) => known == name then
    some (name, s!"{name} is a shell function")
  else if (plain? name).isSome || name == "command" || name == "type" then
    some (name, s!"{name} is a shell builtin")
  else
    found.map fun program =>
      let path := if program == name then "/usr/bin/" ++ name else name
      (path, s!"{name} is {path}")

def tell (isSentence : Bool) (names : List String) : Running Unit := do
  let machine ← get
  let results ← names.mapM fun name => do
    match describe machine name with
    | some (word, sentence) =>
      Running.printLine (if isSentence then sentence else word)
      return true
    | none =>
      if isSentence then Running.printLine s!"{name}: not found"
      return false
  Running.setStatus (if results.all id then 0 else 127)

end SourceTrace.Shell.Builtin
