import SourceTrace.Shell.Builtin

/-!
# Running scripts

Commands are run one after another on a machine. A script that does not come to an end within a
generous number of nested steps or rounds counts as one that never ends.
-/
namespace SourceTrace.Shell

/-- How commands that a command contains are run: texts of commands, and commands. -/
structure Runner where
  script : List Char → Running Unit
  command : Command → Running Unit

def openSink (append : Bool) (target : String) : Running (Option Sink) := do
  let path ← Running.resolve target
  if Running.isVoid path then return some .nowhere
  let old := ((← get).files.read path).toOption.getD []
  let isOpen ← Running.write path (if append then old else [])
  return if isOpen then some (.file path) else none

/-- Applies redirections from left to right and tells whether all of them could be applied. -/
def applyRedirects (capture : Capture) : List Redirect → Running Bool
  | [] => pure true
  | .input source :: rest => do
    let text ← expandText capture source
    match ← Running.read? text with
    | some input =>
      let inputIsFile := text != "/dev/null"
      modify fun machine => { machine with input, inputIsFile }
      applyRedirects capture rest
    | none => return false
  | .document body :: rest => do
    let text ← expandText capture body
    modify fun machine =>
      { machine with input := Text.Utf8.bytes text, inputIsFile := false }
    applyRedirects capture rest
  | .output channel append target :: rest => do
    match ← openSink append (← expandText capture target) with
    | some sink =>
      modify fun machine => machine.withSink channel sink
      applyRedirects capture rest
    | none => return false
  | .duplicate channel target :: rest => do
    let target ← expandText capture target
    let machine ← get
    match Program.count? target with
    | none =>
      if target == "-" then
        set (machine.withoutSink channel)
        applyRedirects capture rest
      else return false
    | some known =>
      if channel = 0 then applyRedirects capture rest
      else if 2 < known && !machine.sinks.any fun (number, _) => number = known then return false
      else
        set (machine.withSink channel (machine.sink known))
        applyRedirects capture rest

/-- Whether a redirection gives a command a standard input of its own. -/
def isForInput : Redirect → Bool
  | .input _ | .document _ => true
  | _ => false

/-- The machine after a part that had channels of its own. -/
def restoreChannels (ownInput : Bool) (before after : Machine) : Machine :=
  { after with
    sinks := before.sinks
    input := if ownInput then before.input else after.input
    inputIsFile := before.inputIsFile }

/-- The machine after a part that had everything of its own but the files and the time. -/
def restoreAll (before after : Machine) : Machine :=
  { before with
    files := after.files, elapsed := after.elapsed, status := after.status, input := after.input
    kept := after.kept, runnable := after.runnable }

/-- Runs a part to its end, however it ends it, and then what the script has asked to run at the
end. The status is that of the part unless what runs at the end exits by itself. -/
def finishing (runner : Runner) (action : Running Unit) : Running Unit :=
  ExceptT.mk fun machine =>
    let finish (after : Machine) (status : Nat) : Except Halt Unit × Machine :=
      let after := { after with status }
      match List.lookup 0 after.traps with
      | none => (.ok (), after)
      | some text =>
        let traps := after.traps.filter fun (known, _) => known != 0
        match (runner.script text.toList).run.run { after with traps } with
        | (.error (.ended (.exit status)), last) => (.ok (), { last with status })
        | (.error (.ended ending), last) => (.error (.ended ending), last)
        | (_, last) => (.ok (), { last with status })
    match action.run.run machine with
    | (.error (.ended (.exit status)), after) => finish after status
    | (.error (.ended ending), after) => (.error (.ended ending), after)
    | (_, after) => finish after after.status

/-- What a part that runs apart keeps of what is to be run when signals arrive: what is ignored. -/
def keptTraps (machine : Machine) : List (Nat × String) :=
  machine.traps.filter fun (number, action) => number != 0 && action == ""

/-- Runs a part that cannot change the script around it. -/
def inSubshell (runner : Runner) (change : Machine → Machine) (action : Running Unit) :
    Running Unit :=
  Running.within (fun machine => change { machine with traps := keptTraps machine }) restoreAll
    (finishing runner action)

/-- Runs a part and takes what it prints. -/
def collecting (action : (Machine → Machine) → Running Unit) : Running (List UInt8) := do
  let before := (← get).kept
  action fun machine => { machine.withSink 1 .kept with kept := [] }
  let printed := (← get).kept
  modify fun machine => { machine with kept := before }
  return printed

/-- The text that a script prints, without the line feeds at its end. -/
def captureOf (runner : Runner) (script : List Char) : Running String := do
  let status := (← get).status
  let printed ← collecting fun change => inSubshell runner change (runner.script script)
  modify fun machine => { machine with captured := machine.status, status }
  let text := Text.Utf8.decodeLossy (printed.filter (· != 0))
  return String.ofList (text.toList.reverse.dropWhile (· == '\n')).reverse

/-- Runs one round of a loop and tells whether there may be another one. -/
def round (body : Running Unit) : Running Bool :=
  ExceptT.mk fun machine =>
    match body.run.run machine with
    | (.ok (), after) => (.ok true, after)
    | (.error (.unwind again count), after) =>
      if 1 < count then (.error (.unwind again (count - 1)), after) else (.ok again, after)
    | (.error halt, after) => (.error halt, after)

def rounds (name : String) (body : Running Unit) : List String → Running Unit
  | [] => pure ()
  | text :: rest => do
    Running.setVariable name text
    if ← round body then rounds name body rest

/-- Takes steps until one says that there are no more, but at most `fuel` of them. -/
def iterate (step : Running Bool) : Nat → Machine → Except Halt Unit × Machine
  | 0, machine => (.error (.ended .unfinished), machine)
  | fuel + 1, machine =>
    match step.run.run machine with
    | (.ok true, after) => iterate step fuel after
    | (.ok false, after) => (.ok (), after)
    | (.error halt, after) => (.error halt, after)

def roundLimit : Nat := 20000

/-- Runs something inside one loop more. -/
def inLoop (action : Running Unit) : Running Unit :=
  Running.within (fun machine => { machine with loops := machine.loops + 1 })
    (fun before after => { after with loops := before.loops }) action

/-- Ends a strict script after a command that failed. -/
def checkStatus (isChecked : Bool) : Running Unit := do
  let machine ← get
  if machine.isStrict && isChecked && machine.status != 0 then Running.exit machine.status

/-- How a nested script is started: with the options of the shell, from a file or from a text. -/
inductive Start where
  | file (path : String) (arguments : List String)
  | text (script : String) (name : Option String) (arguments : List String)
  | input (arguments : List String)
  | refused
  deriving DecidableEq, Repr

/-- What the arguments of a shell start, and the letters of the options it has. -/
def startOf (options : List Char) (isText : Bool) : List String → Start × List Char
  | [] => (if isText then .refused else .input [], options)
  | argument :: rest =>
    let ofOperands (operands : List String) : Start :=
      match operands with
      | [] => if isText then .refused else .input []
      | first :: rest =>
        if isText then .text first rest.head? rest.tail
        else if options.contains 's' then .input (first :: rest)
        else .file first rest
    match argument.toList with
    | ['-'] | ['-', '-'] => (ofOperands rest, options)
    | '-' :: letters =>
      let others := letters.filter (· != 'c')
      if !others.all fun c => Builtin.optionLetters.contains c || c = 's' || c = 'i' then
        (.refused, options)
      else startOf (others ++ options) (isText || letters.contains 'c') rest
    | _ => (ofOperands (argument :: rest), options)

/-- The machine at the start of a script. Of the variables it has those that programs see. -/
def begin (name : String) (arguments : List String) (options : List Char) (machine : Machine) :
    Machine :=
  { machine with
    name, arguments, options
    status := 0
    bindings :=
      ("IFS", " \t\n") :: ("OPTIND", "1") :: machine.bindings.filter fun (known, _) =>
        machine.exported.contains known && known != "IFS" && known != "OPTIND"
    fixed := [], functions := [], calls := 0, loops := 0, shadowed := [], pending := [], jobs := []
    optionOffset := 0 }

/-- Runs commands in order; a script that cannot be read to its end ends with an error there. -/
def runParsed (run : Command → Running Unit) (script : List Char) : Running Unit := do
  let (commands, complete) := parse script
  commands.forM run
  if !complete then Running.exit 2

/-- Runs a part that no signal to itself can end the script with. -/
def guarded (action : Running Unit) : Running Unit :=
  ExceptT.mk fun machine =>
    match action.run.run machine with
    | (.error (.ended (.signal number)), after) => (.ok (), { after with status := 128 + number })
    | (result, after) => (result, after)

def inProcess (action : Running Unit) : Running Unit :=
  Running.within (fun machine => { machine with process := machine.process + 1 })
    (fun before after => { after with process := before.process }) (guarded action)

def runShell (runner : Runner) (program : String) (arguments : List String) : Running Unit := do
  let (start, options) := startOf [] false arguments
  match start with
  | .refused => Running.setStatus 2
  | .input arguments => do
    let script := (Text.Utf8.decodeLossy (← Running.takeInput)).toList
    inSubshell runner (begin program arguments options) (runner.script script)
  | .text script name arguments =>
    inSubshell runner (begin (name.getD program) arguments options) (runner.script script.toList)
  | .file path arguments =>
    match ← Running.contents path with
    | .error _ => Running.setStatus 2
    | .ok bytes =>
      let script := (Text.Utf8.decodeLossy bytes).toList
      inSubshell runner (begin path arguments options) (runner.script script)

/-- The variables set in front of a program, and the words behind them. -/
def leadingAssignments : List String → List (String × String) × List String
  | [] => ([], [])
  | word :: rest =>
    match Builtin.nameAndValue word with
    | (name, some value) =>
      let (assignments, words) := leadingAssignments rest
      ((name, value) :: assignments, words)
    | (_, none) => ([], word :: rest)

/-- The machine in which variables have values that programs see. -/
def withExported (assignments : List (String × String)) (machine : Machine) : Machine :=
  assignments.foldl (fun machine (name, value) =>
    let others := machine.bindings.filter fun (known, _) => known != name
    Builtin.addExported name { machine with bindings := (name, value) :: others }) machine

/-- The machine in which variables are again what they were. -/
def restoreVariables (names : List String) (before after : Machine) : Machine :=
  let isMeant (name : String) : Bool := names.contains name
  { after with
    bindings :=
      (before.bindings.filter fun (known, _) => isMeant known)
        ++ after.bindings.filter fun (known, _) => !isMeant known
    exported := before.exported.filter isMeant ++ after.exported.filter fun name => !isMeant name }

/-- The words of a text, cut at blanks outside of quotes. The text has fewer than `fuel`
characters. -/
def quotedWords : Nat → Option (List Char) → List Char → List String
  | 0, _, _ => []
  | _, current, [] => (current.map String.ofList).toList
  | fuel + 1, current, c :: rest =>
    let word := current.getD []
    if c = ' ' || c = '\t' || c = '\n' then
      (current.map String.ofList).toList ++ quotedWords fuel none rest
    else if c = '\'' || c = '"' then
      let inner := rest.takeWhile (· != c)
      quotedWords fuel (some (word ++ inner)) (rest.drop (inner.length + 1))
    else if c = '\\' then quotedWords fuel (some (word ++ rest.take 1)) rest.tail
    else quotedWords fuel (some (word ++ [c])) rest

/-- Pieces of a list, each of at most `size` elements. -/
def batches {α : Type} (size : Nat) : Nat → List α → List (List α)
  | 0, _ => []
  | fuel + 1, items =>
    if items.isEmpty then [] else items.take size :: batches size fuel (items.drop size)

def replaced (needle replacement : List Char) : Nat → List Char → List Char
  | 0, text => text
  | fuel + 1, text =>
    match if needle.isEmpty then none else Text.cutAt? needle text with
    | some (before, rest) => before ++ replacement ++ replaced needle replacement fuel rest
    | none => text

def batchOptions : Program.Known where
  flags := "0rtpx".toList
  valued := ['n', 'I', 'L', 'd', 'P', 's', 'a']
  words := [("no-run-if-empty", 'r'), ("max-args", 'n'), ("null", '0')]

/-- The words of standard input that a program is run on. -/
def batchWords (given : Program.Given) : Running (List String) := do
  let text := (Text.Utf8.decodeLossy (← Running.takeInput)).toList
  let cut (divider : Char) : List String :=
    let pieces := Text.split (· == divider) text
    let pieces := if pieces.getLast? = some [] then pieces.dropLast else pieces
    pieces.map String.ofList
  if given.has '0' then return cut (Char.ofNat 0)
  else if let some divider := given.value? 'd' then
    return cut ((Program.listed 8 divider.toList).headD '\n')
  else if given.has 'I' then
    return (cut '\n').filter fun line => !line.toList.all Program.isSpace
  else return quotedWords (text.length + 1) none text

/-- Runs a program on words of standard input. -/
def runBatches (run : List String → Running Unit) (arguments : List String) : Running Unit := do
  match Program.read batchOptions false arguments with
  | none => Running.setStatus 1
  | some given =>
    let words ← batchWords given
    let program := if given.operands.isEmpty then ["echo"] else given.operands
    let calls : List (List String) :=
      match given.value? 'I' with
      | some mark => words.map fun (word : String) =>
        program.map fun (part : String) =>
          String.ofList (replaced mark.toList word.toList (part.length + 1) part.toList)
      | none =>
        let size := ((given.value? 'n').orElse fun _ => given.value? 'L').bind Program.count?
        let parts := batches (size.getD (words.length + 1)) (words.length + 1) words
        let parts := if parts.isEmpty && !given.has 'r' then [[]] else parts
        parts.map (program ++ ·)
    let statuses ← calls.mapM fun call => do
      run call
      return (← get).status
    let worst := if statuses.contains 127 then 127 else if statuses.any (· != 0) then 123 else 0
    Running.setStatus worst

/-- Runs a program for a limited time. -/
def runLimited (milliseconds : Nat) (action : Running Unit) : Running Unit :=
  ExceptT.mk fun machine =>
    let goal := machine.elapsed.milliseconds + milliseconds
    if milliseconds = 0 || machine.limit.milliseconds ≤ goal then action.run.run machine
    else
      match action.run.run { machine with limit := ⟨goal⟩ } with
      | (.error (.ended .unfinished), after) =>
        (.ok (), { after with limit := machine.limit, elapsed := ⟨goal⟩, status := 124 })
      | (result, after) => (result, { after with limit := machine.limit })

def printArguments (arguments : List String) : Running Unit :=
  match arguments with
  | "-n" :: rest => do
    Running.printText (Text.join " " rest).toList
    Running.setStatus 0
  | _ => Running.printLine (Text.join " " arguments)

/-- Runs a program of a name or path, nested at most `fuel` deep in other programs. -/
def runExternal (runner : Runner) : Nat → String → List String → Running Unit
  | 0, _, _ => throw (.ended .unfinished)
  | fuel + 1, name, arguments => do
    let run (words : List String) : Running Unit :=
      match words with
      | [] => Running.setStatus 0
      | name :: arguments => runExternal runner fuel name arguments
    match Program.named? name with
    | some program =>
      match program with
      | "sh" | "dash" | "bash" => inProcess (runShell runner name arguments)
      | "echo" => printArguments arguments
      | "nice" | "nohup" | "setsid" => run (arguments.filter fun text => text != "-n")
      | "stdbuf" => run (arguments.dropWhile fun text => text.toList.head? = some '-')
      | "xargs" => runBatches run arguments
      | "which" =>
        Program.forAll arguments fun name => do
          match Program.named? name with
          | some found =>
            Running.printLine (if found == name then "/usr/bin/" ++ name else name)
            return true
          | none => return false
      | "timeout" =>
        match arguments.dropWhile fun text => text.toList.head? = some '-' with
        | limit :: words =>
          match Program.milliseconds? limit with
          | some milliseconds => runLimited milliseconds (run words)
          | none => Running.setStatus 125
        | [] => Running.setStatus 125
      | "env" =>
        let isBare := arguments.head? = some "-i" || arguments.head? = some "-"
        let given := if isBare then arguments.tail else arguments
        let (assignments, words) := leadingAssignments given
        let clear (machine : Machine) : Machine :=
          if isBare then { machine with exported := [] } else machine
        Running.within (fun machine => withExported assignments (clear machine))
          (fun before after => restoreVariables (assignments.map (·.1))
            before { after with exported := before.exported }) do
          if words.isEmpty then
            let machine ← get
            for (name, value) in machine.bindings.reverse do
              if machine.exported.contains name then Running.printLine s!"{name}={value}"
            Running.setStatus 0
          else run words
      | _ =>
        match Program.find? program with
        | some action => action arguments
        | none => Running.setStatus 127
    | none =>
      if !name.toList.contains '/' then
        let script := (← get).name
        Running.complain s!"{script}: 1: {name}: not found"
        Running.setStatus 127
      else
        let path ← Running.resolve name
        let machine ← get
        match machine.files.find path with
        | .error _ => Running.setStatus 127
        | .ok .directory => Running.setStatus 126
        | .ok (.file _) =>
          let canRun := (machine.files.locate path).toOption.any machine.runnable.contains
          if canRun then inProcess (runShell runner "sh" (name :: arguments))
          else Running.setStatus 126

def programDepth : Nat := 50

/-- How deep named commands may nest. -/
def callLimit : Nat := 1000

/-- Runs the body of a named command with arguments and variables of its own. -/
def callFunction (runner : Runner) (body : Command) (arguments : List String) : Running Unit := do
  if callLimit ≤ (← get).calls then Running.exit 2
  let enter (machine : Machine) : Machine :=
    { machine with arguments, calls := machine.calls + 1, loops := 0, shadowed := [] }
  let leave (before after : Machine) : Machine :=
    let names := after.shadowed.map (·.1)
    { after with
      arguments := before.arguments, calls := before.calls, loops := before.loops
      shadowed := before.shadowed
      bindings :=
        (after.shadowed.filterMap fun (name, value) => value.map fun text => (name, text))
          ++ after.bindings.filter fun (known, _) => !names.contains known }
  Running.within enter leave <| ExceptT.mk fun machine =>
    match (runner.command body).run.run machine with
    | (.error .returned, after) => (.ok (), after)
    | (result, after) => (result, after)

/-- Runs the commands of a file in the script itself. -/
def runSourced (runner : Runner) : List String → Running Unit
  | [] => Running.exit 2
  | path :: _ => do
    if !path.toList.contains '/' then Running.exit 2
    match ← Running.contents path with
    | .error _ => Running.exit 2
    | .ok bytes =>
      Running.setStatus 0
      ExceptT.mk fun machine =>
        match (runner.script (Text.Utf8.decodeLossy bytes).toList).run.run machine with
        | (.error .returned, after) => (.ok (), after)
        | (result, after) => (result, after)

/-- What a command name stands for. -/
inductive Meaning where
  /-- A command of the shell whose errors end the script. -/
  | special (action : Running Unit)
  | function (body : Command)
  | plain (action : Running Unit)

/-- Runs what is to take the place of the script. -/
def replaceBy (runner : Runner) (name : String) (arguments : List String) : Running Unit := do
  if (Program.named? name).isSome || name.toList.contains '/' then
    modify fun machine => { machine with traps := [] }
  runExternal runner programDepth name arguments
  Running.exit (← get).status

/-- What a command name stands for in a script. Without functions, only the shell and programs are
asked. -/
def meaning (runner : Runner) (machine : Machine) (name : String) (arguments : List String) :
    Meaning :=
  match name with
  | "." => .special (runSourced runner arguments)
  | "eval" => .special (runner.script (Text.join " " arguments).toList)
  | "exec" =>
    match arguments with
    | "--" :: name :: rest | name :: rest => .special (replaceBy runner name rest)
    | [] => .special (Running.setStatus 0)
  | _ =>
    match Builtin.special? name, List.lookup name machine.functions, Builtin.plain? name with
    | some action, _, _ => .special (action arguments)
    | none, some body, _ => .function body
    | none, none, some action => .plain (action arguments)
    | none, none, none =>
      match name, arguments with
      | "type", _ => .plain (Builtin.tell true arguments)
      | "command", "-v" :: names => .plain (Builtin.tell false names)
      | "command", "-V" :: names => .plain (Builtin.tell true names)
      | "command", [] => .plain (Running.setStatus 0)
      | "command", "-p" :: name :: rest | "command", "--" :: name :: rest
      | "command", name :: rest => .plain (direct name rest)
      | _, _ => .plain (runExternal runner programDepth name arguments)
where
  /-- Runs a command without asking for functions. -/
  direct (name : String) (arguments : List String) : Running Unit :=
    match name with
    | "." => runSourced runner arguments
    | "eval" => runner.script (Text.join " " arguments).toList
    | _ =>
      match Builtin.special? name, Builtin.plain? name with
      | some action, _ | none, some action => action arguments
      | none, none => runExternal runner programDepth name arguments

/-- Runs a simple command whose words are expanded. -/
def runWords (runner : Runner) (capture : Capture) (assignments : List (String × Word))
    (redirects : List Redirect) : List String → Running Unit
  | [] =>
    Running.within id (restoreChannels (redirects.any isForInput)) do
      if ← applyRedirects capture redirects then
        for (name, value) in assignments do
          Running.setVariable name (← expandText capture value)
        modify fun machine => { machine with status := machine.captured }
      else Running.setStatus 2
  | name :: arguments => do
    let values : Running (List (String × String)) := assignments.mapM fun (name, value) => do
      return (name, ← expandText capture value)
    let ownInput := redirects.any isForInput
    let machine ← get
    match meaning runner machine name arguments with
    | .special action =>
      if name == "exec" && arguments.isEmpty then
        if !(← applyRedirects capture redirects) then Running.exit 2
        Running.setStatus 0
      else
        Running.within id (restoreChannels ownInput) do
          if !(← applyRedirects capture redirects) then Running.exit 2
          for (name, value) in ← values do Running.setVariable name value
          action
    | .function body =>
      Running.within id (restoreChannels ownInput) do
        if ← applyRedirects capture redirects then
          let values ← values
          Running.within (withExported values) (restoreVariables (values.map (·.1)))
            (callFunction runner body arguments)
        else Running.setStatus 2
    | .plain action =>
      Running.within id (restoreChannels ownInput) do
        if ← applyRedirects capture redirects then
          let values ← values
          Running.within (withExported values) (restoreVariables (values.map (·.1))) action
        else Running.setStatus 2

/-- Runs what signals have asked for, at most `fuel` times. -/
def runPending (runner : Runner) : Nat → Running Unit
  | 0 => pure ()
  | fuel + 1 => do
    let machine ← get
    match machine.pending with
    | [] => pure ()
    | text :: rest =>
      set { machine with pending := rest }
      runner.script text.toList
      Running.setStatus machine.status
      runPending runner fuel

def runJob (runner : Runner) (action : Running Unit) : Running Unit := do
  let before ← get
  let number := before.process + 1000 + before.jobs.length
  let far : Duration := ⟨before.elapsed.milliseconds + before.limit.milliseconds + 1⟩
  let ending ← ExceptT.mk fun machine =>
    let change (machine : Machine) : Machine :=
      { machine with input := [], inputIsFile := false, limit := far }
    let part := Running.within id (fun _ after => after) (inSubshell runner change action)
    match part.run.run machine with
    | (.error (.ended (.signal number)), after) =>
      (.ok (Ending.signal number), { after with limit := machine.limit })
    | (.error _, after) => (.ok Ending.unfinished, { after with limit := machine.limit })
    | (.ok (), after) => (.ok (.exit after.status), { after with limit := machine.limit })
  let after ← get
  let job : Job :=
    match ending with
    | .exit status => ⟨number, status, after.elapsed⟩
    | .signal signal => ⟨number, 128 + signal, after.elapsed⟩
    | .unfinished => ⟨number, 0, far⟩
  set { after with
    jobs := job :: before.jobs, elapsed := before.elapsed, status := 0, input := before.input }
  if let .signal signal := ending then throw (.ended (.signal signal))

/-- Runs a command that nests at most `fuel` deep. With `isChecked`, its failure ends a strict
script. -/
def runCommand : Nat → Bool → Command → Running Unit
  | 0, _, _ => throw (.ended .unfinished)
  | fuel + 1, isChecked, command => do
    let runner : Runner :=
      ⟨runParsed (runCommand fuel isChecked), runCommand fuel isChecked⟩
    let capture := captureOf runner
    let simple (assignments : List (String × Word)) (redirects : List Redirect)
        (words : List Word) : Running Unit := do
      modify fun machine => { machine with captured := 0 }
      let texts ← expandWords capture words
      runWords runner capture assignments redirects texts
      runPending runner 100
      checkStatus isChecked
    match command with
    | .nothing => Running.setStatus 0
    | .simple assignments words => simple assignments [] words
    | .define name body => do
      modify fun machine =>
        let others := machine.functions.filter fun (known, _) => known != name
        { machine with functions := (name, body) :: others, status := 0 }
    | .andThen first .nothing => runCommand fuel isChecked first
    | .andThen first second => do
      runCommand fuel isChecked first
      runCommand fuel isChecked second
    | .both first second => do
      runCommand fuel false first
      if (← get).status = 0 then runCommand fuel isChecked second
    | .either first second => do
      runCommand fuel false first
      if (← get).status ≠ 0 then runCommand fuel isChecked second
    | .negate command => do
      runCommand fuel false command
      Running.setSuccess ((← get).status != 0)
    | .pipe first second => do
      let printed ← collecting fun change =>
        inSubshell runner change (runCommand fuel false first)
      let change (machine : Machine) : Machine :=
        { machine with input := printed, inputIsFile := false }
      Running.within change (restoreChannels true)
        (inSubshell runner id (runCommand fuel false second))
      checkStatus isChecked
    | .background command => runJob runner (runCommand fuel false command)
    | .choose condition success failure => do
      runCommand fuel false condition
      if (← get).status = 0 then runCommand fuel isChecked success
      else runCommand fuel isChecked failure
    | .select subject branches => do
      let text := (← expandText capture subject).toList
      let matched ← branches.findM? fun (patterns, _) =>
        patterns.anyM fun word => do
          return Pattern.covers (Pattern.ofGlyphs (← expandWhole capture word)) text
      match matched with
      | some (_, body) => runCommand fuel isChecked body
      | none => Running.setStatus 0
    | .each name words body => do
      let texts ←
        match words with
        | some words => expandWords capture words
        | none => do pure (← get).arguments
      Running.setStatus 0
      inLoop (rounds name (runCommand fuel isChecked body) texts)
    | .loop isUntil condition body => do
      let step (isFirst : Bool) : Running Bool := do
        let before ← get
        let last := if isFirst then 0 else before.status
        let goesOn ← round (runCommand fuel false condition)
        if goesOn && (((← get).status = 0) != isUntil) then
          round (runCommand fuel isChecked body)
        else
          Running.setStatus last
          return false
      inLoop do
        if ← step true then ExceptT.mk (iterate (step false) roundLimit)
    | .subshell body => do
      inSubshell runner id (runCommand fuel isChecked body)
      runPending runner 100
      checkStatus isChecked
    | .redirected redirects (.simple assignments words) => simple assignments redirects words
    | .redirected redirects command => do
      Running.within id (restoreChannels (redirects.any isForInput)) do
        if ← applyRedirects capture redirects then runCommand fuel isChecked command
        else Running.setStatus 2
      checkStatus isChecked

def depth : Nat := 5000

/-- How programs run that nest no deeper than scripts may. -/
def topRunner : Runner := ⟨runParsed (runCommand depth true), runCommand depth true⟩

/-- Runs a program: the shell or another one. -/
def runProgram (invocation : Invocation) : Running Unit :=
  let program := invocation.program.text
  match Program.named? program with
  | some "sh" | some "dash" | some "bash" => runShell topRunner program invocation.arguments
  | _ => runExternal topRunner programDepth program invocation.arguments

def machineFor (invocation : Invocation) (files : FileTree) : Machine where
  files
  process := 1
  directory := invocation.directory
  bindings :=
    [("PATH", "/usr/local/sbin:/usr/local/bin:/usr/sbin:/usr/bin:/sbin:/bin"), ("HOME", "/root"),
      ("PWD", Program.locationText ((files.locate invocation.directory).toOption.getD []))]
  exported := ["PATH", "HOME", "PWD"]
  fixed := []
  functions := []
  calls := 0
  loops := 0
  shadowed := []
  traps := []
  pending := []
  name := invocation.program.text
  arguments := []
  status := 0
  captured := 0
  input := invocation.input
  inputIsFile := false
  sinks := []
  kept := []
  options := []
  jobs := []
  runnable := []
  optionOffset := 0
  elapsed := ⟨0⟩
  limit := invocation.limit

def endingOf : Except Halt Unit × Machine → Ending
  | (.error (.ended ending), _) => ending
  | (_, machine) => .exit machine.status

/-- Fails unless a program can be started: its directory must be there, a name without slashes must
be that of a known program, and no file can be executed. -/
def expectStart (invocation : Invocation) (files : FileTree) : Except FileError Unit := do
  let program := invocation.program
  files.expectDirectory (← files.locate invocation.directory)
  if (Program.named? program.text).isSome then .ok ()
  else if program.pieces.length = 1 then .error .notFound
  else
    let _ ← files.find (invocation.directory / program.text)
    .error .permissionDenied

/-- The host whose programs are the shell and those it knows. A program without any time ends before
it does anything. -/
def host : Host where
  run invocation files :=
    match expectStart invocation files with
    | .error cause => (.error cause, files)
    | .ok () =>
      if invocation.limit.milliseconds = 0 then (.ok .unfinished, files)
      else
        let result := (runProgram invocation).run.run (machineFor invocation files)
        (.ok (endingOf result), result.2.files)

end SourceTrace.Shell
