import SourceTrace.Shell.Machine

/-!
# Signals

A script sends signals to itself and to what it has started. Unless it has said what is to be run
then, or that it ignores the signal, most of them end it.
-/
namespace SourceTrace.Shell.Signal

/-- The number of a signal given by number or name; zero stands for the end of the script. -/
def number? (text : String) : Option Nat :=
  if text != "" && text.toList.all Char.isDigit then
    text.toNat?.bind fun number => if number < 65 then some number else none
  else
    let name := String.ofList (text.toList.map Char.toUpper)
    if name == "EXIT" then some 0 else (signalNames.findIdx? (· == name)).map (· + 1)

/-- Signals that a script does not notice. -/
def isHarmless (number : Nat) : Bool := [0, 17, 18, 23, 28].contains number

/-- Signals that keep a script from going on. -/
def isStopping (number : Nat) : Bool := [19, 20, 21, 22].contains number

/-- Signals that a script always gets. -/
def isCertain (number : Nat) : Bool := number = 9 || number = 19

/-- Sends a signal to a process and tells whether there is one. -/
def send (number : Nat) (process : String) : Running Bool := do
  let machine ← get
  let target := process.toNat?
  if target = some machine.process then
    match if isCertain number then none else List.lookup number machine.traps with
    | some action =>
      if action != "" && number != 0 then
        set { machine with pending := machine.pending ++ [action] }
      return true
    | none =>
      if isHarmless number then return true
      else if isStopping number then throw (.ended .unfinished)
      else throw (.ended (.signal number))
  else if machine.jobs.any fun job => target = some job.number then
    let jobs := machine.jobs.map fun job =>
      if target = some job.number && machine.elapsed.milliseconds < job.ends.milliseconds
          && !isHarmless number then
        { job with status := 128 + number, ends := machine.elapsed }
      else job
    set { machine with jobs }
    return true
  else return false

def sendAll (number : Nat) (processes : List String) : Running Unit := do
  if processes.isEmpty then Running.setStatus 2
  else
    let results ← processes.mapM (send number)
    Running.setSuccess (results.all id)

def kill : List String → Running Unit
  | "-s" :: name :: processes =>
    match number? name with
    | some number => sendAll number processes
    | none => Running.setStatus 2
  | "-l" :: _ => Running.setStatus 0
  | "--" :: processes => sendAll 15 processes
  | first :: processes =>
    match first.toList with
    | '-' :: name =>
      match number? (String.ofList name) with
      | some number => sendAll number processes
      | none => Running.setStatus 2
    | _ => sendAll 15 (first :: processes)
  | [] => Running.setStatus 2

/-- Sets what is to be run when a signal arrives. With `none` the script goes back to what it does
without being told. -/
def setTrap (action : Option String) (number : Nat) : Running Unit :=
  modify fun machine =>
    let others := machine.traps.filter fun (known, _) => known != number
    { machine with traps := (action.map fun text => (number, text)).toList ++ others }

def quoted (text : String) : String :=
  "'" ++ String.ofList (text.toList.flatMap fun c => if c = '\'' then "'\"'\"'".toList else [c])
    ++ "'"

def printTraps : Running Unit := do
  let traps := Sorting.sort (fun (a, _) (b, _) => a ≤ b) (← get).traps
  for (number, action) in traps do
    let name := if number = 0 then "EXIT" else (signalName? number).getD (toString number)
    Running.printLine s!"trap -- {quoted action} {name}"
  Running.setStatus 0

/-- Sets what is to be run when one of several signals arrives. -/
def trapAll (action : Option String) : List String → Running Unit
  | [] => Running.setStatus 0
  | name :: rest =>
    match number? name with
    | some number => do
      setTrap action number
      trapAll action rest
    | none => Running.setStatus 1

/-- Sets what is to be run when signals arrive, as arguments say. -/
def trap : List String → Running Unit
  | "--" :: arguments => trap arguments
  | [] => printTraps
  | [name] => trapAll none [name]
  | first :: names =>
    if first != "" && first.toList.all Char.isDigit then trapAll none (first :: names)
    else trapAll (if first == "-" then none else some first) names

end SourceTrace.Shell.Signal
