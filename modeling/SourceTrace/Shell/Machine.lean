import SourceTrace.Process
import SourceTrace.Shell.Command
import SourceTrace.Shell.Pattern

/-!
# The machine that runs scripts

What a running script sees and changes: files, variables, named commands, standard input, the
channels it prints to, and the time that has passed. Nothing is written anywhere but to the files.
-/
namespace SourceTrace.Shell

inductive Sink where
  | nowhere
  | file (path : Path)
  /-- Kept for whoever asked for the output. -/
  | kept
  deriving DecidableEq, Repr

/-- Something that was started without waiting for it. -/
structure Job where
  number : Nat
  status : Nat
  ends : Duration
  deriving DecidableEq, Repr

structure Machine where
  files : FileTree
  /-- The number of the process that runs the script. -/
  process : Nat
  /-- The directory that relative paths start from. -/
  directory : Path
  /-- The variables with their values. -/
  bindings : List (String × String)
  /-- The variables that programs see. -/
  exported : List String
  /-- The variables that cannot be changed. -/
  fixed : List String
  /-- The commands that the script has named. -/
  functions : List (String × Command)
  /-- How many named commands run inside one another. -/
  calls : Nat
  /-- How many loops run inside one another. -/
  loops : Nat
  /-- The variables that a named command has for itself, with what they held before. -/
  shadowed : List (String × Option String)
  /-- What is to be run when a signal arrives, or, for number zero, at the end. -/
  traps : List (Nat × String)
  /-- What signals have asked to run. -/
  pending : List String
  /-- The name of the script and its arguments. -/
  name : String
  arguments : List String
  /-- The status of the last command. -/
  status : Nat
  /-- The status of the last script whose output became part of a command. -/
  captured : Nat
  input : List UInt8
  /-- Whether standard input is a file. -/
  inputIsFile : Bool
  /-- Where the numbered channels lead. -/
  sinks : List (Nat × Sink)
  kept : List UInt8
  /-- The letters of the options that are on. -/
  options : List Char
  /-- What was started without waiting for it, the last first. -/
  jobs : List Job
  /-- The files that can be run as scripts. -/
  runnable : List Location
  /-- How many letters of an argument have been read as options. -/
  optionOffset : Nat
  elapsed : Duration
  limit : Duration
  deriving Repr

namespace Machine

/-- Whether a command that fails ends the script. -/
def isStrict (machine : Machine) : Bool := machine.options.contains 'e'

def sink (machine : Machine) (channel : Nat) : Sink :=
  (List.lookup channel machine.sinks).getD .nowhere

def withSink (machine : Machine) (channel : Nat) (sink : Sink) : Machine :=
  { machine with
    sinks := (channel, sink) :: machine.sinks.filter fun (known, _) => known != channel }

/-- The machine with a channel closed. The first two stay and lead nowhere. -/
def withoutSink (machine : Machine) (channel : Nat) : Machine :=
  if channel ≤ 2 then machine.withSink channel .nowhere
  else { machine with sinks := machine.sinks.filter fun (known, _) => known != channel }

def withOption (machine : Machine) (isOn : Bool) (letter : Char) : Machine :=
  let others := machine.options.filter (· != letter)
  { machine with options := if isOn then letter :: others else others }

end Machine

/-- What ends a command before its end. -/
inductive Halt where
  | ended (ending : Ending)
  /-- A number of loops ends, or, with `again`, the last of them goes on with its next round. -/
  | unwind (again : Bool) (count : Nat)
  /-- A named command or a file of commands ends. -/
  | returned
  deriving DecidableEq, Repr

/-- A step of a script. -/
abbrev Running (α : Type) := ExceptT Halt (StateM Machine) α

namespace Running

def setStatus (status : Nat) : Running Unit := modify fun machine => { machine with status }

def setSuccess (success : Bool) : Running Unit := setStatus (if success then 0 else 1)

def exit {α : Type} (status : Nat) : Running α := throw (.ended (.exit (status % 256)))

/-- Does something with a changed machine and afterwards restores a part of it, however it ended. -/
def within {α : Type} (change : Machine → Machine) (restore : Machine → Machine → Machine)
    (action : Running α) : Running α :=
  ExceptT.mk fun before =>
    let (result, after) := action.run.run (change before)
    (result, restore before after)

/-- Lets time pass. A script that has used up its time ends. -/
def wait (milliseconds : Nat) : Running Unit := do
  let machine ← get
  let elapsed : Duration := ⟨machine.elapsed.milliseconds + milliseconds⟩
  set { machine with elapsed }
  if machine.limit.milliseconds ≤ elapsed.milliseconds then throw (.ended .unfinished)

/-- A path as seen from the directory of the script. -/
def resolve (text : String) : Running Path := do
  let machine ← get
  return if text == "" then ⟨""⟩ else machine.directory / text

/-- Whether a path is that of the file which takes everything and holds nothing. -/
def isVoid (path : Path) : Bool := path.text == "/dev/null"

/-- Changes the files unless that fails. -/
def attempt (step : FileTree → Except FileError FileTree) : Running (Option FileError) := do
  let machine ← get
  match step machine.files with
  | .ok files =>
    set { machine with files }
    return none
  | .error cause => return some cause

/-- Changes the files if that is possible and tells whether it was. -/
def change (step : FileTree → Except FileError FileTree) : Running Bool := do
  return (← attempt step).isNone

/-- The bytes of a file, or why there are none. -/
def contents (text : String) : Running (Except FileError (List UInt8)) := do
  let path ← resolve text
  let machine ← get
  return if isVoid path then .ok [] else machine.files.read path

def read? (text : String) : Running (Option (List UInt8)) := do
  return (← contents text).toOption

def write (path : Path) (bytes : List UInt8) : Running Bool :=
  if isVoid path then pure true else change fun files => files.write path bytes

/-- Prints bytes to a channel. What is printed into a file that is gone is lost. -/
def printTo (channel : Nat) (bytes : List UInt8) : Running Unit := do
  let machine ← get
  match machine.sink channel with
  | .nowhere => return
  | .kept => set { machine with kept := machine.kept ++ bytes }
  | .file path =>
    match machine.files.read path with
    | .ok old => discard (write path (old ++ bytes))
    | .error _ => return

def print (bytes : List UInt8) : Running Unit := printTo 1 bytes

def complain (text : String) : Running Unit := printTo 2 (Text.Utf8.bytes (text ++ "\n"))

def printText (text : List Char) : Running Unit := print (Text.Utf8.bytes (String.ofList text))

def printLine (text : String) : Running Unit := do
  printText (text.toList ++ ['\n'])
  setStatus 0

def takeInput : Running (List UInt8) := do
  let machine ← get
  set { machine with input := [] }
  return machine.input

/-- Gives a variable a value. One that cannot be changed ends the script. -/
def setVariable (name value : String) : Running Unit := do
  let machine ← get
  if machine.fixed.contains name then exit 2
  let others := machine.bindings.filter fun (known, _) => known != name
  let exported :=
    if machine.options.contains 'a' && !machine.exported.contains name then
      name :: machine.exported
    else machine.exported
  set { machine with bindings := (name, value) :: others, exported }

def forgetVariable (name : String) : Running Unit := do
  if (← get).fixed.contains name then exit 2
  modify fun machine =>
    { machine with
      bindings := machine.bindings.filter fun (known, _) => known != name
      exported := machine.exported.filter (· != name) }

end Running

end SourceTrace.Shell
