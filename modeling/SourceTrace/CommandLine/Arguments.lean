import SourceTrace.Path
import SourceTrace.Text.Basic

/-!
# Arguments of the command line

A subcommand declares its options. An option is given by its long or short name, and its value is
the argument behind it; everything else fills the positional arguments in order. Two dashes end the
options, and `help` or `--help` asks for the usage instead of a run.
-/
namespace SourceTrace.CommandLine

inductive Taking where
  /-- Nothing: it is on or off. -/
  | nothing
  /-- One text. -/
  | text
  /-- One number below two to the power of `bits`. -/
  | number (bits : Nat)
  /-- A text each time it is given. -/
  | texts
  deriving DecidableEq, Repr

structure Flag where
  /-- The name behind two dashes. -/
  long : String
  /-- The letter behind one dash. -/
  short : Option Char
  taking : Taking
  /-- Whether it has to be given. -/
  required : Bool
  about : String
  deriving DecidableEq, Repr

structure Subcommand where
  name : String
  about : String
  /-- The positional arguments with their descriptions, all of which have to be given. -/
  positionals : List (String × String)
  flags : List Flag
  deriving DecidableEq, Repr

inductive Complaint where
  | unrecognized (argument : String)
  | missingValue (option : String)
  | badNumber (option value : String)
  | givenTwice (option : String)
  | trailing
  | missing (name : String)
  deriving DecidableEq, Repr

def Complaint.message : Complaint → String
  | .unrecognized argument => s!"Unrecognized argument: {argument}"
  | .missingValue option => s!"No value provided for option '{option}'."
  | .badNumber option value => s!"Error parsing option '{option}' with value '{value}'"
  | .givenTwice option => s!"Duplicate values provided for option '{option}'"
  | .trailing => "Trailing arguments are not allowed after 'help'."
  | .missing name => s!"Required argument not provided: {name}"

structure Given where
  positionals : List String
  /-- The options in the order they were given, under their long names. -/
  options : List (String × String)
  /-- Whether the usage was asked for. -/
  help : Bool
  deriving DecidableEq, Repr

namespace Flag

def isNamedBy (flag : Flag) (argument : String) : Bool :=
  argument == "--" ++ flag.long ||
    match flag.short with
    | some letter => argument == String.ofList ['-', letter]
    | none => false

end Flag

/-- The number of decimal digits, of which there must be one; a plus sign may precede them. -/
def natural? (text : String) : Option Nat :=
  let digits :=
    match text.toList with
    | '+' :: rest => rest
    | all => all
  if digits.isEmpty || !digits.all Char.isDigit then none
  else some (digits.foldl (fun n c => n * 10 + (c.toNat - 48)) 0)

namespace Given

def none : Given := ⟨[], [], false⟩

def has (given : Given) (long : String) : Bool := given.options.any fun (name, _) => name == long

def values (given : Given) (long : String) : List String :=
  given.options.filterMap fun (name, value) => if name == long then some value else Option.none

def value? (given : Given) (long : String) : Option String := (given.values long).head?

def number? (given : Given) (long : String) : Option Nat := (given.value? long).bind natural?

def addOption (given : Given) (flag : Flag) (called value : String) : Except Complaint Given :=
  let added := { given with options := given.options ++ [(flag.long, value)] }
  match flag.taking with
  | .nothing | .texts => .ok added
  | .text => if given.has flag.long then .error (.givenTwice called) else .ok added
  | .number bits =>
    if given.has flag.long then .error (.givenTwice called)
    else
      match natural? value with
      | some n => if n < Nat.pow 2 bits then .ok added else .error (.badNumber called value)
      | Option.none => .error (.badNumber called value)

def addPositional (given : Given) (command : Subcommand) (argument : String) :
    Except Complaint Given :=
  if given.positionals.length < command.positionals.length then
    .ok { given with positionals := given.positionals ++ [argument] }
  else .error (.unrecognized argument)

end Given

def asksForHelp (argument : String) : Bool := argument == "--help" || argument == "help"

def looksLikeOption (argument : String) : Bool := argument.toList.head? == some '-'

namespace Subcommand

/-- Takes in positional arguments only. -/
def scanPositionals (command : Subcommand) (given : Given) (arguments : List String) :
    Except Complaint Given :=
  arguments.foldlM (fun given argument => given.addPositional command argument) given

/-- Takes in arguments from left to right. -/
def scan (command : Subcommand) (given : Given) : List String → Except Complaint Given
  | [] => .ok given
  | argument :: rest =>
    if asksForHelp argument then command.scan { given with help := true } rest
    else if argument == "--" then command.scanPositionals given rest
    else if looksLikeOption argument then
      if given.help then .error .trailing
      else
        match command.flags.find? (·.isNamedBy argument) with
        | none => .error (.unrecognized argument)
        | some flag =>
          if flag.taking = .nothing then do
            let given ← given.addOption flag argument ""
            command.scan given rest
          else
            match rest with
            | [] => .error (.missingValue argument)
            | value :: rest => do
              let given ← given.addOption flag argument value
              command.scan given rest
    else do
      let given ← given.addPositional command argument
      command.scan given rest

/-- Fails unless everything that has to be given is given. -/
def expectComplete (command : Subcommand) (given : Given) : Except Complaint Unit := do
  match command.positionals[given.positionals.length]? with
  | some (name, _) => .error (.missing name)
  | none => .ok ()
  match command.flags.find? fun flag => flag.required && !given.has flag.long with
  | some flag => .error (.missing ("--" ++ flag.long))
  | none => .ok ()

end Subcommand

def verifyCommand : Subcommand where
  name := "verify"
  about := "Run the fixtures of a manifest through a build tool."
  positionals := []
  flags := [
    ⟨"manifest", some 'm', .text, true, "the JSON fixture manifest"⟩,
    ⟨"tool", some 't', .text, true, "the build tool executable"⟩,
    ⟨"tool-arg", none, .texts, false, "an extra argument passed to the build tool (repeatable)"⟩,
    ⟨"work-dir", some 'w', .text, false, "directory for the per-run work directories"⟩,
    ⟨"jobs", some 'j', .number 64, false, "number of concurrent runs, 0 means one per core"⟩,
    ⟨"timeout-secs", none, .number 64, false, "seconds a single build may take"⟩,
    ⟨"keep", none, .nothing, false, "keep the work directories of passing runs"⟩]

def lookupCommand : Subcommand where
  name := "lookup"
  about := "Look up a generated position of an artifact."
  positionals := [("artifact", "the generated file with an attached source map")]
  flags := [
    ⟨"line0", some 'L', .number 32, false, "the 0 indexed line number"⟩,
    ⟨"line", some 'l', .number 32, false, "the 1 indexed line number"⟩,
    ⟨"column0", some 'C', .number 32, false, "the 0 indexed column number"⟩,
    ⟨"column", some 'c', .number 32, false, "the 1 indexed column number"⟩,
    ⟨"track", none, .texts, false,
      "an earlier build output the map should be composed through (repeatable)"⟩,
    ⟨"json", none, .nothing, false, "print the result as JSON"⟩]

def subcommands : List Subcommand := [verifyCommand, lookupCommand]

structure VerifyArguments where
  manifest : Path
  tool : Path
  toolArguments : List String
  workDir : Path
  /-- The number of runs at a time. Runs do not depend on each other, so it changes no answer. -/
  jobs : Nat
  timeoutSeconds : Nat
  keep : Bool
  deriving DecidableEq, Repr

structure LookupArguments where
  artifact : Path
  /-- The line counted from zero, and counted from one. -/
  line0 : Option Nat
  line : Option Nat
  /-- The column counted from zero, and counted from one. -/
  column0 : Option Nat
  column : Option Nat
  /-- The outputs of earlier builds. -/
  track : List Path
  json : Bool
  deriving DecidableEq, Repr

inductive Request where
  | verify (arguments : VerifyArguments)
  | lookup (arguments : LookupArguments)
  /-- The usage of a subcommand, or of the whole program. -/
  | usage (command : Option Subcommand)
  deriving DecidableEq, Repr

def VerifyArguments.ofGiven (given : Given) : VerifyArguments where
  manifest := ⟨(given.value? "manifest").getD ""⟩
  tool := ⟨(given.value? "tool").getD ""⟩
  toolArguments := given.values "tool-arg"
  workDir := ⟨(given.value? "work-dir").getD "/tmp/sourcemap-verify"⟩
  jobs := (given.number? "jobs").getD 0
  timeoutSeconds := (given.number? "timeout-secs").getD 60
  keep := given.has "keep"

/-- The arguments of a look-up. -/
def LookupArguments.ofGiven (given : Given) : LookupArguments where
  artifact := ⟨given.positionals.headD ""⟩
  line0 := given.number? "line0"
  line := given.number? "line"
  column0 := given.number? "column0"
  column := given.number? "column"
  track := (given.values "track").map Path.mk
  json := given.has "json"

/-- The position to look up, counted from zero, if a column is given. A number that counts from zero
goes before one that counts from one, and without any line the first one is meant. -/
def LookupArguments.position? (arguments : LookupArguments) : Option (Nat × Nat) :=
  let line := (arguments.line0.or (arguments.line.map (· - 1))).getD 0
  (arguments.column0.or (arguments.column.map (· - 1))).map fun column => (line, column)

/-- The request of a subcommand for the arguments behind its name. -/
def Subcommand.request (command : Subcommand) (build : Given → Request) (help : Bool)
    (arguments : List String) : Except Complaint Request := do
  let given ← command.scan { Given.none with help } arguments
  if given.help then return .usage (some command)
  command.expectComplete given
  return build given

/-- Reads the arguments in front of the subcommand and hands the rest on. -/
def parseFrom (help : Bool) (optionsEnded : Bool) : List String → Except Complaint Request
  | [] => if help then .ok (.usage none) else .error (.missing "command")
  | argument :: rest =>
    if asksForHelp argument && !optionsEnded then parseFrom true false rest
    else if argument == "--" && !optionsEnded then parseFrom help true rest
    else if looksLikeOption argument && !optionsEnded then
      .error (if help then .trailing else .unrecognized argument)
    else if argument == verifyCommand.name then
      verifyCommand.request (.verify ∘ VerifyArguments.ofGiven) help rest
    else if argument == lookupCommand.name then
      lookupCommand.request (.lookup ∘ LookupArguments.ofGiven) help rest
    else .error (.unrecognized argument)

def parse (arguments : List String) : Except Complaint Request := parseFrom false false arguments

end SourceTrace.CommandLine
