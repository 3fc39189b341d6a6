import SourceTrace.Shell.Lines

/-!
# Options of programs

Options are letters behind a minus sign or words behind two of them, and may stand between operands.
Some of them take a value, which follows at once or as the next argument.
-/
namespace SourceTrace.Shell.Program

structure Known where
  /-- Letters without a value. -/
  flags : List Char
  /-- Letters with a value. -/
  valued : List Char
  /-- Words that mean the same as letters. -/
  words : List (String × Char)

structure Given where
  options : List (Char × String)
  operands : List String

namespace Given

def none : Given := ⟨[], []⟩

def has (given : Given) (letter : Char) : Bool := given.options.any fun (known, _) => known = letter

def value? (given : Given) (letter : Char) : Option String :=
  (given.options.reverse.find? fun (known, _) => known = letter).map (·.2)

def values (given : Given) (letter : Char) : List String :=
  (given.options.filter fun (known, _) => known = letter).map (·.2)

/-- With options in front of the others. -/
def add (options : List (Char × String)) (given : Given) : Given :=
  { given with options := options ++ given.options }

end Given

/-- The options of letters that stand together; the last of them may still want a value. -/
def cluster (known : Known) : List Char → Option (List (Char × String) × Option Char)
  | [] => some ([], none)
  | letter :: rest =>
    if known.valued.contains letter then
      if rest.isEmpty then some ([], some letter)
      else some ([(letter, String.ofList rest)], none)
    else if known.flags.contains letter then do
      let (options, wanting) ← cluster known rest
      return ((letter, "") :: options, wanting)
    else none

/-- The option of a word; it may still want a value. -/
def worded (known : Known) (word : List Char) : Option (List (Char × String) × Option Char) :=
  match Text.cutAt? ['='] word with
  | some (name, value) => do
    let letter ← List.lookup (String.ofList name) known.words
    if known.valued.contains letter then some ([(letter, String.ofList value)], none) else none
  | none => do
    let letter ← List.lookup (String.ofList word) known.words
    if known.valued.contains letter then some ([], some letter) else some ([(letter, "")], none)

inductive Kind where
  | operand
  /-- The end of all options. -/
  | divider
  /-- Options, of which the last may want the next argument. -/
  | options (found : List (Char × String)) (wanting : Option Char)
  | unknown

def kind (known : Known) (argument : String) : Kind :=
  let ofOptions (found : Option (List (Char × String) × Option Char)) : Kind :=
    match found with
    | some (options, wanting) => .options options wanting
    | none => .unknown
  match argument.toList with
  | ['-', '-'] => .divider
  | '-' :: '-' :: word => ofOptions (worded known word)
  | '-' :: c :: rest => ofOptions (cluster known (c :: rest))
  | _ => .operand

/-- Reads arguments, the first of which may be wanted as a value. With `isMixed`, options may also
stand behind operands. The result is `none` if there is an unknown option. -/
def readFrom (known : Known) (isMixed : Bool) (wanting : Option Char) :
    List String → Option Given
  | [] => if wanting.isSome then none else some .none
  | argument :: rest =>
    match wanting with
    | some letter =>
      (readFrom known isMixed none rest).map (Given.add [(letter, argument)])
    | none =>
      match kind known argument with
      | .unknown => none
      | .divider => some ⟨[], rest⟩
      | .options found wanting =>
        (readFrom known isMixed wanting rest).map (Given.add found)
      | .operand =>
        if isMixed then
          (readFrom known isMixed none rest).map fun given =>
            { given with operands := argument :: given.operands }
        else some ⟨[], argument :: rest⟩

def read (known : Known) (isMixed : Bool) (arguments : List String) : Option Given :=
  readFrom known isMixed none arguments

/-- Reads arguments of a program that knows only letters. -/
def letters (flags : String) (arguments : List String) : Option Given :=
  read ⟨flags.toList, [], []⟩ true arguments

/-- Does something for every operand; the whole succeeds if all of it does. -/
def forAll (operands : List String) (action : String → Running Bool) : Running Unit := do
  let results ← operands.mapM action
  Running.setSuccess (results.all id)

/-- Why something could not be done with a file. -/
def reason : FileError → String
  | .notFound => "No such file or directory"
  | .permissionDenied => "Permission denied"
  | .alreadyExists => "File exists"
  | .notADirectory => "Not a directory"
  | .isADirectory => "Is a directory"
  | cause => cause.message

/-- The bytes of an operand, in which a minus sign stands for standard input. -/
def operandBytes (operand : String) : Running (Except FileError (List UInt8)) := do
  if operand == "-" then return .ok (← Running.takeInput) else Running.contents operand

/-- The texts of operands, or of standard input if there are none, and whether all of them could be
read. What could not is told behind the name of the program. -/
def inputs (program : String) (operands : List String) :
    Running (List (String × List Char) × Bool) := do
  let names := if operands.isEmpty then ["-"] else operands
  let results ← names.mapM fun name => do
    match ← operandBytes name with
    | .ok bytes => return some (name, characters bytes)
    | .error cause =>
      Running.complain s!"{program}{name}: {reason cause}"
      return none
  return (results.filterMap id, results.all Option.isSome)

/-- A program that turns all of its input into output. -/
def filtering (program : String) (operands : List String) (change : List Char → List Char) :
    Running Unit := do
  let (texts, isComplete) ← inputs (program ++ ": ") operands
  Running.printCharacters (change (texts.flatMap (·.2)))
  Running.setSuccess isComplete

def count? (text : String) : Option Nat :=
  if text != "" && text.toList.all Char.isDigit then text.toNat? else none

end SourceTrace.Shell.Program
