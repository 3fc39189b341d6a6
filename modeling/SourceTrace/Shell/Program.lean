import SourceTrace.Shell.Condition
import SourceTrace.Shell.Format
import SourceTrace.Shell.Program.Files
import SourceTrace.Shell.Program.Grep
import SourceTrace.Shell.Program.Numbers
import SourceTrace.Shell.Program.Sed
import SourceTrace.Shell.Signal

/-!
# Programs

The programs that scripts call by name and that run no other programs themselves.
-/
namespace SourceTrace.Shell.Program

def echo (arguments : List String) : Running Unit := do
  let (isOpen, arguments) :=
    match arguments with
    | "-n" :: rest => (true, rest)
    | all => (false, all)
  let (bytes, goesOn) := Format.unescaped (Text.join " " arguments)
  Running.print (if isOpen || !goesOn then bytes else bytes ++ [10])
  Running.setStatus 0

def printf : List String → Running Unit
  | [] | ["--"] => Running.setStatus 2
  | "--" :: format :: arguments => fill format arguments
  | format :: arguments =>
    if format.toList.head? = some '-' && format != "-" then Running.setStatus 2
    else fill format arguments
where
  /-- Prints a format. -/
  fill (format : String) (arguments : List String) : Running Unit := do
    let (bytes, status) := Format.fill format arguments
    Running.print bytes
    Running.setStatus status

def milliseconds? (text : String) : Option Nat := do
  let letters := text.toList
  let (digits, unit) :=
    match letters.getLast? with
    | some 's' => (letters.dropLast, 1)
    | some 'm' => (letters.dropLast, 60)
    | some 'h' => (letters.dropLast, 3600)
    | some 'd' => (letters.dropLast, 86400)
    | _ => (letters, 1)
  let whole := digits.takeWhile Char.isDigit
  let fraction ←
    match digits.drop whole.length with
    | [] => some []
    | '.' :: rest => some rest
    | _ => none
  if (whole ++ fraction).isEmpty || !fraction.all Char.isDigit then none
  else
    let number (digits : List Char) := digits.foldl (fun n c => n * 10 + (c.toNat - 48)) 0
    return (number whole * 1000 + number ((fraction ++ ['0', '0', '0']).take 3)) * unit

def sleep (arguments : List String) : Running Unit := do
  match arguments.mapM milliseconds? with
  | some (first :: rest) => do
    Running.wait (rest.foldl (· + ·) first)
    Running.setStatus 0
  | _ => Running.setStatus 1

def find? : String → Option (List String → Running Unit)
  | "true" => some fun _ => Running.setStatus 0
  | "false" => some fun _ => Running.setStatus 1
  | "echo" => some echo
  | "printf" => some printf
  | "test" => some test
  | "[" => some fun arguments =>
    if arguments.getLast? == some "]" then test arguments.dropLast else Running.setStatus 2
  | "kill" => some Signal.kill
  | "sleep" => some sleep
  | "cat" => some cat
  | "cp" => some cp
  | "mv" => some mv
  | "ln" => some ln
  | "install" => some install
  | "rm" => some rm
  | "mkdir" => some mkdir
  | "rmdir" => some rmdir
  | "touch" => some touch
  | "chmod" => some chmod
  | "tee" => some tee
  | "dd" => some dd
  | "stat" => some stat
  | "truncate" => some truncate
  | "ls" => some ls
  | "basename" => some basename
  | "dirname" => some dirname
  | "realpath" => some realpath
  | "readlink" => some readlink
  | "pwd" => some pwd
  | "cmp" => some cmp
  | "diff" => some diff
  | "base64" => some base64
  | "find" => some findPaths
  | "head" => some head
  | "tail" => some tail
  | "wc" => some wc
  | "tr" => some tr
  | "sort" => some sort
  | "uniq" => some uniq
  | "cut" => some cut
  | "tac" => some tac
  | "rev" => some rev
  | "nl" => some nl
  | "fold" => some fold
  | "paste" => some paste
  | "grep" => some grep
  | "egrep" => some egrep
  | "fgrep" => some fgrep
  | "sed" => some sed
  | "seq" => some seq
  | "expr" => some expr
  | "uname" => some fun _ => Running.printLine "Linux"
  | "sync" => some fun _ => Running.setStatus 0
  | _ => none

/-- The programs that run others or ask for them. -/
def runners : List String :=
  ["sh", "dash", "bash", "env", "xargs", "timeout", "nice", "nohup", "stdbuf", "setsid",
    "which"]

def isKnown (name : String) : Bool := runners.contains name || (find? name).isSome

def directories : List String := ["/bin/", "/usr/bin/"]

/-- The name of the program that a text leads to: itself, or what is behind the directory it is
in. -/
def named? (text : String) : Option String :=
  if !text.toList.contains '/' then if isKnown text then some text else none
  else
    directories.findSome? fun dir =>
      match Text.after? dir.toList text.toList with
      | some name => if isKnown (String.ofList name) then some (String.ofList name) else none
      | none => none

end SourceTrace.Shell.Program
