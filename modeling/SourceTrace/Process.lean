import SourceTrace.FileTree

/-!
# Processes

What it takes to run a program and how programs end. A host is whoever can run programs; it sees the
files and leaves them changed.
-/
namespace SourceTrace

structure Invocation where
  program : Path
  arguments : List String
  /-- The directory the program runs in, to which its paths are relative. -/
  directory : Path
  /-- The bytes on its standard input. -/
  input : List UInt8
  /-- The time it has. -/
  limit : Duration
  deriving DecidableEq, Repr

inductive Ending where
  /-- By itself, with a status. -/
  | exit (status : Nat)
  /-- By a signal. -/
  | signal (number : Nat)
  /-- Not at all within its time. -/
  | unfinished
  deriving DecidableEq, Repr

/-- The names of the signals from one on. -/
def signalNames : List String :=
  ["HUP", "INT", "QUIT", "ILL", "TRAP", "ABRT", "BUS", "FPE", "KILL", "USR1", "SEGV", "USR2",
    "PIPE", "ALRM", "TERM", "STKFLT", "CHLD", "CONT", "STOP", "TSTP", "TTIN", "TTOU", "URG",
    "XCPU", "XFSZ", "VTALRM", "PROF", "WINCH", "IO", "PWR", "SYS"]

def signalName? (number : Nat) : Option String :=
  if number = 0 then none else signalNames[number - 1]?

namespace Ending

def succeeded (ending : Ending) : Bool := ending = .exit 0

/-- How the end of a program is told. -/
def text : Ending → String
  | .exit status => s!"exit status: {status}"
  | .signal number =>
    match signalName? number with
    | some name => s!"signal: {number} (SIG{name})"
    | none => s!"signal: {number}"
  | .unfinished => "no status"

end Ending

/-- Whoever runs programs. A program that cannot be started leaves the files as they are. -/
structure Host where
  run : Invocation → FileTree → Except FileError Ending × FileTree

end SourceTrace
