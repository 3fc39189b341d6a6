import SourceTrace.CommandLine.Arguments

/-!
# Usage texts

What `help` prints, derived from the declarations of the subcommands.
-/
namespace SourceTrace.CommandLine

def programName : String := "sourcemap-verify"

/-- A name and what it means, side by side. -/
def entryLine (name about : String) : String :=
  let padding := String.ofList (List.replicate (18 - name.length) ' ')
  s!"  {name}{padding}{about}"

/-- Lines under a title, or nothing if there are none. -/
def titled (title : String) (lines : List String) : List String :=
  if lines.isEmpty then [] else ["", title ++ ":"] ++ lines

namespace Flag

def names (flag : Flag) : String :=
  match flag.short with
  | some letter => String.ofList ['-', letter] ++ ", --" ++ flag.long
  | none => "--" ++ flag.long

/-- An option as it is given, in brackets unless it has to be given. -/
def pattern (flag : Flag) : String :=
  let name :=
    match flag.short with
    | some letter => String.ofList ['-', letter]
    | none => "--" ++ flag.long
  let given :=
    match flag.taking with
    | .nothing => name
    | .texts => s!"{name} <{flag.long}...>"
    | _ => s!"{name} <{flag.long}>"
  if flag.required then given else s!"[{given}]"

end Flag

def helpLine : String := entryLine "--help, help" "display usage information"

def Subcommand.usage (command : Subcommand) : List String :=
  let positionals := command.positionals.map fun (name, _) => s!"<{name}>"
  let patterns := positionals ++ command.flags.map Flag.pattern
  [s!"Usage: {programName} {command.name} " ++ Text.join " " patterns, "", command.about] ++
    titled "Positional Arguments" (command.positionals.map fun (name, about) =>
      entryLine name about) ++
    titled "Options" (command.flags.map (fun flag => entryLine flag.names flag.about) ++ [helpLine])

def usage : List String :=
  [s!"Usage: {programName} <command> [<args>]", "",
    "Utility for verifying the source maps of build tools."] ++ titled "Options" [helpLine] ++
    titled "Commands" (subcommands.map fun command => entryLine command.name command.about)

end SourceTrace.CommandLine
