import SourceTrace.Shell.Word

/-!
# Tokens of a script

A script is cut into words, operators and redirections. A text that a command reads from the script
itself is cut out together with the redirection that names its end.
-/
namespace SourceTrace.Shell

inductive Token where
  | word (pieces : List Piece)
  | operator (text : String)
  /-- A redirection of a numbered channel; its target is the next word. -/
  | redirect (channel : Option Nat) (text : String)
  /-- A text for standard input. -/
  | document (pieces : List Piece)
  /-- Something that is no token. -/
  | bad
  deriving Repr

/-- The operators other than redirections, those that start with another one first. -/
def operators : List String := ["&&", "||", ";;", ";", "&", "|", "(", ")", "\n"]

/-- The redirections, those that start with another one first. -/
def redirections : List String := [">>", ">&", ">|", "<&", ">", "<"]

/-- The first text of a list that a text starts with, and the rest. -/
def leading? (texts : List String) (text : List Char) : Option (String × List Char) :=
  texts.findSome? fun lead => (Text.after? lead.toList text).map fun rest => (lead, rest)

def channel (text : List Char) : Option Nat × List Char :=
  match text with
  | c :: d :: rest =>
    if c.isDigit && (d = '<' || d = '>') then (some (c.toNat - 48), d :: rest) else (none, text)
  | _ => (none, text)

/-- The characters of a word, whether quoted or not. -/
def plainText : List Piece → List Char
  | [] => []
  | .plain c :: rest => c :: plainText rest
  | .quoted text :: rest => text ++ plainText rest
  | _ :: rest => plainText rest

/-- The lines up to one that is `mark`, and the lines behind it. With `trimmed` the tabs in front of
every line go. -/
def documentLines (mark : List Char) (trimmed : Bool) :
    List (List Char) → List (List Char) × List (List Char)
  | [] => ([], [])
  | line :: rest =>
    let line := if trimmed then line.dropWhile (· == '\t') else line
    if line = mark then ([], rest)
    else
      let (body, rest) := documentLines mark trimmed rest
      (line :: body, rest)

def joinLines : List (List Char) → List Char
  | [] => []
  | [line] => line
  | line :: rest => line ++ '\n' :: joinLines rest

/-- A document behind its redirection: the word that ends it, its body from the next line on, and
the script without both. -/
def document? (trimmed : Bool) (text : List Char) : Option (List Piece × List Char) := do
  let (marker, rest) ← readPieces .bare (text.dropWhile fun c => c == ' ' || c == '\t')
  if marker.isEmpty then none
  else
    match Text.split (· == '\n') rest with
    | [] => none
    | line :: following =>
      let (body, after) := documentLines (plainText marker) trimmed following
      let text := (body.map (· ++ ['\n'])).flatten
      let pieces ←
        if (bareText? marker).isSome then (readPieces .document text).map (·.1)
        else some [.quoted text]
      return (pieces, joinLines (line :: after))

/-- The tokens of a script that is shorter than `fuel`. -/
def tokensWithin : Nat → List Char → List Token
  | 0, _ => [.bad]
  | _, [] => []
  | fuel + 1, c :: rest =>
    if c = ' ' || c = '\t' then tokensWithin fuel rest
    else if c = '#' then tokensWithin fuel (rest.dropWhile (· != '\n'))
    else
      match c, rest with
      | '\\', '\n' :: rest => tokensWithin fuel rest
      | _, _ =>
        match leading? operators (c :: rest) with
        | some (operator, rest) => .operator operator :: tokensWithin fuel rest
        | none =>
          let (number, text) := channel (c :: rest)
          match leading? ["<<-", "<<"] text with
          | some (operator, following) =>
            match document? (operator == "<<-") following with
            | some (body, rest) => .document body :: tokensWithin fuel rest
            | none => [.bad]
          | none =>
            match leading? redirections text with
            | some (operator, rest) => .redirect number operator :: tokensWithin fuel rest
            | none =>
              match readPieces .bare (c :: rest) with
              | some (word, rest) => .word word :: tokensWithin fuel rest
              | none => [.bad]

def tokens (script : List Char) : List Token := tokensWithin (script.length + 1) script

end SourceTrace.Shell
