import SourceTrace.Shell.Token

/-!
# Commands of a script

The commands that a script consists of, and how they are read from its tokens.
-/
namespace SourceTrace.Shell

abbrev Word := List Piece

inductive Redirect where
  /-- Standard input comes from a file. -/
  | input (source : Word)
  /-- Standard input is a text of the script. -/
  | document (body : Word)
  /-- A channel goes into a file, from its start or behind what it holds. -/
  | output (channel : Nat) (append : Bool) (target : Word)
  /-- A channel goes where another one goes. -/
  | duplicate (channel : Nat) (target : Word)
  deriving Repr

inductive Command where
  /-- Values for variables, and a command name with its arguments. -/
  | simple (assignments : List (String × Word)) (words : List Word)
  /-- One after the other. -/
  | andThen (first second : Command)
  /-- The second if the first succeeds. -/
  | both (first second : Command)
  /-- The second if the first fails. -/
  | either (first second : Command)
  | negate (command : Command)
  /-- The second reads what the first prints. -/
  | pipe (first second : Command)
  /-- Without waiting for it. -/
  | background (command : Command)
  | choose (condition success failure : Command)
  /-- The first branch with a pattern that matches. -/
  | select (subject : Word) (branches : List (List Word × Command))
  /-- Once for every word, or for every argument of the script. -/
  | each (variableName : String) (words : Option (List Word)) (body : Command)
  /-- As long as the condition succeeds, or fails. -/
  | loop (isUntil : Bool) (condition body : Command)
  /-- With variables of its own. -/
  | subshell (body : Command)
  /-- Gives a command a name. -/
  | define (name : String) (body : Command)
  | redirected (redirects : List Redirect) (command : Command)
  | nothing
  deriving Repr

namespace Parser

/-- A word that is reserved where a command starts. -/
def reserved? : Token → Option String
  | .word pieces => (bareText? pieces).map String.ofList
  | _ => none

/-- Whether the next token is a reserved word or an operator of a list. -/
def isNext (texts : List String) : List Token → Bool
  | .operator text :: _ => texts.contains text
  | token :: _ =>
    match reserved? token with
    | some text => texts.contains text
    | none => false
  | [] => false

/-- The tokens behind a reserved word or an operator that must come next. -/
def expect (text : String) (tokens : List Token) : Option (List Token) :=
  if isNext [text] tokens then some tokens.tail else none

def skipLines (tokens : List Token) : List Token :=
  tokens.dropWhile fun token =>
    match token with
    | .operator text => text == "\n"
    | _ => false

def assignment? (word : Word) : Option (String × Word) :=
  let lead := word.takeWhile fun piece =>
    match piece with
    | .plain c => isNameCharacter c
    | _ => false
  match bareText? lead, word.drop lead.length with
  | some (c :: name), .plain '=' :: value =>
    if isNameStart c then some (String.ofList (c :: name), value) else none
  | _, _ => none

def redirect (channel : Option Nat) (operator : String) (target : Word) : Redirect :=
  match operator with
  | "<" => .input target
  | ">>" => .output (channel.getD 1) true target
  | ">&" => .duplicate (channel.getD 1) target
  | "<&" => .duplicate (channel.getD 0) target
  | _ => .output (channel.getD 1) false target

def redirect? : List Token → Option (Redirect × List Token)
  | .redirect channel operator :: .word target :: rest =>
    some (redirect channel operator target, rest)
  | .document body :: rest => some (.document body, rest)
  | _ => none

structure Parts where
  assignments : List (String × Word)
  words : List Word
  redirects : List Redirect

/-- Reads a simple command. -/
def parts (found : Parts) : List Token → Parts × List Token
  | .word word :: rest =>
    match if found.words.isEmpty then assignment? word else none with
    | some assignment =>
      parts { found with assignments := found.assignments ++ [assignment] } rest
    | none => parts { found with words := found.words ++ [word] } rest
  | .redirect channel operator :: .word target :: rest =>
    parts { found with redirects := found.redirects ++ [redirect channel operator target] } rest
  | .document body :: rest =>
    parts { found with redirects := found.redirects ++ [.document body] } rest
  | tokens => (found, tokens)

def redirects : Nat → List Token → List Redirect × List Token
  | 0, tokens => ([], tokens)
  | fuel + 1, tokens =>
    match redirect? tokens with
    | some (first, rest) =>
      let (more, rest) := redirects fuel rest
      (first :: more, rest)
    | none => ([], tokens)

def withRedirects (found : List Redirect) (command : Command) : Command :=
  if found.isEmpty then command else .redirected found command

/-- Reads words up to the end of a line. -/
def wordsToEnd : List Token → List Word × List Token
  | .word word :: rest =>
    let (words, rest) := wordsToEnd rest
    (word :: words, rest)
  | tokens => ([], tokens)

def patterns : List Token → Option (List Word × List Token)
  | .word word :: .operator "|" :: rest => do
    let (more, rest) ← patterns rest
    return (word :: more, rest)
  | .word word :: .operator ")" :: rest => some ([word], rest)
  | _ => none

/-- The name that a command is given, if one comes next. -/
def definition? : List Token → Option (String × List Token)
  | .word word :: .operator "(" :: .operator ")" :: rest => do
    let name ← bareText? word
    if name.all isNameCharacter && (name.head?).any isNameStart then
      some (String.ofList name, rest)
    else none
  | _ => none

/-- The words that end a list of commands. -/
def closers : List String :=
  ["then", "else", "elif", "fi", "do", "done", "esac", "\x7d", ")", ";;"]

mutual
/-- Reads commands up to a word that closes them. -/
def list : Nat → List Token → Option (Command × List Token)
  | 0, _ => none
  | fuel + 1, tokens => do
    let tokens := skipLines tokens
    if tokens.isEmpty || isNext closers tokens then return (.nothing, tokens)
    let (first, rest) ← chain fuel tokens
    match rest with
    | .operator "&" :: rest => do
      let (more, rest) ← list fuel rest
      return (.andThen (.background first) more, rest)
    | .operator ";" :: rest | .operator "\n" :: rest => do
      let (more, rest) ← list fuel rest
      return (.andThen first more, rest)
    | rest => if rest.isEmpty || isNext closers rest then return (first, rest) else none

/-- Reads pipelines that depend on one another. -/
def chain : Nat → List Token → Option (Command × List Token)
  | 0, _ => none
  | fuel + 1, tokens => do
    let (first, rest) ← pipeline fuel tokens
    links fuel first rest

/-- Reads what follows a pipeline that another one may depend on. -/
def links : Nat → Command → List Token → Option (Command × List Token)
  | 0, _, _ => none
  | fuel + 1, first, .operator "&&" :: rest => do
    let (second, rest) ← pipeline fuel (skipLines rest)
    links fuel (.both first second) rest
  | fuel + 1, first, .operator "||" :: rest => do
    let (second, rest) ← pipeline fuel (skipLines rest)
    links fuel (.either first second) rest
  | _, first, rest => some (first, rest)

/-- Reads commands that read from one another. -/
def pipeline : Nat → List Token → Option (Command × List Token)
  | 0, _ => none
  | fuel + 1, tokens =>
    if isNext ["!"] tokens then do
      let (command, rest) ← pipeline fuel tokens.tail
      return (.negate command, rest)
    else do
      let (first, rest) ← command fuel tokens
      match rest with
      | .operator "|" :: rest => do
        let (second, rest) ← pipeline fuel (skipLines rest)
        return (.pipe first second, rest)
      | rest => return (first, rest)

def command : Nat → List Token → Option (Command × List Token)
  | 0, _ => none
  | fuel + 1, tokens =>
    if isNext ["if", "case", "for", "while", "until", "\x7b", "("] tokens then do
      let (body, rest) ← compound fuel tokens
      let (found, rest) := redirects fuel rest
      return (withRedirects found body, rest)
    else if isNext closers tokens then none
    else
      match definition? tokens with
      | some (name, rest) => do
        let (body, rest) ← command fuel (skipLines rest)
        return (.define name body, rest)
      | none =>
        let (found, rest) := parts ⟨[], [], []⟩ tokens
        if found.assignments.isEmpty && found.words.isEmpty && found.redirects.isEmpty then none
        else some (withRedirects found.redirects (.simple found.assignments found.words), rest)

def compound : Nat → List Token → Option (Command × List Token)
  | 0, _ => none
  | _, [] => none
  | fuel + 1, opener :: tokens => do
    let opening := match opener with
      | .operator text => text
      | token => (reserved? token).getD ""
    match opening with
    | "if" => conditional fuel tokens
    | "case" =>
      match tokens with
      | .word subject :: rest => do
        let rest ← expect "in" (skipLines rest)
        let (found, rest) ← branches fuel (skipLines rest)
        return (.select subject found, rest)
      | _ => none
    | "for" =>
      match tokens with
      | .word name :: rest => do
        let name ← bareText? name
        let rest := skipLines rest
        let (words, rest) :=
          if isNext ["in"] rest then
            let (words, rest) := wordsToEnd rest.tail
            (some words, rest)
          else (none, rest)
        let rest := if isNext [";"] rest then rest.tail else rest
        let (body, rest) ← loopBody fuel (skipLines rest)
        return (.each (String.ofList name) words body, rest)
      | _ => none
    | "while" | "until" => do
      let (condition, rest) ← list fuel tokens
      let (body, rest) ← loopBody fuel rest
      return (.loop (opening == "until") condition body, rest)
    | "\x7b" => do
      let (body, rest) ← list fuel tokens
      let rest ← expect "\x7d" rest
      return (body, rest)
    | _ => do
      let (body, rest) ← list fuel tokens
      let rest ← expect ")" rest
      return (.subshell body, rest)

def loopBody : Nat → List Token → Option (Command × List Token)
  | 0, _ => none
  | fuel + 1, tokens => do
    let tokens ← expect "do" tokens
    let (body, rest) ← list fuel tokens
    let rest ← expect "done" rest
    return (body, rest)

def conditional : Nat → List Token → Option (Command × List Token)
  | 0, _ => none
  | fuel + 1, tokens => do
    let (condition, rest) ← list fuel tokens
    let rest ← expect "then" rest
    let (success, rest) ← list fuel rest
    if isNext ["elif"] rest then
      let (failure, rest) ← conditional fuel rest.tail
      return (.choose condition success failure, rest)
    else if isNext ["else"] rest then
      let (failure, rest) ← list fuel rest.tail
      let rest ← expect "fi" rest
      return (.choose condition success failure, rest)
    else
      let rest ← expect "fi" rest
      return (.choose condition success .nothing, rest)

/-- Reads the branches of a selection up to its end. -/
def branches : Nat → List Token → Option (List (List Word × Command) × List Token)
  | 0, _ => none
  | fuel + 1, tokens =>
    if isNext ["esac"] tokens then some ([], tokens.tail)
    else do
      let tokens := if isNext ["("] tokens then tokens.tail else tokens
      let (words, rest) ← patterns tokens
      let (body, rest) ← list fuel rest
      if isNext [";;"] rest then
        let (more, rest) ← branches fuel (skipLines rest.tail)
        return ((words, body) :: more, rest)
      else
        let rest ← expect "esac" rest
        return ([(words, body)], rest)
end

/-- Reads the commands of one line, which may go on over the next ones. -/
def line : Nat → List Token → Option (List Command × List Token)
  | 0, _ => none
  | _, [] => some ([], [])
  | _, .operator "\n" :: rest => some ([], rest)
  | fuel + 1, tokens => do
    let (first, rest) ← chain (8 * tokens.length + 8) tokens
    match rest with
    | [] => return ([first], [])
    | .operator "\n" :: rest => return ([first], rest)
    | .operator ";" :: rest =>
      let (more, rest) ← line fuel rest
      return (first :: more, rest)
    | .operator "&" :: rest =>
      let (more, rest) ← line fuel rest
      return (.background first :: more, rest)
    | _ => none

/-- Reads a script line by line. The flag says whether all of it could be read; the lines in front
of a faulty one are run all the same. -/
def lines : Nat → List Token → List Command × Bool
  | 0, _ => ([], false)
  | fuel + 1, tokens =>
    match skipLines tokens with
    | [] => ([], true)
    | tokens =>
      match line (tokens.length + 1) tokens with
      | none => ([], false)
      | some (first, rest) =>
        let (more, complete) := lines fuel rest
        (first ++ more, complete)

end Parser

/-- The commands of a script, and whether all of it could be read. -/
def parse (script : List Char) : List Command × Bool :=
  let tokens := tokens script
  Parser.lines (tokens.length + 1) tokens

end SourceTrace.Shell
