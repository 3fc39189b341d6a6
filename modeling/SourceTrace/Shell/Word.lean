import SourceTrace.Text.Basic

/-!
# Words of a script

A word is read into pieces: characters that stand for themselves, values of parameters, results of
arithmetic, and the output of other scripts. Every piece knows whether it was quoted, because only
unquoted text is cut at blanks and only unquoted stars match files.
-/
namespace SourceTrace.Shell

/-- What is done to the value of a parameter. -/
inductive Edit where
  | keep
  /-- The number of its characters. -/
  | count
  /-- The operand if there is no value, or, with `orEmpty`, an empty one. -/
  | instead (orEmpty : Bool)
  /-- The operand, which also becomes the value, if there is none. -/
  | assign (orEmpty : Bool)
  /-- No going on if there is no value. -/
  | require (orEmpty : Bool)
  /-- The operand if there is a value. -/
  | whenGiven (orEmpty : Bool)
  /-- Without what the operand matches at the start. -/
  | dropStart (longest : Bool)
  /-- Without what the operand matches at the end. -/
  | dropEnd (longest : Bool)
  deriving DecidableEq, Repr

inductive Piece where
  /-- An unquoted character. -/
  | plain (c : Char)
  | quoted (text : List Char)
  /-- The value of a parameter. -/
  | value (isQuoted : Bool) (name : String) (edit : Edit) (operand : List Piece)
  /-- What a script prints. -/
  | output (isQuoted : Bool) (script : List Char)
  /-- The value of an arithmetic expression. -/
  | number (isQuoted : Bool) (expression : List Piece)
  deriving Repr

/-- Where pieces are read, which decides what ends them and which characters are special. -/
inductive Place where
  /-- Outside of quotes. -/
  | bare
  /-- Between double quotes. -/
  | quotes
  /-- Behind the name of a parameter between braces. -/
  | braces
  /-- In a text of several lines that a command reads. -/
  | document
  deriving DecidableEq, Repr

/-- The mark that encloses a script whose output is meant. -/
def backquote : Char := '\x60'

/-- Characters that end a word outside of quotes. -/
def isSeparator (c : Char) : Bool := [' ', '\t', '\n', ';', '&', '|', '<', '>', '(', ')'].contains c

namespace Place

def ends : Place → Char → Bool
  | .bare, c => isSeparator c
  | .quotes, c => c == '"'
  | .braces, c => c == '\x7d'
  | .document, _ => false

def isQuoted : Place → Bool
  | .quotes | .document => true
  | .bare | .braces => false

/-- Whether a backslash takes the special meaning from a character. -/
def escapes : Place → Char → Bool
  | .bare, _ | .braces, _ => true
  | .quotes, c => ['$', backquote, '"', '\\'].contains c
  | .document, c => ['$', backquote, '\\'].contains c

end Place

/-- The text up to the parenthesis that closes `depth` further open ones, and the rest behind it.
Parentheses inside the given kind of quotes do not count. -/
def enclosed (depth : Nat) (within : Option Char) : List Char → Option (List Char × List Char)
  | [] => none
  | '\\' :: c :: rest =>
    (enclosed depth within rest).map fun (text, rest) => ('\\' :: c :: text, rest)
  | c :: rest =>
    let go (depth : Nat) (within : Option Char) :=
      (enclosed depth within rest).map fun (text, rest) => (c :: text, rest)
    match within with
    | some mark => go depth (if c = mark then none else within)
    | none =>
      if c = '\'' || c = '"' then go depth (some c)
      else if c = '(' then go (depth + 1) none
      else if c = ')' then
        match depth with
        | 0 => some ([], rest)
        | depth + 1 => go depth none
      else go depth none

/-- The expression of a text that is one between parentheses. -/
def arithmetic? (text : List Char) : Option (List Char) :=
  match text with
  | '(' :: rest =>
    match enclosed 0 none rest with
    | some (expression, []) => some expression
    | _ => none
  | _ => none

def isNameStart (c : Char) : Bool := c.isAlpha || c == '_'

def isNameCharacter (c : Char) : Bool := isNameStart c || c.isDigit

/-- Parameters that are named by one character. -/
def isSpecial (c : Char) : Bool := c.isDigit || ['@', '*', '#', '?', '$', '!', '-'].contains c

/-- The name of a parameter at the start of a text, and the rest. -/
def name? (isBraced : Bool) : List Char → Option (String × List Char)
  | [] => none
  | c :: rest =>
    if isNameStart c then
      some (String.ofList (c :: rest.takeWhile isNameCharacter), rest.dropWhile isNameCharacter)
    else if isBraced && c.isDigit then
      some (String.ofList (c :: rest.takeWhile Char.isDigit), rest.dropWhile Char.isDigit)
    else if isSpecial c then some (String.ofList [c], rest)
    else none

/-- The edit that follows the name of a parameter between braces, and the rest. -/
def edit : List Char → Edit × List Char
  | ':' :: '-' :: rest => (.instead true, rest)
  | ':' :: '+' :: rest => (.whenGiven true, rest)
  | ':' :: '=' :: rest => (.assign true, rest)
  | ':' :: '?' :: rest => (.require true, rest)
  | '-' :: rest => (.instead false, rest)
  | '+' :: rest => (.whenGiven false, rest)
  | '=' :: rest => (.assign false, rest)
  | '?' :: rest => (.require false, rest)
  | '#' :: '#' :: rest => (.dropStart true, rest)
  | '#' :: rest => (.dropStart false, rest)
  | '%' :: '%' :: rest => (.dropEnd true, rest)
  | '%' :: rest => (.dropEnd false, rest)
  | rest => (.keep, rest)

/-- The script up to the mark that closes it, and the rest. A backslash takes its meaning from a
mark, a dollar sign, another backslash, and between quotes from a quote. -/
def backquoted (inQuotes : Bool) : List Char → Option (List Char × List Char)
  | [] => none
  | '\\' :: c :: rest =>
    let isEscaped := c = backquote || c = '$' || c = '\\' || (inQuotes && c = '"')
    (backquoted inQuotes rest).map fun (script, rest) =>
      (if isEscaped then (c :: script, rest) else ('\\' :: c :: script, rest))
  | c :: rest =>
    if c = backquote then some ([], rest)
    else (backquoted inQuotes rest).map fun (script, rest) => (c :: script, rest)

mutual
/-- Reads pieces until the place ends them. The text must be shorter than `fuel`. -/
def pieces : Nat → Place → List Char → Option (List Piece × List Char)
  | 0, _, _ => none
  | _, _, [] => some ([], [])
  | fuel + 1, place, c :: rest =>
    if place.ends c then some ([], c :: rest)
    else do
      let (first, rest) ← piece fuel place c rest
      let (more, rest) ← pieces fuel place rest
      return (first ++ more, rest)

/-- Reads what one character starts: itself, something escaped or quoted, or an expansion. -/
def piece : Nat → Place → Char → List Char → Option (List Piece × List Char)
  | 0, _, _, _ => none
  | fuel + 1, place, c, rest =>
    let itself : Piece := if place.isQuoted then .quoted [c] else .plain c
    if c = '\\' then
      match rest with
      | '\n' :: rest => some ([], rest)
      | d :: rest =>
        if place.escapes d then some ([.quoted [d]], rest) else some ([itself], d :: rest)
      | [] => some ([itself], [])
    else if c = '$' then dollar fuel place rest
    else if c = backquote then
      match backquoted (place = .quotes) rest with
      | some (script, rest) => some ([.output place.isQuoted script], rest)
      | none => none
    else if place.isQuoted then some ([itself], rest)
    else if c = '\'' then
      match Text.cutAt? ['\''] rest with
      | some (text, rest) => some ([.quoted text], rest)
      | none => none
    else if c = '"' then
      match pieces fuel .quotes rest with
      | some ([], _ :: rest) => some ([.quoted []], rest)
      | some (inner, _ :: rest) => some (inner, rest)
      | _ => none
    else some ([itself], rest)

/-- Reads what a dollar sign starts. -/
def dollar : Nat → Place → List Char → Option (List Piece × List Char)
  | 0, _, _ => none
  | fuel + 1, place, text =>
    let isQuoted := place.isQuoted
    match text with
    | '(' :: rest => do
      let (script, rest) ← enclosed 0 none rest
      match arithmetic? script with
      | some expression =>
        let (expression, _) ← pieces fuel .document expression
        return ([.number isQuoted expression], rest)
      | none => return ([.output isQuoted script], rest)
    | '\x7b' :: '#' :: '\x7d' :: rest => some ([.value isQuoted "#" .keep []], rest)
    | '\x7b' :: '#' :: rest => do
      let (name, rest) ← name? true rest
      match rest with
      | '\x7d' :: rest => some ([.value isQuoted name .count []], rest)
      | _ => none
    | '\x7b' :: rest => do
      let (name, rest) ← name? true rest
      let (edit, rest) := edit rest
      let (operand, rest) ← pieces fuel .braces rest
      match rest with
      | '\x7d' :: rest => some ([.value isQuoted name edit operand], rest)
      | _ => none
    | _ =>
      match name? false text with
      | some (name, rest) => some ([.value isQuoted name .keep []], rest)
      | none => some ([if isQuoted then .quoted ['$'] else .plain '$'], text)
end

/-- The pieces of a text up to where the place ends them, and the rest. -/
def readPieces (place : Place) (text : List Char) : Option (List Piece × List Char) :=
  pieces (3 * text.length + 3) place text

/-- The characters of a word that is not quoted in any part. -/
def bareText? : List Piece → Option (List Char)
  | [] => some []
  | .plain c :: rest => (bareText? rest).map (c :: ·)
  | _ :: _ => none

end SourceTrace.Shell
