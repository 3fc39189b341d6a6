import SourceTrace.Shell.Machine

/-!
# Conditions

Questions about texts, numbers and files that scripts ask, joined by *not*, *and* and *or*. Words
that could be operators are taken for operands where an operator would make no sense.
-/
namespace SourceTrace.Shell

inductive Condition where
  /-- Whether a text is not empty. -/
  | given (text : String)
  | unary (question operand : String)
  | binary (question left right : String)
  | negation (inner : Condition)
  | both (first second : Condition)
  | either (first second : Condition)
  /-- Nothing, which does not hold. -/
  | nothing
  deriving Repr

namespace Condition

/-- The questions about one operand. -/
def unaryQuestions : List String :=
  ["-n", "-z", "-e", "-f", "-d", "-r", "-w", "-x", "-s", "-L", "-h", "-t", "-p", "-S", "-b", "-c",
    "-u", "-g", "-k", "-O", "-G"]

def binaryQuestions : List String :=
  ["=", "==", "!=", "<", ">", "-eq", "-ne", "-lt", "-le", "-gt", "-ge", "-nt", "-ot", "-ef"]

/-- Whether the words start with a question about one operand. In front of a question about two
operands it is an operand itself. -/
def startsUnary : List String → Bool
  | question :: operand :: rest =>
    unaryQuestions.contains question && (rest.isEmpty || !binaryQuestions.contains operand)
  | _ => false

mutual
/-- Reads conditions joined by *or*. -/
def disjunction : Nat → List String → Option (Condition × List String)
  | 0, _ => none
  | fuel + 1, words => do
    let (first, rest) ← conjunction fuel words
    match rest with
    | "-o" :: rest => do
      let (second, rest) ← disjunction fuel rest
      return (.either first second, rest)
    | rest => return (first, rest)

/-- Reads conditions joined by *and*. -/
def conjunction : Nat → List String → Option (Condition × List String)
  | 0, _ => none
  | fuel + 1, words => do
    let (first, rest) ← negated fuel words
    match rest with
    | "-a" :: rest => do
      let (second, rest) ← conjunction fuel rest
      return (.both first second, rest)
    | rest => return (first, rest)

/-- Reads a condition that may be negated. -/
def negated : Nat → List String → Option (Condition × List String)
  | 0, _ => none
  | fuel + 1, "!" :: rest => do
    let (inner, rest) ← negated fuel rest
    return (.negation inner, rest)
  | fuel + 1, words => primary fuel words

/-- Reads one question. -/
def primary : Nat → List String → Option (Condition × List String)
  | 0, _ => none
  | _, [] => some (.nothing, [])
  | fuel + 1, word :: rest =>
    if startsUnary (word :: rest) then
      match rest with
      | operand :: rest => some (.unary word operand, rest)
      | [] => none
    else if word == "(" && !rest.isEmpty then do
      let (inner, rest) ← disjunction fuel rest
      match rest with
      | ")" :: rest => some (inner, rest)
      | _ => none
    else
      match rest with
      | question :: more =>
        if binaryQuestions.contains question then
          match more with
          | right :: rest => some (.binary question word right, rest)
          | [] => none
        else some (.given word, rest)
      | [] => some (.given word, [])
end

def whole? (words : List String) : Option Condition := do
  let (condition, rest) ← disjunction (4 * words.length + 4) words
  if rest.isEmpty then some condition else none

/-- The condition that words make. Few words are read by their number. -/
def ofWords? : List String → Option Condition
  | [] => some .nothing
  | [word] => some (.given word)
  | [left, question, right] =>
    if binaryQuestions.contains question then some (.binary question left right)
    else if left == "(" && right == ")" then some (.given question)
    else if left == "!" then (whole? [question, right]).map .negation
    else whole? [left, question, right]
  | ["!", first, second, third] => (ofWords? [first, second, third]).map .negation
  | ["(", first, second, ")"] => whole? [first, second]
  | words => whole? words

def number? (text : String) : Option Int :=
  let isBlank (c : Char) : Bool := c = ' ' || c = '\t' || c = '\n'
  let trimmed := ((text.toList.dropWhile isBlank).reverse.dropWhile isBlank).reverse
  let (isNegative, digits) :=
    match trimmed with
    | '-' :: rest => (true, rest)
    | '+' :: rest => (false, rest)
    | rest => (false, rest)
  if digits.isEmpty || !digits.all Char.isDigit then none
  else
    let size : Int := digits.foldl (fun n c => n * 10 + (c.toNat - 48 : Nat)) 0
    some (if isNegative then -size else size)

/-- The answer to a question about two operands; `none` if they are not what it asks about. -/
def compare (question left right : String) : Option Bool :=
  let numbers (test : Int → Int → Bool) : Option Bool := do
    return test (← number? left) (← number? right)
  match question with
  | "=" | "==" => some (left == right)
  | "!=" => some (left != right)
  | "<" => some (left < right)
  | ">" => some (right < left)
  | "-eq" => numbers (· == ·)
  | "-ne" => numbers (· != ·)
  | "-lt" => numbers (· < ·)
  | "-le" => numbers (· ≤ ·)
  | "-gt" => numbers (· > ·)
  | "-ge" => numbers (· ≥ ·)
  | _ => some false

def ask (question operand : String) : Running Bool := do
  let path ← Running.resolve operand
  let machine ← get
  let files := machine.files
  match question with
  | "-n" => return operand != ""
  | "-z" => return operand == ""
  | "-e" | "-r" | "-w" => return Running.isVoid path || (files.find path).toOption.isSome
  | "-f" => return files.isFile path
  | "-d" => return files.isDirectory path
  | "-s" => return (files.read path).toOption.any (!·.isEmpty) || files.isDirectory path
  | "-x" =>
    let canRun := (files.locate path).toOption.any machine.runnable.contains
    return files.isDirectory path || canRun
  | "-O" | "-G" => return (files.find path).toOption.isSome
  | "-c" => return Running.isVoid path
  | _ => return false

/-- Whether a condition holds; `none` if it compares what are no numbers. -/
def holds : Condition → Running (Option Bool)
  | .given text => pure (some (text != ""))
  | .unary question operand => do return some (← ask question operand)
  | .binary question left right => pure (compare question left right)
  | .negation inner => do return (← holds inner).map (!·)
  | .both first second => do
    let left ← holds first
    let right ← holds second
    return do return (← left) && (← right)
  | .either first second => do
    let left ← holds first
    let right ← holds second
    return do return (← left) || (← right)
  | .nothing => pure (some false)

end Condition

def test (words : List String) : Running Unit := do
  match Condition.ofWords? words with
  | none => Running.setStatus 2
  | some condition =>
    match ← condition.holds with
    | some answer => Running.setSuccess answer
    | none => Running.setStatus 2

end SourceTrace.Shell
