import SourceTrace.Text.Basic

/-!
# Arithmetic in scripts

Expressions over whole numbers of 64 bits with the usual operators, which bind as usual. A name
stands for the number that its variable holds, and for zero without a variable.
-/
namespace SourceTrace.Shell.Arithmetic

inductive Token where
  | number (value : Int)
  | name (text : String)
  | operator (text : String)
  deriving DecidableEq, Repr

inductive Expression where
  | number (value : Int)
  | name (text : String)
  | unary (operator : String) (operand : Expression)
  | binary (operator : String) (left right : Expression)
  | choice (condition success failure : Expression)
  /-- Gives a variable a value, perhaps combined with the one it had. -/
  | assign (operator : Option String) (name : String) (value : Expression)
  deriving Repr

/-- The operators, those that start with another one first. -/
def operators : List String :=
  ["<<=", ">>=", "<<", ">>", "<=", ">=", "==", "!=", "&&", "||", "+=", "-=", "*=", "/=", "%=", "&=",
    "|=", "^=", "+", "-", "*", "/", "%", "<", ">", "&", "|", "^", "!", "~", "?", ":", "=", "(", ")"]

def digit? (base : Nat) (c : Char) : Option Nat :=
  let value :=
    if c.isDigit then c.toNat - 48
    else if c.isLower then c.toNat - 87
    else if c.isUpper then c.toNat - 55
    else base
  if value < base then some value else none

def digits? (base : Nat) (text : List Char) : Option Nat :=
  if text.isEmpty then none
  else text.foldlM (fun n c => (digit? base c).map (n * base + ·)) 0

/-- A number without a sign: decimal, octal behind a zero, or hexadecimal behind `0x`. -/
def literal? : List Char → Option Nat
  | '0' :: 'x' :: rest | '0' :: 'X' :: rest => digits? 16 rest
  | '0' :: c :: rest => digits? 8 (c :: rest)
  | text => digits? 10 text

/-- A number with an optional sign and blanks around it; an empty text is zero. -/
def value? (text : String) : Option Int :=
  let isBlank (c : Char) : Bool := c == ' ' || c == '\t' || c == '\n'
  let trimmed := ((text.toList.dropWhile isBlank).reverse.dropWhile isBlank).reverse
  match trimmed with
  | [] => some 0
  | '-' :: rest => (literal? rest).map fun n => -(n : Int)
  | '+' :: rest => (literal? rest).map fun n => (n : Int)
  | rest => (literal? rest).map fun n => (n : Int)

/-- The tokens of a text that is shorter than `fuel`. -/
def tokens? : Nat → List Char → Option (List Token)
  | 0, _ => none
  | _, [] => some []
  | fuel + 1, c :: rest =>
    if c == ' ' || c == '\t' || c == '\n' then tokens? fuel rest
    else if c.isAlphanum || c == '_' then do
      let isPart (c : Char) : Bool := c.isAlphanum || c == '_'
      let text := c :: rest.takeWhile isPart
      let first ←
        if c.isDigit then (literal? text).map fun n => Token.number n
        else some (.name (String.ofList text))
      return first :: (← tokens? fuel (rest.dropWhile isPart))
    else do
      let (operator, rest) ← operators.findSome? fun operator =>
        (Text.after? operator.toList (c :: rest)).map fun rest => (operator, rest)
      return .operator operator :: (← tokens? fuel rest)

/-- The binary operators by how tightly they bind, the loosest first. -/
def levels : List (List String) :=
  [["||"], ["&&"], ["|"], ["^"], ["&"], ["==", "!="], ["<=", ">=", "<", ">"], ["<<", ">>"],
    ["+", "-"], ["*", "/", "%"]]

/-- The operator that an assignment combines with, if it is an assignment. -/
def assignment? (operator : String) : Option (Option String) :=
  if operator == "=" then some none
  else if ["<<=", ">>=", "+=", "-=", "*=", "/=", "%=", "&=", "|=", "^="].contains operator then
    some (some (String.ofList operator.toList.dropLast))
  else none

mutual
def expression : Nat → List Token → Option (Expression × List Token)
  | 0, _ => none
  | fuel + 1, .name name :: .operator operator :: rest =>
    match assignment? operator with
    | some combined => do
      let (value, rest) ← expression fuel rest
      return (.assign combined name value, rest)
    | none => choice fuel (.name name :: .operator operator :: rest)
  | fuel + 1, tokens => choice fuel tokens

/-- Reads a choice between two expressions, or what binds tighter. -/
def choice : Nat → List Token → Option (Expression × List Token)
  | 0, _ => none
  | fuel + 1, tokens => do
    let (condition, rest) ← binary fuel levels tokens
    match rest with
    | .operator "?" :: rest => do
      let (success, rest) ← expression fuel rest
      match rest with
      | .operator ":" :: rest => do
        let (failure, rest) ← choice fuel rest
        return (.choice condition success failure, rest)
      | _ => none
    | rest => return (condition, rest)

/-- Reads operands and operators that bind at least as tightly as the first level. -/
def binary : Nat → List (List String) → List Token → Option (Expression × List Token)
  | 0, _, _ => none
  | fuel + 1, [], tokens => unary fuel tokens
  | fuel + 1, level :: tighter, tokens => do
    let (left, rest) ← binary fuel tighter tokens
    chain fuel level tighter left rest

/-- Reads what follows an operand on one level. -/
def chain : Nat → List String → List (List String) → Expression → List Token →
    Option (Expression × List Token)
  | 0, _, _, _, _ => none
  | fuel + 1, level, tighter, left, tokens =>
    match tokens with
    | .operator operator :: rest =>
      if level.contains operator then do
        let (right, rest) ← binary fuel tighter rest
        chain fuel level tighter (.binary operator left right) rest
      else some (left, tokens)
    | _ => some (left, tokens)

/-- Reads an operand with the signs in front of it. -/
def unary : Nat → List Token → Option (Expression × List Token)
  | 0, _ => none
  | fuel + 1, tokens =>
    match tokens with
    | .number value :: rest => some (.number value, rest)
    | .name name :: rest => some (.name name, rest)
    | .operator "(" :: rest => do
      let (inner, rest) ← expression fuel rest
      match rest with
      | .operator ")" :: rest => some (inner, rest)
      | _ => none
    | .operator operator :: rest =>
      if ["+", "-", "!", "~"].contains operator then do
        let (operand, rest) ← unary fuel rest
        return (.unary operator operand, rest)
      else none
    | [] => none
end

def parse? (text : String) : Option Expression := do
  let tokens ← tokens? (text.length + 1) text.toList
  let (found, rest) ← expression (20 * tokens.length + 20) tokens
  if rest.isEmpty then some found else none

/-- A number cut to 64 bits. -/
def wrap (n : Int) : Int := Int.bmod n (Nat.pow 2 64)

def bits (n : Int) : Nat := (n % (Nat.pow 2 64 : Nat)).toNat

def truth (condition : Bool) : Int := if condition then 1 else 0

/-- The result of a binary operator; none when a number is divided by zero. -/
def apply2 (operator : String) (left right : Int) : Option Int :=
  match operator with
  | "+" => some (wrap (left + right))
  | "-" => some (wrap (left - right))
  | "*" => some (wrap (left * right))
  | "/" => if right = 0 then none else some (wrap (left.tdiv right))
  | "%" => if right = 0 then none else some (wrap (left.tmod right))
  | "<<" => some (wrap (left * (Nat.pow 2 (bits right % 64) : Nat)))
  | ">>" => some (Int.fdiv left (Nat.pow 2 (bits right % 64) : Nat))
  | "<" => some (truth (left < right))
  | "<=" => some (truth (left ≤ right))
  | ">" => some (truth (left > right))
  | ">=" => some (truth (left ≥ right))
  | "==" => some (truth (left == right))
  | "!=" => some (truth (left != right))
  | "&" => some (wrap (Nat.land (bits left) (bits right)))
  | "|" => some (wrap (Nat.lor (bits left) (bits right)))
  | "^" => some (wrap (Nat.xor (bits left) (bits right)))
  | _ => none

/-- The result of a sign in front of a number. -/
def apply1 (operator : String) (operand : Int) : Int :=
  match operator with
  | "-" => wrap (-operand)
  | "!" => truth (operand == 0)
  | "~" => -operand - 1
  | _ => operand

abbrev Bindings := List (String × String)

def lookup? (bindings : Bindings) (name : String) : Option Int :=
  match List.lookup name bindings with
  | some text => value? text
  | none => some 0

/-- The value of an expression and the variables afterwards. -/
def evaluate (bindings : Bindings) : Expression → Option (Int × Bindings)
  | .number value => some (wrap value, bindings)
  | .name name => (lookup? bindings name).map fun value => (value, bindings)
  | .unary operator operand => do
    let (value, bindings) ← evaluate bindings operand
    return (apply1 operator value, bindings)
  | .binary operator left right => do
    let (first, bindings) ← evaluate bindings left
    if operator == "&&" && first == 0 then return (0, bindings)
    if operator == "||" && first != 0 then return (1, bindings)
    let (second, bindings) ← evaluate bindings right
    if operator == "&&" || operator == "||" then return (truth (second != 0), bindings)
    return (← apply2 operator first second, bindings)
  | .choice condition success failure => do
    let (value, bindings) ← evaluate bindings condition
    if value != 0 then evaluate bindings success else evaluate bindings failure
  | .assign operator name value => do
    let (value, bindings) ← evaluate bindings value
    let result ←
      match operator with
      | none => some value
      | some operator => do apply2 operator (← lookup? bindings name) value
    let others := bindings.filter fun (known, _) => known != name
    return (result, (name, toString result) :: others)

end SourceTrace.Shell.Arithmetic
