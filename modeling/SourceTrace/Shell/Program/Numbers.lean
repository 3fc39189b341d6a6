import SourceTrace.Shell.Regex

/-!
# Programs on numbers

Programs that count and calculate.
-/
namespace SourceTrace.Shell.Program

def integer? (text : String) : Option Int :=
  match text.toList with
  | '-' :: rest => (count? (String.ofList rest)).map fun n => -(n : Int)
  | _ => (count? text).map fun n => (n : Int)

def sequence (first step last : Int) : List Int :=
  if step = 0 then []
  else
    let count := (Int.fdiv (last - first) step + 1).toNat
    (List.range count).map fun (index : Nat) => first + step * (index : Int)

/-- What stands between numbers, which may be given in front of them, and the other arguments. -/
def divider (arguments : List String) : String × List String :=
  match arguments with
  | "-s" :: text :: rest => (text, rest)
  | first :: rest =>
    match Text.after? ['-', 's'] first.toList with
    | some text => (String.ofList text, rest)
    | none => ("\n", arguments)
  | [] => ("\n", [])

def seq (arguments : List String) : Running Unit := do
  let (between, operands) := divider (arguments.filter (· != "-w"))
  let bounds : Option (Int × Int × Int) :=
    match operands.mapM integer? with
    | some [last] => some (1, 1, last)
    | some [first, last] => some (first, 1, last)
    | some [first, step, last] => some (first, step, last)
    | _ => none
  match bounds with
  | none => Running.setStatus 1
  | some (first, step, last) =>
    let texts := (sequence first step last).map fun n => toString n
    let widest := texts.foldl (fun found text => max found text.length) 0
    let isPadded := arguments.contains "-w"
    let shown := texts.map fun text =>
      if isPadded then String.ofList (List.replicate (widest - text.length) '0') ++ text else text
    if !shown.isEmpty then
      Running.printText (Text.join between shown ++ "\n").toList
    Running.setStatus (if step = 0 then 1 else 0)

namespace Expr

/-- Whether a result counts as nothing. -/
def isNull (text : String) : Bool := text == "" || text == "0" || text == "-0"

/-- Compares two results as numbers if both are, and else as texts. -/
def compare (operator left right : String) : Bool :=
  let order :=
    match integer? left, integer? right with
    | some a, some b => Ord.compare a b
    | _, _ => if left == right then .eq else if Sorting.textLe left right then .lt else .gt
  match operator with
  | "<" => order = .lt
  | "<=" => order != .gt
  | "=" | "==" => order = .eq
  | "!=" => order != .eq
  | ">=" => order != .lt
  | _ => order = .gt

/-- What a pattern finds at the start of a text: its first part if it has parts, and else the number
of characters. -/
def matched (text pattern : String) : Option String := do
  let regex ← Regex.parse? false (byteText pattern)
  let hasGroup := Text.contains ['\\', '('] pattern.toList
  match Regex.find? false (.sequence .start regex) (byteText text) with
  | some found =>
    if hasGroup then
      return (Text.Utf8.decodeLossy (octets ((List.lookup 1 found.groups).getD [])))
    else return toString found.found.length
  | none => return if hasGroup then "" else "0"

/-- The result of an operator; `none` if an operand is wrong. -/
def combine (operator left right : String) : Option String :=
  let calculate (step : Int → Int → Option Int) : Option String := do
    return toString (← step (← integer? left) (← integer? right))
  match operator with
  | "|" => some (if !isNull left then left else if isNull right then "0" else right)
  | "&" => some (if isNull left || isNull right then "0" else left)
  | "+" => calculate fun a b => some (a + b)
  | "-" => calculate fun a b => some (a - b)
  | "*" => calculate fun a b => some (a * b)
  | "/" => calculate fun a b => if b = 0 then none else some (a.tdiv b)
  | "%" => calculate fun a b => if b = 0 then none else some (a.tmod b)
  | ":" => matched left right
  | _ => some (if compare operator left right then "1" else "0")

/-- The operators by how tightly they bind, the loosest first. -/
def levels : List (List String) :=
  [["|"], ["&"], ["<", "<=", "=", "==", "!=", ">=", ">"], ["+", "-"], ["*", "/", "%"], [":"]]

mutual
/-- The value of operands and operators that bind at least as tightly as the first level, and the
rest. -/
def value : Nat → List (List String) → List String → Option (String × List String)
  | 0, _, _ => none
  | fuel + 1, [], tokens => operand fuel tokens
  | fuel + 1, level :: tighter, tokens => do
    let (left, rest) ← value fuel tighter tokens
    chain fuel level tighter left rest

/-- The value of what follows an operand on one level. -/
def chain : Nat → List String → List (List String) → String → List String →
    Option (String × List String)
  | 0, _, _, _, _ => none
  | fuel + 1, level, tighter, left, tokens =>
    match tokens with
    | operator :: rest =>
      if level.contains operator then do
        let (right, rest) ← value fuel tighter rest
        let result ← combine operator left right
        chain fuel level tighter result rest
      else some (left, tokens)
    | [] => some (left, [])

def operand : Nat → List String → Option (String × List String)
  | 0, _ => none
  | fuel + 1, tokens =>
    match tokens with
    | "(" :: rest => do
      let (inner, rest) ← value fuel levels rest
      match rest with
      | ")" :: rest => some (inner, rest)
      | _ => none
    | "length" :: text :: rest => some (toString (Text.Utf8.bytes text).length, rest)
    | "index" :: text :: characters :: rest =>
      let place := text.toList.findIdx? characters.toList.contains
      some (toString ((place.map (· + 1)).getD 0), rest)
    | "substr" :: text :: position :: length :: rest => do
      let position ← count? position
      let length ← count? length
      let part := if position = 0 then [] else (text.toList.drop (position - 1)).take length
      some (String.ofList part, rest)
    | text :: rest => if text == ")" then none else some (text, rest)
    | [] => none
end

end Expr

def expr (arguments : List String) : Running Unit := do
  match Expr.value (20 * arguments.length + 20) Expr.levels arguments with
  | some (result, []) =>
    Running.printLine result
    Running.setSuccess (!Expr.isNull result)
  | _ => Running.setStatus 2

end SourceTrace.Shell.Program
