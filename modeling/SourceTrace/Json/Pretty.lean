import SourceTrace.Json.Printer

/-!
# JSON over several lines

Values that are shown to people: every member stands on a line of its own, indented by two blanks
for each object around it.
-/
namespace SourceTrace.Json

inductive Value where
  | null
  | number (value : Nat)
  | text (value : String)
  | object (members : List (String × Value))
  deriving Repr

def Value.ofText? (text : Option String) : Value := (text.map Value.text).getD .null

def Value.ofNumber? (number : Option Nat) : Value := (number.map Value.number).getD .null

/-- The start of a line inside `depth` objects. -/
def newLine (depth : Nat) : List Char := '\n' :: List.replicate (2 * depth) ' '

mutual
/-- A value inside `depth` objects. -/
def Value.lay (depth : Nat) : Value → List Char
  | .null => "null".toList
  | .number value => (toString value).toList
  | .text value => quote value
  | .object [] => ['\x7b', '\x7d']
  | .object (member :: rest) =>
    '\x7b' :: layMembers (depth + 1) (member :: rest) ++ newLine depth ++ ['\x7d']

/-- The members of an object, each on a line of its own. -/
def layMembers (depth : Nat) : List (String × Value) → List Char
  | [] => []
  | (key, value) :: rest =>
    let comma := if rest.isEmpty then [] else [',']
    newLine depth ++ quote key ++ ": ".toList ++ value.lay depth ++ comma ++ layMembers depth rest
end

/-- A value over several lines. -/
def Value.pretty (value : Value) : String := String.ofList (value.lay 0)

end SourceTrace.Json
