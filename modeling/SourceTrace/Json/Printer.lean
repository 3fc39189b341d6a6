/-!
# Writing JSON

Compact JSON text. Between quotes only the quote, the backslash and the control characters are
escaped; all else stands for itself.
-/
namespace SourceTrace.Json

def hexDigit (value : Nat) : Char := "0123456789abcdef".toList.getD value '0'

/-- How a character is written between quotes. -/
def escape (c : Char) : List Char :=
  if c = '"' then ['\\', '"']
  else if c = '\\' then ['\\', '\\']
  else if c = '\x08' then ['\\', 'b']
  else if c = '\t' then ['\\', 't']
  else if c = '\n' then ['\\', 'n']
  else if c = '\x0c' then ['\\', 'f']
  else if c = '\r' then ['\\', 'r']
  else if c.toNat < 0x20 then
    ['\\', 'u', '0', '0', hexDigit (c.toNat / 16), hexDigit (c.toNat % 16)]
  else [c]

def quote (text : String) : List Char := '"' :: text.toList.flatMap escape ++ ['"']

def quoteOrNull : Option String → List Char
  | some text => quote text
  | none => "null".toList

def commaSeparated : List (List Char) → List Char
  | [] => []
  | [item] => item
  | item :: rest => item ++ ',' :: commaSeparated rest

def array (items : List (List Char)) : List Char := '[' :: commaSeparated items ++ [']']

def object (members : List (String × List Char)) : List Char :=
  '\x7b' :: commaSeparated (members.map fun (key, value) => quote key ++ ':' :: value) ++ ['\x7d']

end SourceTrace.Json
