import SourceTrace.Json.Tree
import SourceTrace.Percent

/-!
# Reading JSON

The grammar of JSON over bytes: no byte order mark, no comments, no trailing commas, and nothing but
blanks behind the value. Each reader takes the bytes in front of it and returns what it read with
the bytes that are left.
-/
namespace SourceTrace.Json

/-- A blank between tokens: space, tab, line feed or carriage return. -/
def isSpace (b : UInt8) : Bool := b == 0x20 || b == 0x09 || b == 0x0a || b == 0x0d

def skipSpace (bytes : List UInt8) : List UInt8 := bytes.dropWhile isSpace

/-- What follows a word that the bytes start with. -/
def afterWord? : List UInt8 → List UInt8 → Option (List UInt8)
  | [], bytes => some bytes
  | _ :: _, [] => none
  | a :: word, b :: bytes => if a = b then afterWord? word bytes else none

def isDigit (b : UInt8) : Bool := 0x30 ≤ b && b ≤ 0x39

def readDigits (bytes : List UInt8) : List Nat × List UInt8 :=
  ((bytes.takeWhile isDigit).map fun b => b.toNat - 0x30, bytes.dropWhile isDigit)

def readDigits? (bytes : List UInt8) : Option (List Nat × List UInt8) :=
  match readDigits bytes with
  | ([], _) => none
  | read => some read

/-- The digits in front of the point: a lone zero, or digits that start with another one. -/
def readWhole? (bytes : List UInt8) : Option (List Nat × List UInt8) :=
  match readDigits bytes with
  | ([], _) => none
  | (0 :: _ :: _, _) => none
  | read => some read

/-- The point and the digits behind it, if there is a point. -/
def readFraction? (bytes : List UInt8) : Option (Option (List Nat) × List UInt8) :=
  match bytes with
  | 0x2e :: rest => (readDigits? rest).map fun (digits, rest) => (some digits, rest)
  | bytes => some (none, bytes)

def readExponent? (bytes : List UInt8) : Option (Option Int × List UInt8) :=
  let exponent (negative : Bool) (rest : List UInt8) : Option (Option Int × List UInt8) :=
    (readDigits? rest).map fun (digits, rest) =>
      (some (if negative then -(ofDigits digits : Int) else ofDigits digits), rest)
  match bytes with
  | e :: rest =>
    if e == 0x65 || e == 0x45 then
      match rest with
      | 0x2b :: rest => exponent false rest
      | 0x2d :: rest => exponent true rest
      | rest => exponent false rest
    else some (none, bytes)
  | [] => some (none, [])

def readNumber? (bytes : List UInt8) : Option (Number × List UInt8) := do
  let (negative, rest) :=
    match bytes with
    | 0x2d :: rest => (true, rest)
    | bytes => (false, bytes)
  let (whole, rest) ← readWhole? rest
  let (fraction, rest) ← readFraction? rest
  let (exponent, rest) ← readExponent? rest
  return (⟨negative, whole, fraction, exponent⟩, rest)

/-- The byte that a backslash and this byte stand for. -/
def shortEscape? (b : UInt8) : Option UInt8 :=
  if b == 0x22 || b == 0x5c || b == 0x2f then some b
  else if b == 0x62 then some 0x08
  else if b == 0x66 then some 0x0c
  else if b == 0x6e then some 0x0a
  else if b == 0x72 then some 0x0d
  else if b == 0x74 then some 0x09
  else none

/-- The pieces of a text up to its closing quote, and what follows the quote. -/
def readText? : List UInt8 → Option (List Piece × List UInt8)
  | [] => none
  | 0x22 :: rest => some ([], rest)
  | 0x5c :: 0x75 :: a :: b :: c :: d :: rest => do
    let unit := (((← Percent.hexDigit? a) * 16 + (← Percent.hexDigit? b)) * 16 +
      (← Percent.hexDigit? c)) * 16 + (← Percent.hexDigit? d)
    let (pieces, rest) ← readText? rest
    return (.unit unit :: pieces, rest)
  | 0x5c :: b :: rest => do
    let byte ← shortEscape? b
    let (pieces, rest) ← readText? rest
    return (.byte byte :: pieces, rest)
  | b :: rest =>
    if b < 0x20 || b == 0x5c then none
    else do
      let (pieces, rest) ← readText? rest
      return (.byte b :: pieces, rest)

mutual
/-- A value and what follows it. Every call takes `fuel`, and no two calls in a row take no byte, so
twice the number of bytes is enough. -/
def readTree? : Nat → List UInt8 → Option (Tree × List UInt8)
  | 0, _ => none
  | fuel + 1, bytes =>
    match skipSpace bytes with
    | [] => none
    | 0x22 :: rest => (readText? rest).map fun (pieces, rest) => (.text pieces, rest)
    | 0x5b :: rest =>
      match skipSpace rest with
      | 0x5d :: rest => some (.array [], rest)
      | rest => (readItems? fuel rest).map fun (items, rest) => (.array items, rest)
    | 0x7b :: rest =>
      match skipSpace rest with
      | 0x7d :: rest => some (.object [], rest)
      | rest => (readMembers? fuel rest).map fun (members, rest) => (.object members, rest)
    | 0x6e :: rest => (afterWord? [0x75, 0x6c, 0x6c] rest).map fun rest => (.null, rest)
    | 0x74 :: rest => (afterWord? [0x72, 0x75, 0x65] rest).map fun rest => (.bool true, rest)
    | 0x66 :: rest =>
      (afterWord? [0x61, 0x6c, 0x73, 0x65] rest).map fun rest => (.bool false, rest)
    | bytes => (readNumber? bytes).map fun (number, rest) => (.number number, rest)

def readItems? : Nat → List UInt8 → Option (List Tree × List UInt8)
  | 0, _ => none
  | fuel + 1, bytes => do
    let (item, rest) ← readTree? fuel bytes
    match skipSpace rest with
    | 0x5d :: rest => return ([item], rest)
    | 0x2c :: rest =>
      let (items, rest) ← readItems? fuel rest
      return (item :: items, rest)
    | _ => none

def readMembers? : Nat → List UInt8 → Option (List (List Piece × Tree) × List UInt8)
  | 0, _ => none
  | fuel + 1, bytes =>
    match skipSpace bytes with
    | 0x22 :: rest => do
      let (key, rest) ← readText? rest
      match skipSpace rest with
      | 0x3a :: rest =>
        let (value, rest) ← readTree? fuel rest
        match skipSpace rest with
        | 0x7d :: rest => return ([(key, value)], rest)
        | 0x2c :: rest =>
          let (members, rest) ← readMembers? fuel rest
          return ((key, value) :: members, rest)
        | _ => none
      | _ => none
    | _ => none
end

def parse? (bytes : List UInt8) : Option Tree :=
  match readTree? (2 * bytes.length + 1) bytes with
  | some (tree, rest) => if (skipSpace rest).isEmpty then some tree else none
  | none => none

end SourceTrace.Json
