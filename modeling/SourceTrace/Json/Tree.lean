import SourceTrace.Decimal.Double
import SourceTrace.Text.Utf8

/-!
# JSON trees

A tree holds what the grammar of JSON sees and no more. A number keeps its digits and a text keeps
its bytes and escapes, because the grammar accepts numbers of any size, bytes that are no UTF-8 and
escapes that are no characters. Whoever needs a value asks for it with `Number.text?`, `text?` or
`isValue`, and only then are such numbers and texts refused.
-/
namespace SourceTrace.Json

inductive Piece where
  /-- A byte that stands for itself, or the byte of a short escape. -/
  | byte (value : UInt8)
  /-- A UTF-16 unit given by an escape of four hexadecimal digits. -/
  | unit (value : Nat)
  deriving DecidableEq, Repr

structure Number where
  negative : Bool
  /-- The digits in front of the point. -/
  whole : List Nat
  /-- The digits behind the point, if there is one. -/
  fraction : Option (List Nat)
  /-- The exponent, if there is one. -/
  exponent : Option Int
  deriving DecidableEq, Repr

inductive Tree where
  | null
  | bool (value : Bool)
  | number (value : Number)
  | text (pieces : List Piece)
  | array (items : List Tree)
  | object (members : List (List Piece × Tree))
  deriving Repr

def ofDigits (digits : List Nat) : Nat := digits.foldl (fun n d => n * 10 + d) 0

namespace Number

/-- The integer that a literal without point and exponent stands for. -/
def integer? (n : Number) : Option Int :=
  match n.fraction, n.exponent with
  | none, none =>
    let value : Int := ofDigits n.whole
    some (if n.negative then -value else value)
  | _, _ => none

/-- The natural number below 2 ^ 32 that a literal without sign, point and exponent stands for. -/
def natural32? (n : Number) : Option Nat :=
  if n.negative then none
  else n.integer?.bind fun value => if value < Nat.pow 2 32 then some value.toNat else none

/-- Whether an integer is kept as it is: it fits into 64 bits, signed or not, and is no negative
zero. -/
def isExact (n : Number) : Bool :=
  match n.integer? with
  | some value =>
    if n.negative then -(Nat.pow 2 63 : Int) ≤ value && value < 0 else value < Nat.pow 2 64
  | none => false

/-- The text of a number: exact integers as they are, all else in double precision. `none` if the
number is out of range. -/
def text? (n : Number) : Option String :=
  if n.isExact then n.integer?.map toString
  else do
    let value ← Decimal.readDouble? n.whole (n.fraction.getD []) n.exponent
    return (if n.negative then "-" else "") ++ Decimal.doubleText value

end Number

/-- A UTF-16 unit that starts a pair. -/
def isHighUnit (n : Nat) : Bool := 0xd800 ≤ n && n ≤ 0xdbff

/-- A UTF-16 unit that ends a pair. -/
def isLowUnit (n : Nat) : Bool := 0xdc00 ≤ n && n ≤ 0xdfff

/-- The UTF-8 bytes of a text between quotes; `none` if an escape is half of a pair. -/
def bytes? : List Piece → Option (List UInt8)
  | [] => some []
  | .byte b :: rest => (bytes? rest).map (b :: ·)
  | .unit high :: .unit low :: rest =>
    if isHighUnit high then
      if isLowUnit low then
        let c := Char.ofNat (0x10000 + (high - 0xd800) * 0x400 + (low - 0xdc00))
        (bytes? rest).map (String.utf8EncodeChar c ++ ·)
      else none
    else if isLowUnit high then none
    else (bytes? (.unit low :: rest)).map (String.utf8EncodeChar (Char.ofNat high) ++ ·)
  | .unit n :: rest =>
    if isHighUnit n || isLowUnit n then none
    else (bytes? rest).map (String.utf8EncodeChar (Char.ofNat n) ++ ·)

/-- The text between quotes; `none` if its bytes and escapes are no text. -/
def text? (pieces : List Piece) : Option String := (bytes? pieces).bind Text.Utf8.decode?

mutual
/-- Whether a tree is a value: all its numbers are in range and all its texts and keys are text. -/
def Tree.isValue : Tree → Bool
  | .null => true
  | .bool _ => true
  | .number n => n.text?.isSome
  | .text pieces => (Json.text? pieces).isSome
  | .array items => areValues items
  | .object members => areMembers members

def areValues : List Tree → Bool
  | [] => true
  | tree :: rest => tree.isValue && areValues rest

/-- Whether all keys are text and all members are values. -/
def areMembers : List (List Piece × Tree) → Bool
  | [] => true
  | (key, tree) :: rest => (Json.text? key).isSome && tree.isValue && areMembers rest
end

mutual
def Tree.depth : Tree → Nat
  | .array items => itemsDepth items + 1
  | .object members => membersDepth members + 1
  | _ => 0

/-- The depth of the deepest tree of a list. -/
def itemsDepth : List Tree → Nat
  | [] => 0
  | tree :: rest => max tree.depth (itemsDepth rest)

/-- The depth of the deepest member. -/
def membersDepth : List (List Piece × Tree) → Nat
  | [] => 0
  | (_, tree) :: rest => max tree.depth (membersDepth rest)
end

end SourceTrace.Json
