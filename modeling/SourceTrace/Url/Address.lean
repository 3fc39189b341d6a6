import SourceTrace.Percent
import SourceTrace.Text.Basic

/-!
# Numeric hosts

A host may be given as the number of a machine instead of its name: up to four numbers divided by
dots, or eight groups of hexadecimal digits divided by colons.
-/
namespace SourceTrace.Url

/-- The value of a number as host addresses write it: decimal, octal behind a zero, or hexadecimal
behind `0x`. -/
def addressNumber? (digits : List Char) : Option Nat :=
  let value (base : Nat) (digits : List Char) : Option Nat :=
    digits.foldlM (fun n c => do
      let d ← Percent.hexDigit? (UInt8.ofNat c.toNat)
      if c.toNat < 128 ∧ d < base then some (n * base + d) else none) 0
  match digits with
  | [] => none
  | '0' :: 'x' :: rest | '0' :: 'X' :: rest => value 16 rest
  | '0' :: c :: rest => value 8 (c :: rest)
  | digits => value 10 digits

/-- Whether the labels of a name that ends in a number are an address of four bytes. The last number
fills all bytes that the others leave. -/
def isAddress (labels : List (List Char)) : Bool :=
  match labels.mapM addressNumber? with
  | none => false
  | some numbers =>
    numbers.length ≤ 4 && numbers.dropLast.all (· < 256) &&
      numbers.getLast?.any (· < Nat.pow 256 (5 - numbers.length))

/-- Whether a label is a number, so that the name it ends must be an address. -/
def isNumber (label : List Char) : Bool :=
  (!label.isEmpty && label.all Char.isDigit) ||
    (["0x".toList, "0X".toList].any fun lead => (Text.after? lead label).isSome) &&
      (addressNumber? label).isSome

/-- A group of one to four hexadecimal digits. -/
def isGroup (piece : List Char) : Bool :=
  1 ≤ piece.length && piece.length ≤ 4 &&
    piece.all fun c => c.isDigit || ('a' ≤ c && c ≤ 'f') || ('A' ≤ c && c ≤ 'F')

/-- Whether a text is a byte in plain decimal: no more than three digits, and no zero in front. -/
def isPlainByte (label : List Char) : Bool :=
  label.all Char.isDigit && label.length ≤ 3 && !(label.length > 1 && label.head? == some '0') &&
    (addressNumber? label).any (· < 256)

/-- The number of sixteen-bit groups in colon-separated pieces, the last of which may be four bytes
divided by dots; `none` if a piece is neither. -/
def countGroups (pieces : List (List Char)) : Option Nat :=
  match pieces with
  | [] => some 0
  | [last] =>
    if isGroup last then some 1
    else
      let bytes := Text.split (· == '.') last
      if bytes.length == 4 && bytes.all isPlainByte then some 2 else none
  | piece :: rest => if isGroup piece then (countGroups rest).map (· + 1) else none

/-- Whether the text between brackets is an address of sixteen bytes: eight groups, or fewer with
one gap. -/
def isLongAddress (text : List Char) : Bool :=
  let groups (part : List Char) : Option Nat :=
    if part.isEmpty then some 0 else countGroups (Text.split (· == ':') part)
  match Text.cutAt? [':', ':'] text with
  | none => groups text == some 8
  | some (left, right) =>
    match groups left, groups right with
    | some m, some n => m + n ≤ 7 && !Text.contains ['.'] left
    | _, _ => false

end SourceTrace.Url
