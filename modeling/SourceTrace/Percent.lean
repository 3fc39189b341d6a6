/-!
# Percent escapes

A byte may be written as a percent sign and two hexadecimal digits. Reading back replaces every
complete escape by its byte and leaves all else alone; `firstBroken?` finds a percent sign that
starts no escape.
-/
namespace SourceTrace.Percent

def hexDigit? (b : UInt8) : Option Nat :=
  let n := b.toNat
  if 0x30 ≤ n ∧ n ≤ 0x39 then some (n - 0x30)
  else if 0x41 ≤ n ∧ n ≤ 0x46 then some (n - 0x41 + 10)
  else if 0x61 ≤ n ∧ n ≤ 0x66 then some (n - 0x61 + 10)
  else none

def mark : UInt8 := 0x25

/-- The byte that a percent sign with these bytes behind it stands for. -/
def escaped? : List UInt8 → Option UInt8
  | high :: low :: _ => do
    return UInt8.ofNat ((← hexDigit? high) * 16 + (← hexDigit? low))
  | _ => none

/-- Reads back escapes; `skip` counts the digits of an escape that are still to be passed. -/
def decodeFrom : Nat → List UInt8 → List UInt8
  | _, [] => []
  | skip + 1, _ :: rest => decodeFrom skip rest
  | 0, b :: rest =>
    if b = mark then
      match escaped? rest with
      | some value => value :: decodeFrom 2 rest
      | none => b :: decodeFrom 0 rest
    else b :: decodeFrom 0 rest

/-- The bytes with every complete escape replaced by its byte. -/
def decode (bytes : List UInt8) : List UInt8 := decodeFrom 0 bytes

/-- The position of the first percent sign, counted from `position`, that starts no escape. -/
def firstBrokenFrom (position : Nat) : List UInt8 → Option Nat
  | [] => none
  | b :: rest =>
    if b = mark ∧ escaped? rest = none then some position else firstBrokenFrom (position + 1) rest

/-- The position of the first percent sign that starts no escape. -/
def firstBroken? (bytes : List UInt8) : Option Nat := firstBrokenFrom 0 bytes

def hexDigit (value : Nat) : Char := "0123456789ABCDEF".toList.getD value '0'

def escape (b : UInt8) : List Char := ['%', hexDigit (b.toNat / 16), hexDigit (b.toNat % 16)]

/-- The bytes as text, with an escape for every byte that is beyond ASCII or satisfies
`isReserved`. -/
def encode (isReserved : UInt8 → Bool) (bytes : List UInt8) : List Char :=
  bytes.flatMap fun b => if 0x80 ≤ b || isReserved b then escape b else [Char.ofNat b.toNat]

end SourceTrace.Percent
