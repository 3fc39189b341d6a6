import SourceTrace.Base64

/-!
# Variable-length quantities

A signed number is written as a group of base64 digits, least significant first. Each digit holds
five bits of the magnitude, and a digit that is not the last of its group has the sixth bit set. The
lowest bit of the whole is the sign. A group has at most twelve digits, so a magnitude has at most
59 bits and no sum of shifted digits reaches 2 ^ 60.

`decode` reads a text as a sequence of groups and `encode` writes one group for each number.
-/
namespace SourceTrace.Vlq

inductive Error where
  /-- A character outside the alphabet. One beyond ASCII is named by its first UTF-8 byte. -/
  | invalidDigit (digit : Char)
  /-- The text ends inside a group. -/
  | leftover
  /-- The text is empty. -/
  | noValues
  /-- A group has more than twelve digits. -/
  | overflow
  deriving DecidableEq, Repr

/-- The first UTF-8 byte of a character, as a character. -/
def leadByte (c : Char) : Char :=
  match String.utf8EncodeChar c with
  | [] => c
  | b :: _ => Char.ofNat b.toNat

def maxDigits : Nat := 12

/-- The number that a magnitude with the sign in its lowest bit stands for. -/
def toSigned (n : Nat) : Int := if n % 2 = 1 then -(n / 2 : Nat) else (n / 2 : Nat)

/-- The magnitude with the sign in its lowest bit that stands for a number. -/
def ofSigned (value : Int) : Nat :=
  if value < 0 then 2 * value.natAbs + 1 else 2 * value.natAbs

/-- Reads the rest of a sequence of groups, where `place` digits of the current group have been read
and add up to `sum`. -/
def decodeFrom (sum place : Nat) : List Char → Except Error (List Int)
  | [] => if place = 0 then .ok [] else .error .leftover
  | c :: rest =>
    match Base64.digit? c with
    | none => .error (.invalidDigit (leadByte c))
    | some d =>
      if maxDigits ≤ place then .error .overflow
      else
        let total := sum + (d % 32) <<< (5 * place)
        if d < 32 then (decodeFrom 0 0 rest).map (toSigned total :: ·)
        else decodeFrom total (place + 1) rest

/-- The numbers of a non-empty sequence of groups. -/
def decode (text : List Char) : Except Error (List Int) :=
  match decodeFrom 0 0 text with
  | .ok [] => .error .noValues
  | result => result

def group (n : Nat) : List Char :=
  if n < 32 then [Base64.digit n] else Base64.digit (n % 32 + 32) :: group (n / 32)
termination_by n

/-- The group of a signed number. -/
def encodeOne (value : Int) : List Char := group (ofSigned value)

/-- The groups of a non-empty sequence of numbers. -/
def encode (values : List Int) : Except Error (List Char) :=
  if values.isEmpty then .error .noValues else .ok (values.flatMap encodeOne)

theorem toSigned_ofSigned (value : Int) : toSigned (ofSigned value) = value := by
  unfold toSigned ofSigned
  split <;> split <;> omega

end SourceTrace.Vlq
