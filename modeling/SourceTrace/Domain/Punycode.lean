/-!
# Labels in ASCII

A label beyond ASCII is written as its ASCII characters, a hyphen, and a sequence of numbers that
say which characters are to be inserted where. The numbers have variable length: a digit below a
threshold ends a number, and the thresholds adapt to the size of the numbers before.
-/
namespace SourceTrace.Domain.Punycode

/-- Numbers must fit 32 bits. -/
def limit : Nat := 4294967296

/-- The value of a digit: the letters stand for 0 to 25, the ASCII digits for 26 to 35. -/
def digit? (c : Char) : Option Nat :=
  if 'a' ≤ c && c ≤ 'z' then some (c.toNat - 97)
  else if '0' ≤ c && c ≤ '9' then some (c.toNat - 48 + 26)
  else none

/-- Halves a delta until it is small, and counts by thirty-sixes how often. -/
def scaleDown : Nat → Nat → Nat → Nat
  | 0, _, count => count
  | fuel + 1, delta, count =>
    if delta > 455 then scaleDown fuel (delta / 35) (count + 36)
    else count + 36 * delta / (delta + 38)

/-- The bias for the next number, once a number has been read that made the text `length` long. -/
def adapt (delta length : Nat) (isFirst : Bool) : Nat :=
  let delta := if isFirst then delta / 700 else delta / 2
  scaleDown 32 (delta + delta / length) 0

def threshold (bias k : Nat) : Nat :=
  if k ≤ bias then 1 else if k ≥ bias + 26 then 26 else k - bias

/-- Reads a number and adds it to `sum`. Gives the sum and the digits that are left. -/
def readNumber (bias : Nat) (sum weight k : Nat) : List Char → Option (Nat × List Char)
  | [] => none
  | c :: rest => do
    let digit ← digit? c
    let sum := sum + digit * weight
    if sum ≥ limit then none
    else
      let t := threshold bias k
      if digit < t then some (sum, rest)
      else if weight * (36 - t) ≥ limit then none
      else readNumber bias sum (weight * (36 - t)) (k + 36) rest

/-- A text on the way: its characters, the last character that was inserted as a code point, the
place behind it, and the bias. -/
structure Progress where
  text : List Char
  code : Nat
  place : Nat
  bias : Nat

/-- The start of the insertions into the ASCII characters of a label. -/
def Progress.start (ascii : List Char) : Progress := ⟨ascii, 128, 0, 72⟩

/-- Inserts a character, as the next number on the way from the last insertion says. -/
def Progress.insert? (p : Progress) (sum : Nat) : Option Progress :=
  let length := p.text.length + 1
  let code := p.code + sum / length
  let place := sum % length
  if code.isValidChar then
    some ⟨p.text.take place ++ Char.ofNat code :: p.text.drop place, code, place + 1,
      adapt (sum - p.place) length (p.place == 0)⟩
  else none

/-- Makes all insertions. Each takes at least one digit, so `fuel` is the number of digits. -/
def insertAll : Nat → Progress → List Char → Option (List Char)
  | _, p, [] => some p.text
  | 0, _, _ :: _ => none
  | fuel + 1, p, c :: rest => do
    let (sum, left) ← readNumber p.bias p.place 1 36 (c :: rest)
    insertAll fuel (← p.insert? sum) left

/-- The text that a label in lower case stands for, given without the mark in front of it. -/
def decode? (label : List Char) : Option (List Char) :=
  let tail := (label.reverse.takeWhile (· != '-')).reverse
  let ascii := label.take (label.length - tail.length - 1)
  let digits := if ascii.isEmpty then label else tail
  insertAll digits.length (Progress.start ascii) digits

end SourceTrace.Domain.Punycode
