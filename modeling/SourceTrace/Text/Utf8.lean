/-!
# UTF-8

Bytes of a text, the text of bytes, and what is wrong with bytes that are no text.

`decode?` accepts exactly the bytes that `encode` produces. Where bytes are no text, `fault?` says
where the first ill-formed sequence starts and how long it is, and `decodeLossy` puts the
replacement character in place of every ill-formed sequence.
-/
namespace SourceTrace.Text.Utf8

def encode (text : List Char) : List UInt8 := text.flatMap String.utf8EncodeChar

def bytes (text : String) : List UInt8 := encode text.toList

def decode? (bytes : List UInt8) : Option String := String.fromUTF8? bytes.toByteArray

/-- What stands at the start of a byte sequence. -/
inductive Step where
  /-- A character, and how many bytes it takes. -/
  | char (c : Char) (width : Nat)
  /-- An ill-formed sequence of so many bytes. -/
  | illFormed (width : Nat)
  /-- The bytes end inside a character. -/
  | incomplete
  deriving DecidableEq, Repr

/-- Whether a byte can only continue a character. -/
def isTail (b : UInt8) : Bool := 0x80 ≤ b && b ≤ 0xbf

/-- The bytes that may follow the first byte of a character of three or four bytes. -/
def isSecond (first second : UInt8) : Bool :=
  if first == 0xe0 then 0xa0 ≤ second && second ≤ 0xbf
  else if first == 0xed then 0x80 ≤ second && second ≤ 0x9f
  else if first == 0xf0 then 0x90 ≤ second && second ≤ 0xbf
  else if first == 0xf4 then 0x80 ≤ second && second ≤ 0x8f
  else isTail second

/-- The six low bits of a continuing byte. -/
def low (b : UInt8) : Nat := b.toNat % 64

/-- Reads the character that starts with `first`. An ill-formed sequence ends before the first byte
that cannot continue it. -/
def step (first : UInt8) (rest : List UInt8) : Step :=
  if first < 0x80 then .char (Char.ofNat first.toNat) 1
  else if 0xc2 ≤ first && first ≤ 0xdf then
    match rest with
    | [] => .incomplete
    | b :: _ =>
      if isTail b then .char (Char.ofNat (first.toNat % 32 * 64 + low b)) 2 else .illFormed 1
  else if 0xe0 ≤ first && first ≤ 0xef then
    match rest with
    | [] => .incomplete
    | [b] => if isSecond first b then .incomplete else .illFormed 1
    | b :: c :: _ =>
      if !isSecond first b then .illFormed 1
      else if !isTail c then .illFormed 2
      else .char (Char.ofNat ((first.toNat % 16 * 64 + low b) * 64 + low c)) 3
  else if 0xf0 ≤ first && first ≤ 0xf4 then
    match rest with
    | [] => .incomplete
    | [b] => if isSecond first b then .incomplete else .illFormed 1
    | [b, c] =>
      if !isSecond first b then .illFormed 1
      else if !isTail c then .illFormed 2
      else .incomplete
    | b :: c :: d :: _ =>
      if !isSecond first b then .illFormed 1
      else if !isTail c then .illFormed 2
      else if !isTail d then .illFormed 3
      else .char (Char.ofNat (((first.toNat % 8 * 64 + low b) * 64 + low c) * 64 + low d)) 4
  else .illFormed 1

/-- The text of the bytes, with the replacement character for every ill-formed sequence. `skip`
counts the bytes that the character before has already used up. -/
def lossyFrom : Nat → List UInt8 → List Char
  | _, [] => []
  | skip + 1, _ :: rest => lossyFrom skip rest
  | 0, first :: rest =>
    match step first rest with
    | .char c width => c :: lossyFrom (width - 1) rest
    | .illFormed width => '\ufffd' :: lossyFrom (width - 1) rest
    | .incomplete => ['\ufffd']

/-- The text of the bytes, with the replacement character for every ill-formed sequence. -/
def decodeLossy (bytes : List UInt8) : String := String.ofList (lossyFrom 0 bytes)

/-- The first place where bytes stop being text: how many bytes are text before it, and how long
the ill-formed sequence is, unless the bytes end inside a character. -/
structure Fault where
  start : Nat
  width : Option Nat
  deriving DecidableEq, Repr

/-- The first fault from byte `position` on. -/
def faultFrom (position : Nat) : Nat → List UInt8 → Option Fault
  | _, [] => none
  | skip + 1, _ :: rest => faultFrom (position + 1) skip rest
  | 0, first :: rest =>
    match step first rest with
    | .char _ width => faultFrom (position + 1) (width - 1) rest
    | .illFormed width => some ⟨position, some width⟩
    | .incomplete => some ⟨position, none⟩

def fault? (bytes : List UInt8) : Option Fault := faultFrom 0 0 bytes

def Fault.message (fault : Fault) : String :=
  match fault.width with
  | some width => s!"invalid utf-8 sequence of {width} bytes from index {fault.start}"
  | none => s!"incomplete utf-8 byte sequence from index {fault.start}"

/-- Reading back the bytes of a string gives the string. -/
theorem decode?_bytes (text : String) : decode? (bytes text) = some text := by
  have encoded : (bytes text).toByteArray = text.toByteArray := by
    rw [bytes, encode]
    conv => rhs; rw [← String.ofList_toList (s := text)]
    rfl
  rw [decode?, encoded, String.fromUTF8?, dif_pos text.isValidUTF8]
  rfl

end SourceTrace.Text.Utf8
