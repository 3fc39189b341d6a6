import SourceTrace.Text.Utf8

/-!
# Formatted output

Texts with backslash escapes, and formats whose directives are filled with arguments. A format is
used again as long as it takes in arguments and there are any left.
-/
namespace SourceTrace.Shell.Format

/-- The byte of an escape that is one letter. -/
def letter? (c : Char) : Option UInt8 :=
  List.lookup c
    [('\\', 92), ('a', 7), ('b', 8), ('e', 27), ('f', 12), ('n', 10), ('r', 13), ('t', 9),
      ('v', 11)]

def isOctal (c : Char) : Bool := '0' ≤ c && c ≤ '7'

def octal (digits : List Char) : UInt8 :=
  UInt8.ofNat (digits.foldl (fun n c => n * 8 + (c.toNat - 48)) 0)

def charBytes (c : Char) : List UInt8 := Text.Utf8.bytes (String.ofList [c])

/-- The number of octal digits at the start of a text, at most `limit`. -/
def octalWidth (limit : Nat) (text : List Char) : Nat :=
  ((text.takeWhile isOctal).take limit).length

/-- The escape behind a backslash: its bytes and how many characters it takes. A backslash in front
of anything else stands for itself. -/
def escape (text : List Char) : List UInt8 × Nat :=
  match text with
  | [] => ([92], 0)
  | c :: _ =>
    match letter? c with
    | some byte => ([byte], 1)
    | none =>
      let width := octalWidth 3 text
      if width = 0 then ([92], 0) else ([octal (text.take width)], width)

/-- A text with its escapes replaced, in which octal numbers may start with a further zero, and
whether it goes on: an escaped `c` ends all output. The text is at most `fuel` characters long. -/
def unescape : Nat → List Char → List UInt8 × Bool
  | 0, _ => ([], true)
  | _, [] => ([], true)
  | _ + 1, '\\' :: 'c' :: _ => ([], false)
  | fuel + 1, '\\' :: '0' :: rest =>
    let width := octalWidth 3 rest
    let (bytes, goesOn) := unescape fuel (rest.drop width)
    (octal (rest.take width) :: bytes, goesOn)
  | fuel + 1, '\\' :: rest =>
    let (first, width) := escape rest
    let (bytes, goesOn) := unescape fuel (rest.drop width)
    (first ++ bytes, goesOn)
  | fuel + 1, c :: rest =>
    let (bytes, goesOn) := unescape fuel rest
    (charBytes c ++ bytes, goesOn)

def unescaped (text : String) : List UInt8 × Bool :=
  unescape (text.length + 1) text.toList

structure Directive where
  /-- Any of minus, plus, blank, zero and number sign. -/
  flags : List Char
  width : Nat
  precision : Option Nat
  kind : Char

/-- What has been printed, the arguments that are left, and how it stands. -/
structure Filled where
  bytes : List UInt8
  arguments : List String
  /-- Zero, one after an argument that is no number, or two after a wrong directive. -/
  status : Nat
  /-- Whether more is printed. -/
  goesOn : Bool

/-- The digits of a base at the start of a text as a number, and the rest; `none` without any. -/
def leadingDigits? (base : Nat) (text : List Char) : Option (Nat × List Char) :=
  let value (c : Char) : Nat :=
    if c.isDigit then c.toNat - 48
    else if c.isLower then c.toNat - 87
    else if c.isUpper then c.toNat - 55
    else base
  let digits := text.takeWhile fun c => value c < base
  if digits.isEmpty then none
  else some (digits.foldl (fun n c => n * base + value c) 0, text.drop digits.length)

/-- The number at the start of an argument, and whether the argument is nothing else. A quote in
front stands for the number of the next byte. -/
def integer (argument : String) : Int × Bool :=
  let clamp (isNegative : Bool) (size : Nat) : Int × Bool :=
    let limit := Nat.pow 2 63
    if isNegative then if limit < size then (-limit, false) else (-size, true)
    else if 2 * limit ≤ size then (2 * limit - 1, false)
    else (size, true)
  match argument.toList with
  | [] => (0, true)
  | '\'' :: rest | '"' :: rest =>
    match Text.Utf8.encode rest with
    | byte :: _ => (byte.toNat, true)
    | [] => (0, true)
  | text =>
    let text := text.dropWhile fun c => c = ' ' || (9 ≤ c.toNat && c.toNat ≤ 13)
    let (isNegative, text) :=
      match text with
      | '-' :: rest => (true, rest)
      | '+' :: rest => (false, rest)
      | rest => (false, rest)
    let found :=
      match text with
      | '0' :: 'x' :: rest | '0' :: 'X' :: rest => leadingDigits? 16 rest
      | '0' :: rest => leadingDigits? 8 ('0' :: rest)
      | rest => leadingDigits? 10 rest
    match found with
    | some (size, rest) =>
      let (value, isInRange) := clamp isNegative size
      (value, isInRange && rest.isEmpty)
    | none => (0, false)

namespace Directive

def has (directive : Directive) (flag : Char) : Bool := directive.flags.contains flag

/-- Bytes with blanks in front of or behind them up to the width. -/
def pad (directive : Directive) (bytes : List UInt8) : List UInt8 :=
  let blanks := List.replicate (directive.width - bytes.length) 32
  if directive.has '-' then bytes ++ blanks else blanks ++ bytes

/-- A number with a sign or a mark in front of its digits. -/
def padNumber (directive : Directive) (lead digits : List Char) : List UInt8 :=
  let digits := List.replicate ((directive.precision.getD 1) - digits.length) '0' ++ digits
  let size := lead.length + digits.length
  let isZeroed := directive.has '0' && !directive.has '-' && directive.precision.isNone
  let zeros := if isZeroed then List.replicate (directive.width - size) '0' else []
  directive.pad (Text.Utf8.encode (lead ++ zeros ++ digits))

/-- How a number is shown. -/
def ofNumber (directive : Directive) (value : Int) : List UInt8 :=
  let unsigned := (value % (Nat.pow 2 64 : Nat)).toNat
  let inBase (base : Nat) : List Char := Nat.toDigits base unsigned
  let isMarked := directive.has '#' && unsigned != 0
  match directive.kind with
  | 'o' => directive.padNumber (if isMarked then ['0'] else []) (inBase 8)
  | 'x' => directive.padNumber (if isMarked then ['0', 'x'] else []) (inBase 16)
  | 'X' =>
    directive.padNumber (if isMarked then ['0', 'X'] else []) ((inBase 16).map Char.toUpper)
  | 'u' => directive.padNumber [] (inBase 10)
  | _ =>
    let size := min value.natAbs (Nat.pow 2 63 - if value < 0 then 0 else 1)
    let sign :=
      if value < 0 then ['-']
      else if directive.has '+' then ['+']
      else if directive.has ' ' then [' ']
      else []
    directive.padNumber sign (Nat.toDigits 10 size)

def apply (directive : Directive) (filled : Filled) : Filled :=
  let argument := filled.arguments.headD ""
  let cut (bytes : List UInt8) : List UInt8 := bytes.take (directive.precision.getD bytes.length)
  let rest := filled.arguments.tail
  let shown (bytes : List UInt8) : Filled :=
    { filled with bytes := filled.bytes ++ directive.pad bytes, arguments := rest }
  match directive.kind with
  | 's' => shown (cut (Text.Utf8.bytes argument))
  | 'b' =>
    let (bytes, goesOn) := unescaped argument
    { shown (cut bytes) with goesOn }
  | 'c' => shown ((Text.Utf8.bytes argument).take 1)
  | _ =>
    if "diouxX".toList.contains directive.kind then
      let (value, isWhole) := integer argument
      { filled with
        bytes := filled.bytes ++ directive.ofNumber value
        arguments := rest
        status := if isWhole then filled.status else 1 }
    else { filled with status := 2, goesOn := false }

end Directive

/-- A width or precision at the start of a format: digits, or a star that takes an argument. -/
def measure (format : List Char) (arguments : List String) :
    Option Int × List Char × List String :=
  match format with
  | '*' :: rest => (some (integer (arguments.headD "")).1, rest, arguments.tail)
  | _ =>
    match leadingDigits? 10 format with
    | some (number, rest) => (some number, rest, arguments)
    | none => (none, format, arguments)

/-- The directive behind a percent sign, what follows it, and the arguments left for it. -/
def directive? (format : List Char) (arguments : List String) :
    Option (Directive × List Char × List String) :=
  let isFlag (c : Char) : Bool := ['-', '+', ' ', '0', '#'].contains c
  let flags := format.takeWhile isFlag
  let (width, format, arguments) := measure (format.drop flags.length) arguments
  let (precision, format, arguments) :=
    match format with
    | '.' :: rest =>
      let (precision, format, arguments) := measure rest arguments
      (some ((precision.getD 0).toNat), format, arguments)
    | rest => (none, rest, arguments)
  let flags := if width.any (· < 0) then '-' :: flags else flags
  match format with
  | kind :: rest => some (⟨flags, (width.getD 0).natAbs, precision, kind⟩, rest, arguments)
  | [] => none

/-- One use of a format of at most `fuel` characters. -/
def once : Nat → List Char → Filled → Filled
  | 0, _, filled => filled
  | _, [], filled => filled
  | fuel + 1, '%' :: '%' :: rest, filled =>
    once fuel rest { filled with bytes := filled.bytes ++ [37] }
  | fuel + 1, '%' :: rest, filled =>
    match directive? rest filled.arguments with
    | some (directive, rest, arguments) =>
      let filled := directive.apply { filled with arguments }
      if filled.goesOn then once fuel rest filled else filled
    | none => { filled with status := 2, goesOn := false }
  | fuel + 1, '\\' :: rest, filled =>
    let (first, width) := escape rest
    once fuel (rest.drop width) { filled with bytes := filled.bytes ++ first }
  | fuel + 1, c :: rest, filled =>
    once fuel rest { filled with bytes := filled.bytes ++ charBytes c }

/-- All uses of a format, of which there are at most `fuel`. -/
def repeated (format : List Char) : Nat → Filled → Filled
  | 0, filled => filled
  | fuel + 1, filled =>
    let next := once (format.length + 1) format filled
    if !next.goesOn || next.arguments.isEmpty
        || next.arguments.length = filled.arguments.length then next
    else repeated format fuel next

/-- What a format filled with arguments prints, and the status. -/
def fill (format : String) (arguments : List String) : List UInt8 × Nat :=
  let filled := repeated format.toList (arguments.length + 1) ⟨[], arguments, 0, true⟩
  (filled.bytes, filled.status)

end SourceTrace.Shell.Format
