import SourceTrace.Text.Identifier
import SourceTrace.Text.PrintableRanges

/-!
# Quoted text in messages

Texts and characters that a message shows between quotes. Line breaks, tabs, NUL, the backslash and
the quote itself are written as two characters; anything that would not show on its own is written
as its code point between braces.
-/
namespace SourceTrace.Text.Quoted

/-- A code point written as a backslash, `u` and its hexadecimal digits between braces. -/
def codePoint (c : Char) : List Char :=
  "\\u\x7b".toList ++ Nat.toDigits 16 c.toNat ++ ['\x7d']

/-- Whether a character shows on its own: it is printable and does not extend the one before. -/
def isVisible (c : Char) : Bool :=
  !(Identifier.inRanges extendRanges c.toNat || Identifier.inRanges unprintableRanges c.toNat)

/-- How one character is written between quotes of the given kind. -/
def escape (quote c : Char) : List Char :=
  if c = '\x00' then ['\\', '0']
  else if c = '\t' then ['\\', 't']
  else if c = '\r' then ['\\', 'r']
  else if c = '\n' then ['\\', 'n']
  else if c = '\\' then ['\\', '\\']
  else if c = quote then ['\\', quote]
  else if isVisible c then [c]
  else codePoint c

def text (s : String) : String :=
  String.ofList ('"' :: s.toList.flatMap (escape '"') ++ ['"'])

def char (c : Char) : String :=
  String.ofList ('\'' :: escape '\'' c ++ ['\''])

end SourceTrace.Text.Quoted
