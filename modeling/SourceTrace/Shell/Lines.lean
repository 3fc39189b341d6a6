import SourceTrace.Shell.Machine

/-!
# Lines of bytes

Programs that work on lines take every byte for a character of its own. A line ends with a line
feed; what stands behind the last line feed is a line too if it is not empty.
-/
namespace SourceTrace.Shell

/-- Bytes as the characters with the same numbers. -/
def characters (bytes : List UInt8) : List Char := bytes.map fun b => Char.ofNat b.toNat

/-- The bytes that characters stand for. -/
def octets (text : List Char) : List UInt8 := text.map fun c => UInt8.ofNat c.toNat

/-- A text as characters that stand for its bytes. -/
def byteText (text : String) : List Char := characters (Text.Utf8.bytes text)

/-- The lines of a text, without their line feeds. -/
def linesOf (text : List Char) : List (List Char) :=
  let pieces := Text.split (· == '\n') text
  if pieces.getLast? = some [] then pieces.dropLast else pieces

/-- A text with a line feed behind every line. -/
def unlines (lines : List (List Char)) : List Char := lines.flatMap fun line => line ++ ['\n']

/-- Whether one text stands in front of another in the order of bytes, or is equal to it. -/
def charactersLe : List Char → List Char → Bool
  | [], _ => true
  | _ :: _, [] => false
  | a :: left, b :: right => if a = b then charactersLe left right else a < b

def Running.printCharacters (text : List Char) : Running Unit := Running.print (octets text)

end SourceTrace.Shell
