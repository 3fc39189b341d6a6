import SourceTrace.Path
import SourceTrace.Percent
import SourceTrace.Text.Utf8
import SourceTrace.Url.Host

/-!
# The path of a file URL

A path is read segment by segment. Dots are resolved on the way, but a drive letter at the start of
the path is never taken back. The text of the path is kept with its slashes, since two slashes in a
row have an empty segment between them that two dots take back.

Tabs and line breaks are left out wherever they stand. They have one effect: behind a drive letter
they end its segment.
-/
namespace SourceTrace.Url

/-- A character that is left out of every URL. -/
def isIgnored (c : Char) : Bool := c == '\t' || c == '\n' || c == '\r'

def isDrive : List Char → Bool
  | [letter, mark] => letter.isAlpha && (mark == ':' || mark == '|')
  | _ => false

def isPlainDrive : List Char → Bool
  | [letter, ':'] => letter.isAlpha
  | _ => false

/-- Whether a segment is one dot, plain or escaped. -/
def isDot (segment : List Char) : Bool :=
  [".", "%2e"].any fun dot => Text.sameIgnoringCase dot.toList segment

/-- Whether a segment is two dots, plain or escaped. -/
def isDotDot (segment : List Char) : Bool :=
  ["..", ".%2e", "%2e.", "%2e%2e"].any fun dots => Text.sameIgnoringCase dots.toList segment

structure Segment where
  text : List Char
  /-- Whether a slash follows it. -/
  hasSlash : Bool
  /-- Whether it starts with a drive letter that an ignored character cut off. -/
  isCut : Bool
  deriving DecidableEq, Repr

/-- Reads a segment that may start with a drive letter if `first` says so; `text` is what has been
read of it, backwards, and `settled` tells that an ignored character came last. Gives the segment
and what follows its slash. -/
def readSegment (first settled isCut : Bool) (text : List Char) :
    List Char → Segment × List Char
  | [] => (⟨text.reverse, false, isCut⟩, [])
  | c :: rest =>
    if isIgnored c then readSegment first true isCut text rest
    else if isSlash c then (⟨text.reverse, true, isCut⟩, rest)
    else if first && settled && isPlainDrive text.reverse then
      readSegment first false true (c :: '/' :: text) rest
    else readSegment first false isCut (c :: text) rest

/-- The segments of a path, of which there are fewer than `fuel`. -/
def segmentsFrom (first : Bool) : Nat → List Char → List Segment
  | 0, _ => []
  | fuel + 1, text =>
    let (segment, rest) := readSegment first false false [] text
    if segment.hasSlash then segment :: segmentsFrom false fuel rest else [segment]

/-- A path text without its last segment, behind a slash or without it. -/
def beforeLast (path : List Char) : List Char :=
  (path.reverse.dropWhile (· != '/')).reverse

/-- The slash at the end of a path can go unless it is the only one or follows a drive letter. -/
def dropEndSlash (path : List Char) : List Char :=
  match path.reverse with
  | '/' :: before =>
    let last := (before.takeWhile (· != '/')).reverse
    if before.contains '/' && !isDrive last then before.reverse else path
  | _ => path

/-- A path text without the segment that two dots take back. A drive letter stays. -/
def takeBack (path : List Char) : List Char :=
  let kept := dropEndSlash path
  let last := (kept.reverse.takeWhile (· != '/')).reverse
  if isPlainDrive last then kept else beforeLast kept

def withEndSlash (path : List Char) : List Char :=
  if path.getLast? == some '/' then path else path ++ ['/']

/-- A path on the way: its text, and whether it starts with a drive letter. -/
structure FilePath where
  text : List Char
  hasDrive : Bool
  deriving DecidableEq, Repr

/-- Adds a segment to a path. A drive letter behind the first slash gets a colon. -/
def FilePath.add (path : FilePath) (segment : Segment) : FilePath :=
  let close (text : List Char) : List Char := if segment.hasSlash then text ++ ['/'] else text
  if segment.isCut then { path with text := close (path.text ++ segment.text) }
  else if isDotDot segment.text then
    let above := takeBack path.text
    { path with text := if segment.hasSlash then withEndSlash above else above }
  else if isDot segment.text then { path with text := withEndSlash path.text }
  else if path.text.length == 1 && isDrive segment.text then
    ⟨close (path.text ++ segment.text.take 1 ++ [':']), true⟩
  else { path with text := close (path.text ++ segment.text) }

def FilePath.read (text : List Char) : FilePath :=
  let path := text.takeWhile fun c => !isEnd c
  (segmentsFrom true (path.length + 1) path).foldl FilePath.add ⟨['/'], false⟩

/-- The file that a path names: one slash at the start, and all escapes read back. Bytes that are no
UTF-8 become U+FFFD, since a path is a text. -/
def FilePath.target (path : FilePath) : Path :=
  let text := '/' :: path.text.dropWhile (· == '/')
  ⟨Text.Utf8.decodeLossy (Percent.decode (Text.Utf8.encode text))⟩

end SourceTrace.Url
