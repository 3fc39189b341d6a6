import SourceTrace.Domain.Name
import SourceTrace.Text.Utf8
import SourceTrace.Url.Address

/-!
# The host of a URL

What stands between the slashes behind a scheme and the path: perhaps a user, a host, and perhaps a
number behind a colon. The schemes of the web need a domain name or an address as their host; any
other scheme takes nearly every text, also none.
-/
namespace SourceTrace.Url

/-- Both spellings of the divider of path segments. -/
def isSlash (c : Char) : Bool := c == '/' || c == '\\'

/-- Where the host or the path of a URL ends. -/
def isEnd (c : Char) : Bool := c == '?' || c == '#'

inductive Host where
  /-- No host at all. -/
  | missing
  /-- The host that stands for this machine. -/
  | here
  /-- Any other host. -/
  | elsewhere
  deriving DecidableEq, Repr

/-- The text between brackets that a host starts with, if it starts with one. A bracket that is not
closed at the end of the host leaves nothing. -/
def bracketed? : List Char → Option (Option (List Char))
  | '[' :: rest => some (Text.before? [']'] rest)
  | _ => none

/-- The host that the labels of a domain name stand for: a name that ends in a number must be an
address. -/
def hostOfLabels? (labels : List (List Char)) : Option Host :=
  let shown := if labels.getLast? == some [] then labels.dropLast else labels
  if labels == [[]] then none
  else if shown.getLast?.any isNumber then if isAddress shown then some .elsewhere else none
  else some (if labels == ["localhost".toList] then .here else .elsewhere)

/-- Reads the host of a web address. Escapes are read back first. -/
def webHost? (text : List Char) : Option Host :=
  match bracketed? text with
  | some inner => if inner.any isLongAddress then some .elsewhere else none
  | none => do
    let name ← Text.Utf8.decode? (Percent.decode (Text.Utf8.encode text))
    hostOfLabels? (← Domain.labels? name.toList)

/-- A character that no host may hold, of whatever scheme. -/
def isForbiddenAnywhere (c : Char) : Bool :=
  c.toNat = 0 || " #/:<>?@[\\]^|".toList.contains c

/-- Reads the host of a URL that is no web address. -/
def otherHost? (text : List Char) : Option Host :=
  match bracketed? text with
  | some inner => if inner.any isLongAddress then some .elsewhere else none
  | none =>
    if text.any isForbiddenAnywhere then none
    else some (if text.isEmpty then .missing else .elsewhere)

/-- The kinds of URLs that differ in how they read their host. -/
inductive Kind where
  | web
  | other
  deriving DecidableEq, Repr

/-- Whether a character ends the authority. -/
def Kind.isStop (kind : Kind) (c : Char) : Bool :=
  c == '/' || isEnd c || (kind == .web && c == '\\')

/-- Cuts a text behind its host: a colon ends it outside of brackets. -/
def cutHost (kind : Kind) (inside : Bool) : List Char → List Char × List Char
  | [] => ([], [])
  | c :: rest =>
    if kind.isStop c || (c == ':' && !inside) then ([], c :: rest)
    else
      let inside := if c == '[' then true else if c == ']' then false else inside
      let (host, left) := cutHost kind inside rest
      (c :: host, left)

/-- Whether a text starts with a number of sixteen bits, or none, that ends where the path may
start. A backslash may end it in every URL. -/
def startsWithNumber (text : List Char) : Bool :=
  let digits := text.takeWhile Char.isDigit
  let stops := match text.drop digits.length with
    | [] => true
    | c :: _ => isSlash c || isEnd c
  stops && digits.foldl (fun n c => n * 10 + (c.toNat - 48)) 0 < 65536

/-- A user and what follows the sign behind it. The last such sign counts. -/
def cutUser? (kind : Kind) (text : List Char) : Option (List Char × List Char) :=
  let authority := text.takeWhile fun c => !kind.isStop c
  let tail := authority.reverse.takeWhile (· != '@')
  if tail.length == authority.length then none
  else
    let user := authority.take (authority.length - tail.length - 1)
    some (user, text.drop (user.length + 1))

/-- Whether a text starts with a host and a number that a URL can have. A user needs a host behind
it, unless nothing or a lone colon stands for the user. -/
def startsWithHost (kind : Kind) (text : List Char) : Bool :=
  let (user, rest) := (cutUser? kind text).getD ([], text)
  let broken := (cutUser? kind text).isSome && user.isEmpty && rest.head?.any kind.isStop
  let (host, left) := cutHost kind false rest
  let reading := match kind with
    | .web => if host.isEmpty then none else webHost? host
    | .other => otherHost? host
  match reading with
  | none => false
  | some host =>
    let isNumbered := match left with
      | ':' :: text => host != .missing && startsWithNumber text
      | _ => true
    !broken && isNumbered && (host != .missing || user.isEmpty || user == [':'])

end SourceTrace.Url
