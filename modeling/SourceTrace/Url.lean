import SourceTrace.Url.FilePath

/-!
# URLs in source lists

How much of the URL standard a source list needs: whether a text is a URL at all, and which local
file a `file:` URL names. A text without a scheme is no URL. The schemes of the web need a host that
can be one, or the text is no URL either; any other scheme accepts any text, except that what stands
behind two slashes must be able to be a host.
-/
namespace SourceTrace.Url

/-- What a text is when it is read as a URL. -/
inductive Reading where
  /-- No URL. -/
  | plain
  /-- A URL that names no local file. -/
  | foreign
  /-- A URL that names a local file. -/
  | file (path : Path)
  deriving DecidableEq, Repr

/-- A text without the controls and spaces at its ends. -/
def trim (text : List Char) : List Char :=
  let isBlank (c : Char) : Bool := c.toNat ≤ 0x20
  ((text.dropWhile isBlank).reverse.dropWhile isBlank).reverse

/-- A character that may stand in a scheme behind its first letter. -/
def isSchemeChar (c : Char) : Bool := c.isAlphanum || c == '+' || c == '-' || c == '.'

/-- The scheme of a text in lower case and what follows its colon; `read` is what has been read of
the scheme, backwards. -/
def schemeFrom (read : List Char) : List Char → Option (String × List Char)
  | [] => none
  | c :: rest =>
    if isIgnored c then schemeFrom read rest
    else if c == ':' then
      if read.isEmpty then none else some (String.ofList read.reverse, rest)
    else if c.isAlpha || (!read.isEmpty && isSchemeChar c) then
      schemeFrom (c.toLower :: read) rest
    else none

def scheme? (text : List Char) : Option (String × List Char) := schemeFrom [] text

def afterSlash? (text : List Char) : Option (List Char) :=
  match text.dropWhile isIgnored with
  | c :: rest => if isSlash c then some rest else none
  | [] => none

/-- Reads what follows `file://`. Only a missing host and the one for this machine name files of
this machine, but a drive letter at the start of the path makes up for any host. A drive letter in
the place of the host belongs to the path. -/
def readHosted (text : List Char) : Reading :=
  let place := text.takeWhile fun c => !(isSlash c || isEnd c)
  let path := text.drop place.length
  let host := place.filter (!isIgnored ·)
  if isDrive host then .file (FilePath.read text).target
  else if host.isEmpty then .file (FilePath.read path).target
  else
    match webHost? host with
    | none => .plain
    | some .here => .file (FilePath.read path).target
    | some _ =>
      let path := FilePath.read ((afterSlash? path).getD path)
      if path.hasDrive then .file path.target else .foreign

def readFile (text : List Char) : Reading :=
  match afterSlash? text with
  | none => .file (FilePath.read text).target
  | some rest =>
    match afterSlash? rest with
    | none => .file (FilePath.read rest).target
    | some hosted => readHosted hosted

/-- The schemes of the web, which need a host. -/
def webSchemes : List String := ["http", "https", "ftp", "ws", "wss"]

/-- Reads a text as a URL. A scheme of one letter is a drive letter and makes no URL. -/
def read (text : String) : Reading :=
  match scheme? (trim text.toList) with
  | none => .plain
  | some (scheme, rest) =>
    if scheme.length ≤ 1 then .plain
    else if scheme == "file" then readFile rest
    else
      let rest := rest.filter (!isIgnored ·)
      if webSchemes.contains scheme then
        if startsWithHost .web (rest.dropWhile isSlash) then .foreign else .plain
      else
        match Text.after? ['/', '/'] rest with
        | some authority => if startsWithHost .other authority then .foreign else .plain
        | none => .foreign

end SourceTrace.Url
