import SourceTrace.Shell.Program.Options

/-!
# Programs on lines

Programs that take lines or characters from their input, count them, order them or replace them.
-/
namespace SourceTrace.Shell.Program

/-- A number of lines or bytes, with a sign in front that may change its meaning. -/
structure Amount where
  sign : Option Char
  size : Nat

/-- The number of bytes that the letter behind a number stands for. -/
def unit? : List Char → Option Nat
  | [] => some 1
  | ['b'] => some 512
  | ['k'] | ['K'] => some 1024
  | ['M'] => some 1048576
  | _ => none

def amount? (text : String) : Option Amount := do
  let (sign, digits) :=
    match text.toList with
    | '-' :: rest => (some '-', rest)
    | '+' :: rest => (some '+', rest)
    | all => (none, all)
  let unit ← unit? (digits.dropWhile Char.isDigit)
  let number ← count? (String.ofList (digits.takeWhile Char.isDigit))
  return ⟨sign, number * unit⟩

/-- Arguments in which a number of lines given as an option of its own is one with a letter. -/
def withLineCount (arguments : List String) : List String :=
  match arguments with
  | first :: rest =>
    match first.toList with
    | sign :: c :: more =>
      if sign = '-' && (c :: more).all Char.isDigit then
        "-n" :: String.ofList (c :: more) :: rest
      else arguments
    | _ => arguments
  | [] => []

/-- The pieces that a text is cut into: its lines with their line feeds, or its characters. -/
def units (byLine : Bool) (text : List Char) : List (List Char) :=
  if byLine then
    let lines := linesOf text
    if text.getLast? = some '\n' then lines.map (· ++ ['\n'])
    else lines.dropLast.map (· ++ ['\n']) ++ lines.getLast?.toList
  else text.map fun c => [c]

/-- Prints a part of every input, with titles if there are several. -/
def excerpts (program : String) (given : Given) (part : List Char → List Char) : Running Unit := do
  let names := if given.operands.isEmpty then ["-"] else given.operands
  let isTitled := (1 < names.length || given.has 'v') && !given.has 'q'
  let rec go (isFirst : Bool) : List String → Running Bool
    | [] => pure true
    | name :: rest => do
      match ← operandBytes name with
      | .ok bytes =>
        let title := if name == "-" then "standard input" else name
        if isTitled then
          Running.printText ((if isFirst then "" else "\n") ++ s!"==> {title} <==\n").toList
        Running.printCharacters (part (characters bytes))
        go false rest
      | .error cause =>
        let what := if cause = .isADirectory then "error reading" else "cannot open"
        let how := if cause = .isADirectory then "" else " for reading"
        Running.complain s!"{program}: {what} '{name}'{how}: {reason cause}"
        discard (go isFirst rest)
        return false
  Running.setSuccess (← go true names)

def excerptOptions : Known where
  flags := "qvfz".toList
  valued := ['n', 'c']
  words := [("lines", 'n'), ("bytes", 'c'), ("quiet", 'q'), ("silent", 'q'), ("verbose", 'v')]

/-- The amount that was asked for last, and whether it counts lines. -/
def askedAmount (given : Given) : Option (Bool × Amount) :=
  match given.options.reverse.find? fun (letter, _) => letter = 'n' || letter = 'c' with
  | some (letter, text) => (amount? text).map fun amount => (letter = 'n', amount)
  | none => some (true, ⟨none, 10⟩)

def head (arguments : List String) : Running Unit := do
  match read excerptOptions true (withLineCount arguments) with
  | none => Running.setStatus 1
  | some given =>
    match askedAmount given with
    | none => Running.setStatus 1
    | some (byLine, amount) =>
      excerpts "head" given fun text =>
        let all := units byLine text
        let size := if amount.sign = some '-' then all.length - amount.size else amount.size
        (all.take size).flatten

def tail (arguments : List String) : Running Unit := do
  match read excerptOptions true (withLineCount arguments) with
  | none => Running.setStatus 1
  | some given =>
    match askedAmount given with
    | none => Running.setStatus 1
    | some (byLine, amount) =>
      excerpts "tail" given fun text =>
        let all := units byLine text
        let skipped :=
          if amount.sign = some '+' then amount.size - 1 else all.length - amount.size
        (all.drop skipped).flatten

/-- Characters that separate words. -/
def isSpace (c : Char) : Bool := c = ' ' || (9 ≤ c.toNat && c.toNat ≤ 13)

def wordCount (text : List Char) : Nat :=
  ((Text.split isSpace text).filter fun word => !word.isEmpty).length

def padded (width : Nat) (text : String) : String :=
  String.ofList (List.replicate (width - text.length) ' ') ++ text

/-- The counts that were asked for, in the order of lines, words, characters and bytes. -/
def counts (given : Given) (text : List Char) : List Nat :=
  let isAsked (letter : Char) : Bool := given.has letter
  let all := [('l', (text.filter (· == '\n')).length), ('w', wordCount text), ('m', text.length),
    ('c', text.length)]
  let asked := all.filter fun (letter, _) => isAsked letter
  let shown := if asked.isEmpty then all.filter fun (letter, _) => letter != 'm' else asked
  let longest := (linesOf text).foldl (fun found line => max found line.length) 0
  shown.map (·.2) ++ if given.has 'L' then [longest] else []

/-- Prints how many lines, words and bytes files have. A single number stands alone; more of them
are as wide as the size of all files, or seven wide if that is not known. -/
def wc (arguments : List String) : Running Unit := do
  let words := [("lines", 'l'), ("words", 'w'), ("bytes", 'c'), ("chars", 'm'),
    ("max-line-length", 'L')]
  match read ⟨"lwcmL".toList, [], words⟩ true arguments with
  | none => Running.setStatus 1
  | some given =>
    let isFile := (← get).inputIsFile
    let (texts, isComplete) ← inputs "wc: " given.operands
    let rows := texts.map fun (name, text) => (name, counts given text)
    let total := (texts.map fun (_, text) => text.length).foldl (· + ·) 0
    let size := (toString total).length
    let isKnown := texts.all fun (name, _) => name != "-" || isFile
    let isSingle := given.operands.length ≤ 1 && (counts given []).length = 1
    let width := if isSingle then 1 else if isKnown then size else max 7 size
    let row (name : String) (numbers : List Nat) : String :=
      let text := Text.join " " (numbers.map fun n => padded width (toString n))
      if given.operands.isEmpty then text else text ++ " " ++ name
    for (name, numbers) in rows do Running.printLine (row name numbers)
    if 1 < given.operands.length then
      let zeros := (counts given []).map fun _ => 0
      let sums := rows.foldl (fun sums (_, numbers) => List.zipWith (· + ·) sums numbers) zeros
      Running.printLine (row "total" sums)
    Running.setSuccess isComplete

def classOf? (name : String) : Option (Char → Bool) :=
  match name with
  | "upper" => some Char.isUpper
  | "lower" => some Char.isLower
  | "alpha" => some Char.isAlpha
  | "digit" => some Char.isDigit
  | "alnum" => some Char.isAlphanum
  | "space" => some isSpace
  | "blank" => some fun c => c = ' ' || c = '\t'
  | "punct" => some fun c => 33 ≤ c.toNat && c.toNat < 127 && !c.isAlphanum
  | "cntrl" => some fun c => c.toNat < 32 || c.toNat = 127
  | "print" => some fun c => 32 ≤ c.toNat && c.toNat < 127
  | "graph" => some fun c => 33 ≤ c.toNat && c.toNat < 127
  | "xdigit" => some fun c => c.isDigit || ('a' ≤ c && c ≤ 'f') || ('A' ≤ c && c ≤ 'F')
  | _ => none

/-- All characters that stand for bytes. -/
def everyByte : List Char := (List.range 256).map Char.ofNat

def span (first last : Char) : List Char :=
  everyByte.filter fun c => first ≤ c && c ≤ last

/-- The character that an escape stands for, and the rest. -/
def escaped : List Char → Char × List Char
  | [] => ('\\', [])
  | c :: rest =>
    let isOctal (c : Char) : Bool := '0' ≤ c && c ≤ '7'
    let digits := ((c :: rest).takeWhile isOctal).take 3
    if digits.isEmpty then
      let known := [('n', '\n'), ('t', '\t'), ('r', '\r'), ('a', '\x07'), ('b', '\x08'),
        ('f', '\x0c'), ('v', '\x0b')]
      ((List.lookup c known).getD c, rest)
    else
      let number := digits.foldl (fun n c => n * 8 + (c.toNat - 48)) 0
      (Char.ofNat (number % 256), (c :: rest).drop digits.length)

/-- The characters that a description of at most `fuel` characters lists. -/
def listed : Nat → List Char → List Char
  | 0, _ => []
  | _, [] => []
  | fuel + 1, '[' :: ':' :: rest =>
    match Text.cutAt? [':', ']'] rest with
    | some (name, rest) =>
      match classOf? (String.ofList name) with
      | some isMember => everyByte.filter isMember ++ listed fuel rest
      | none => listed fuel rest
    | none => '[' :: ':' :: listed fuel rest
  | fuel + 1, c :: rest =>
    let (first, rest) := if c = '\\' then escaped rest else (c, rest)
    match rest with
    | '-' :: d :: rest =>
      let (last, rest) := if d = '\\' then escaped rest else (d, rest)
      span first last ++ listed fuel rest
    | _ => first :: listed fuel rest

def listedIn (text : String) : List Char :=
  let description := byteText text
  listed (description.length + 1) description

/-- A text in which characters that stand several times in a row and are in a set stand once. -/
def squeezed (isMember : Char → Bool) : List Char → List Char
  | a :: b :: rest =>
    if a = b && isMember a then squeezed isMember (b :: rest)
    else a :: squeezed isMember (b :: rest)
  | text => text

def tr (arguments : List String) : Running Unit := do
  let words := [("delete", 'd'), ("squeeze-repeats", 's'), ("complement", 'c')]
  match read ⟨"cCdst".toList, [], words⟩ false arguments with
  | none => Running.setStatus 1
  | some given =>
    let isOutside := given.has 'c' || given.has 'C'
    let isDeleting := given.has 'd'
    let isSqueezing := given.has 's'
    let sets := given.operands.map listedIn
    let first := sets.headD []
    let chosen := if isOutside then everyByte.filter fun c => !first.contains c else first
    let second := (sets.drop 1).headD []
    let isWrong :=
      if isDeleting then sets.length != (if isSqueezing then 2 else 1)
      else if isSqueezing then sets.isEmpty || 2 < sets.length
      else sets.length != 2 || (second.isEmpty && !first.isEmpty)
    if isWrong then Running.setStatus 1
    else
      let text := characters (← Running.takeInput)
      let replace (c : Char) : Char :=
        match chosen.reverse.findIdx? (· == c) with
        | some index =>
          let place := chosen.length - 1 - index
          second.getD place (second.getLast?.getD c)
        | none => c
      let result :=
        if isDeleting then
          let kept := text.filter fun c => !chosen.contains c
          if isSqueezing then squeezed second.contains kept else kept
        else if sets.length = 1 then squeezed chosen.contains text
        else
          let changed := text.map replace
          if isSqueezing then squeezed second.contains changed else changed
      Running.printCharacters result
      Running.setStatus 0

/-- The value of a number at the start of a line, in billionths. -/
def leadingNumber (line : List Char) : Int :=
  let text := line.dropWhile fun c => c = ' ' || c = '\t'
  let (isNegative, text) :=
    match text with
    | '-' :: rest => (true, rest)
    | rest => (false, rest)
  let whole := text.takeWhile Char.isDigit
  let fraction :=
    match text.drop whole.length with
    | '.' :: rest => (rest.takeWhile Char.isDigit ++ List.replicate 9 '0').take 9
    | _ => List.replicate 9 '0'
  let size : Int := (whole ++ fraction).foldl (fun n c => n * 10 + (c.toNat - 48 : Nat)) 0
  if isNegative then -size else size

/-- The fields of a line: between dividers, or blanks with what follows them. -/
def fieldsOf (divider : Option Char) (line : List Char) : List (List Char) :=
  match divider with
  | some divider => Text.split (· == divider) line
  | none =>
    let isBlank (c : Char) : Bool := c = ' ' || c = '\t'
    let rec go : Nat → List Char → List (List Char)
      | 0, _ => []
      | fuel + 1, text =>
        if text.isEmpty then []
        else
          let blanks := text.takeWhile isBlank
          let word := (text.drop blanks.length).takeWhile fun c => !isBlank c
          (blanks ++ word) :: go fuel (text.drop (blanks.length + word.length))
    go (line.length + 1) line

structure SortKey where
  first : Nat
  last : Option Nat
  isNumeric : Bool
  isReversed : Bool
  ignoresCase : Bool

def sortKey? (isNumeric isReversed ignoresCase : Bool) (text : String) : Option SortKey := do
  let parts := (Text.split (· == ',') text.toList)
  let number (part : List Char) : Option Nat :=
    count? (String.ofList (part.takeWhile Char.isDigit))
  let first ← number (parts.headD [])
  let last ←
    match parts.drop 1 with
    | [] => some none
    | part :: _ => (number part).map some
  let marks := (parts.flatMap fun part => part.filter Char.isAlpha)
  if first = 0 then none
  else
    let isOwn := !marks.isEmpty
    return {
      first, last
      isNumeric := if isOwn then marks.contains 'n' else isNumeric
      isReversed := if isOwn then marks.contains 'r' else isReversed
      ignoresCase := if isOwn then marks.contains 'f' else ignoresCase }

def SortKey.compare (key : SortKey) (divider : Option Char) (left right : List Char) : Ordering :=
  let part (line : List Char) : List Char :=
    let fields := fieldsOf divider line
    let chosen := (fields.take (key.last.getD fields.length)).drop (key.first - 1)
    match divider with
    | some divider => ([divider].intercalate chosen)
    | none => chosen.flatten
  let (a, b) := (part left, part right)
  let fold (text : List Char) : List Char := if key.ignoresCase then text.map Char.toUpper else text
  let order :=
    if key.isNumeric then Ord.compare (leadingNumber a) (leadingNumber b)
    else if fold a = fold b then .eq
    else if charactersLe (fold a) (fold b) then .lt
    else .gt
  if key.isReversed then order.swap else order

def sort (arguments : List String) : Running Unit := do
  let words := [("reverse", 'r'), ("numeric-sort", 'n'), ("unique", 'u'), ("ignore-case", 'f'),
    ("key", 'k'), ("field-separator", 't'), ("output", 'o'), ("check", 'c'), ("stable", 's')]
  match read ⟨"rnufcsbdgiVh".toList, ['k', 't', 'o'], words⟩ true arguments with
  | none => Running.setStatus 2
  | some given =>
    let isReversed := given.has 'r'
    let asked := (given.values 'k').mapM (sortKey? (given.has 'n') isReversed (given.has 'f'))
    match asked with
    | none => Running.setStatus 2
    | some keys =>
      let divider := (given.value? 't').bind fun text => text.toList.head?
      let whole : SortKey := ⟨1, none, given.has 'n', isReversed, given.has 'f'⟩
      let keys := if keys.isEmpty then [whole] else keys
      let byKeys (left right : List Char) : Ordering :=
        keys.foldl (fun order key => order.then (key.compare divider left right)) .eq
      let byBytes (left right : List Char) : Bool :=
        if isReversed then charactersLe right left else charactersLe left right
      let isOrdered (left right : List Char) : Bool :=
        match byKeys left right with
        | .lt => true
        | .gt => false
        | .eq => given.has 's' || given.has 'u' || byBytes left right
      let (texts, isComplete) ← inputs "sort: cannot read: " given.operands
      let lines := texts.flatMap fun (_, text) => linesOf text
      if given.has 'c' then
        let isSorted := (lines.zip (lines.drop 1)).all fun (a, b) => isOrdered a b
        Running.setStatus (if isSorted then 0 else 1)
      else
        let sorted := Sorting.sort isOrdered lines
        let unique := sorted.foldr (fun line kept =>
          match kept with
          | next :: _ => if byKeys line next = .eq then line :: kept.tail else line :: kept
          | [] => [line]) []
        let result := unlines (if given.has 'u' then unique else sorted)
        if isComplete then
          match given.value? 'o' with
          | some target =>
            let path ← Running.resolve target
            Running.setStatus (if ← Running.write path (octets result) then 0 else 2)
          | none =>
            Running.printCharacters result
            Running.setStatus 0
        else Running.setStatus 2

/-- Lines with how often they stand in a row. -/
def grouped (same : List Char → List Char → Bool) : List (List Char) → List (Nat × List Char)
  | [] => []
  | line :: rest =>
    match grouped same rest with
    | (count, next) :: groups =>
      if same line next then (count + 1, line) :: groups else (1, line) :: (count, next) :: groups
    | [] => [(1, line)]

/-- Prints lines that stand several times in a row once. -/
def uniq (arguments : List String) : Running Unit := do
  match read ⟨"cdui".toList, [], [("count", 'c'), ("repeated", 'd'), ("unique", 'u')]⟩ true
      arguments with
  | none => Running.setStatus 1
  | some given =>
    let same (left right : List Char) : Bool :=
      if given.has 'i' then left.map Char.toLower = right.map Char.toLower else left = right
    let (texts, isComplete) ← inputs "uniq: " (given.operands.take 1)
    let groups := grouped same (texts.flatMap fun (_, text) => linesOf text)
    let shown := groups.filter fun (count, _) =>
      (!given.has 'd' || 1 < count) && (!given.has 'u' || count = 1)
    let result := unlines (shown.map fun (count, line) =>
      if given.has 'c' then (padded 7 (toString count) ++ " ").toList ++ line else line)
    match given.operands.drop 1 with
    | target :: _ =>
      let path ← Running.resolve target
      Running.setSuccess (isComplete && (← Running.write path (octets result)))
    | [] =>
      Running.printCharacters result
      Running.setSuccess isComplete

/-- The ranges of a list such as `1,3-5,7-`. -/
def ranges? (text : String) : Option (List (Nat × Option Nat)) :=
  (Text.split (· == ',') text.toList).mapM fun part =>
    match Text.cutAt? ['-'] part with
    | none => (count? (String.ofList part)).map fun n => (n, some n)
    | some ([], last) => (count? (String.ofList last)).map fun n => (1, some n)
    | some (first, []) => (count? (String.ofList first)).map fun n => (n, none)
    | some (first, last) => do
      return (← count? (String.ofList first), ← count? (String.ofList last))

/-- The elements whose numbers are in ranges; the first has number one. -/
def chosen {α : Type} (isOutside : Bool) (ranges : List (Nat × Option Nat)) (items : List α) :
    List α :=
  (items.zipIdx.filter fun (_, index) =>
    isOutside != ranges.any fun (first, last) =>
      first ≤ index + 1 && last.all (index + 1 ≤ ·)).map (·.1)

def cut (arguments : List String) : Running Unit := do
  let words := [("delimiter", 'd'), ("fields", 'f'), ("characters", 'c'), ("bytes", 'b'),
    ("only-delimited", 's'), ("complement", 'C'), ("output-delimiter", 'o')]
  match read ⟨['s', 'n', 'C'], ['d', 'f', 'c', 'b', 'o'], words⟩ true arguments with
  | none => Running.setStatus 1
  | some given =>
    let divider := ((given.value? 'd').bind fun text => (byteText text).head?).getD '\t'
    let between := ((given.value? 'o').map byteText).getD [divider]
    let byField := given.value? 'f'
    let asked := (byField.orElse fun _ => given.value? 'c').orElse fun _ => given.value? 'b'
    match asked.bind ranges? with
    | none => Running.setStatus 1
    | some ranges =>
      filtering "cut" given.operands fun text =>
        unlines ((linesOf text).filterMap fun line =>
          if byField.isNone then some (chosen (given.has 'C') ranges line)
          else if !line.contains divider then if given.has 's' then none else some line
          else
            let fields := chosen (given.has 'C') ranges (Text.split (· == divider) line)
            some (between.intercalate fields))

def tac (arguments : List String) : Running Unit :=
  filtering "tac" arguments fun text => (units true text).reverse.flatten

def rev (arguments : List String) : Running Unit :=
  filtering "rev" arguments fun text => unlines ((linesOf text).map List.reverse)

def nl (arguments : List String) : Running Unit := do
  match read ⟨['p'], ['b', 'w', 's', 'v', 'n'], []⟩ true arguments with
  | none => Running.setStatus 1
  | some given =>
    let width := ((given.value? 'w').bind count?).getD 6
    let between := (given.value? 's').getD "\t"
    let isAll := given.value? 'b' = some "a"
    filtering "nl" given.operands fun text =>
      let (_, lines) := (linesOf text).foldl (fun (number, lines) line =>
        if line.isEmpty && !isAll then
          (number, lines ++ [List.replicate (width + between.length) ' '])
        else
          (number + 1, lines ++ [(padded width (toString number) ++ between).toList ++ line]))
        (1, ([] : List (List Char)))
      unlines lines

def fold (arguments : List String) : Running Unit := do
  match read ⟨['b', 's'], ['w'], [("width", 'w')]⟩ true arguments with
  | none => Running.setStatus 1
  | some given =>
    let width := ((given.value? 'w').bind count?).getD 80
    if width = 0 then Running.setStatus 1
    else
      filtering "fold" given.operands fun text =>
        let rec pieces : Nat → List Char → List (List Char)
          | 0, _ => []
          | fuel + 1, line =>
            if line.length ≤ width then [line]
            else line.take width :: pieces fuel (line.drop width)
        unlines ((linesOf text).flatMap fun line => pieces (line.length + 1) line)

/-- Puts lines of files next to one another, or all lines of a file. -/
def paste (arguments : List String) : Running Unit := do
  match read ⟨['s'], ['d'], [("serial", 's'), ("delimiters", 'd')]⟩ true arguments with
  | none => Running.setStatus 1
  | some given =>
    let dividers := ((given.value? 'd').map listedIn).getD ['\t']
    let divider (index : Nat) : List Char :=
      if dividers.isEmpty then [] else [dividers.getD (index % dividers.length) '\t']
    let join (parts : List (List Char)) : List Char :=
      (parts.zipIdx.map fun (part, index) =>
        if index = 0 then part else divider (index - 1) ++ part).flatten
    let (texts, isComplete) ← inputs "paste: " given.operands
    let columns := texts.map fun (_, text) => linesOf text
    if given.has 's' then Running.printCharacters (unlines (columns.map join))
    else
      let height := columns.foldl (fun found column => max found column.length) 0
      Running.printCharacters (unlines ((List.range height).map fun row =>
        join (columns.map fun column => column.getD row [])))
    Running.setSuccess isComplete

end SourceTrace.Shell.Program
