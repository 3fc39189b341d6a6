import SourceTrace.Shell.Program.Filters

/-!
# Regular expressions

Expressions in the two usual spellings. A search finds the leftmost match, and of those that start
there the longest. Matching lists all ways to match, so that back references see every choice.
-/
namespace SourceTrace.Shell

inductive Regex where
  | nothing
  | exact (c : Char)
  /-- Any one character. -/
  | any
  /-- One of the characters, or one of all others. -/
  | oneOf (outside : Bool) (members : List Char)
  /-- The start of the text. -/
  | start
  /-- The end of the text. -/
  | finish
  /-- A place where a word starts or ends. -/
  | edge (isStart isEnd : Bool)
  | sequence (first second : Regex)
  | either (first second : Regex)
  /-- At least and at most a number of times. -/
  | repeated (least : Nat) (most : Option Nat) (inner : Regex)
  /-- A part whose match is kept under a number. -/
  | group (number : Nat) (inner : Regex)
  /-- What a numbered part has matched. -/
  | again (number : Nat)
  deriving Repr

namespace Regex

inductive Token where
  /-- An expression that needs no other one. -/
  | leaf (regex : Regex)
  | opening
  | closing
  | bar
  | times (least : Nat) (most : Option Nat)
  deriving Repr

/-- Whether an expression starts behind a token. -/
def isFresh : Option Token → Bool
  | none | some .opening | some .bar => true
  | _ => false

def isWord (c : Char) : Bool := c.isAlphanum || c = '_'

/-- The members of a set up to its closing bracket, and the rest. The set has at most `fuel`
characters. -/
def members : Nat → Bool → List Char → Option (List Char × List Char)
  | 0, _, _ => none
  | _, _, [] => none
  | fuel + 1, _, '[' :: ':' :: rest => do
    let (name, rest) ← Text.cutAt? [':', ']'] rest
    let isMember ← Program.classOf? (String.ofList name)
    let (more, rest) ← members fuel false rest
    return (Program.everyByte.filter isMember ++ more, rest)
  | fuel + 1, isFirst, c :: rest =>
    if c = ']' && !isFirst then some ([], rest)
    else
      match rest with
      | '-' :: d :: rest =>
        if d = ']' then (members fuel false ('-' :: d :: rest)).map fun (more, rest) =>
          (c :: more, rest)
        else (members fuel false rest).map fun (more, rest) => (Program.span c d ++ more, rest)
      | _ => (members fuel false rest).map fun (more, rest) => (c :: more, rest)

/-- The set behind an opening bracket, and the rest. -/
def set? (text : List Char) : Option (Regex × List Char) :=
  let (outside, text) :=
    match text with
    | '^' :: rest => (true, rest)
    | rest => (false, rest)
  (members (text.length + 1) true text).map fun (found, rest) => (.oneOf outside found, rest)

/-- The numbers of a repetition up to its end, and the rest. -/
def bounds? (ending : List Char) (text : List Char) : Option (Token × List Char) := do
  let (inner, rest) ← Text.cutAt? ending text
  let number (digits : List Char) : Option Nat := Program.count? (String.ofList digits)
  match Text.cutAt? [','] inner with
  | none =>
    let n ← number inner
    return (.times n (some n), rest)
  | some ([], most) => return (.times 0 (some (← number most)), rest)
  | some (least, []) => return (.times (← number least) none, rest)
  | some (least, most) => return (.times (← number least) (some (← number most)), rest)

/-- What a backslash and a character mean in both spellings, if that is more than the character. -/
def special? (c : Char) : Option Regex :=
  match c with
  | 'n' => some (.exact '\n')
  | 't' => some (.exact '\t')
  | 'w' => some (.oneOf false (Program.everyByte.filter isWord))
  | 'W' => some (.oneOf true (Program.everyByte.filter isWord))
  | 's' => some (.oneOf false (Program.everyByte.filter Program.isSpace))
  | 'S' => some (.oneOf true (Program.everyByte.filter Program.isSpace))
  | 'b' => some (.edge true true)
  | '<' => some (.edge true false)
  | '>' => some (.edge false true)
  | _ => if '1' ≤ c && c ≤ '9' then some (.again (c.toNat - 48)) else none

/-- The operator of a character, which is written bare in one spelling and behind a backslash in the
other, with the rest. -/
def operator? (isExtended : Bool) (c : Char) (rest : List Char) : Option (Token × List Char) :=
  match c with
  | '(' => some (.opening, rest)
  | ')' => some (.closing, rest)
  | '|' => some (.bar, rest)
  | '+' => some (.times 1 none, rest)
  | '?' => some (.times 0 (some 1), rest)
  | '\x7b' => bounds? (if isExtended then ['\x7d'] else ['\\', '\x7d']) rest
  | _ => none

/-- Whether an expression of the plain spelling ends here. -/
def endsHere (isExtended : Bool) : List Char → Bool
  | [] => true
  | '\\' :: ')' :: _ | '\\' :: '|' :: _ => !isExtended
  | _ => isExtended

/-- The tokens of an expression of at most `fuel` characters that stands behind a token. -/
def tokens? (isExtended : Bool) : Nat → Option Token → List Char → Option (List Token)
  | 0, _, _ => none
  | _, _, [] => some []
  | fuel + 1, previous, c :: rest =>
    let go (token : Token) (rest : List Char) : Option (List Token) :=
      (tokens? isExtended fuel (some token) rest).map (token :: ·)
    let leaf (regex : Regex) (rest : List Char) : Option (List Token) := go (.leaf regex) rest
    match c, rest with
    | '\\', d :: rest =>
      match if isExtended then none else operator? false d rest with
      | some (token, rest) => go token rest
      | none => leaf ((special? d).getD (.exact d)) rest
    | '\\', [] => none
    | '.', _ => leaf .any rest
    | '[', _ => do
      let (regex, rest) ← set? rest
      leaf regex rest
    | '*', _ =>
      if isFresh previous || (!isExtended && isStart previous) then leaf (.exact '*') rest
      else go (.times 0 none) rest
    | '^', _ =>
      if isExtended || isFresh previous then leaf .start rest else leaf (.exact '^') rest
    | '$', _ => if endsHere isExtended rest then leaf .finish rest else leaf (.exact '$') rest
    | _, _ =>
      match if isExtended then operator? true c rest else none with
      | some (token, rest) => go token rest
      | none => leaf (.exact c) rest
where
  /-- Whether a token is the start of the text. -/
  isStart : Option Token → Bool
    | some (.leaf .start) => true
    | _ => false

mutual
/-- Reads choices; the number is that of the groups so far. -/
def choices : Nat → Nat → List Token → Option (Regex × Nat × List Token)
  | 0, _, _ => none
  | fuel + 1, groups, tokens => do
    let (first, groups, rest) ← branch fuel .nothing groups tokens
    match rest with
    | .bar :: rest => do
      let (second, groups, rest) ← choices fuel groups rest
      return (.either first second, groups, rest)
    | rest => return (first, groups, rest)

/-- Reads what follows an expression up to the end of a choice. -/
def branch : Nat → Regex → Nat → List Token → Option (Regex × Nat × List Token)
  | 0, _, _, _ => none
  | fuel + 1, before, groups, tokens =>
    match tokens with
    | .leaf regex :: rest => continued fuel before regex groups rest
    | .opening :: rest => do
      let number := groups + 1
      let (inner, groups, rest) ← choices fuel number rest
      match rest with
      | .closing :: rest => continued fuel before (.group number inner) groups rest
      | _ => none
    | .times _ _ :: rest => branch fuel before groups rest
    | rest => some (before, groups, rest)

/-- Reads the repetitions of an expression and what follows it. -/
def continued : Nat → Regex → Regex → Nat → List Token → Option (Regex × Nat × List Token)
  | 0, _, _, _, _ => none
  | fuel + 1, before, regex, groups, tokens =>
    match tokens with
    | .times least most :: rest => continued fuel before (.repeated least most regex) groups rest
    | rest => branch fuel (.sequence before regex) groups rest
end

def parse? (isExtended : Bool) (text : List Char) : Option Regex := do
  let tokens ← tokens? isExtended (text.length + 1) none text
  let (regex, _, rest) ← choices (4 * tokens.length + 4) 0 tokens
  if rest.isEmpty then some regex else none

/-- The expression that matches a text itself. -/
def ofText (text : List Char) : Regex :=
  text.foldl (fun regex c => .sequence regex (.exact c)) .nothing

/-- A bound on the steps that one pass over an expression takes. -/
def size : Regex → Nat
  | .sequence first second | .either first second => first.size + second.size + 1
  | .repeated least most inner => (least + most.getD 0 + 1) * (inner.size + 1)
  | .group _ inner => inner.size + 1
  | _ => 1

/-- A place in a text: what is in front of it, the nearest first, what follows, and what the
numbered parts have matched. -/
structure Place where
  before : List Char
  rest : List Char
  groups : List (Nat × List Char)

/-- The places behind one character that fulfils a test. -/
def Place.step (place : Place) (test : Char → Bool) : List Place :=
  match place.rest with
  | c :: rest => if test c then [{ place with before := c :: place.before, rest }] else []
  | [] => []

/-- The place behind a text that comes next. -/
def Place.skip (place : Place) (same : Char → Char → Bool) (text : List Char) : List Place :=
  text.foldl (fun places c => places.flatMap fun place => place.step (same c)) [place]

def Place.isEdge (place : Place) (isStart isEnd : Bool) : Bool :=
  let front := place.before.head?.any isWord
  let back := place.rest.head?.any isWord
  (isStart && !front && back) || (isEnd && front && !back)

/-- The places behind all matches of an expression, those of more repetitions first. The search goes
at most `fuel` steps deep. -/
def places (same : Char → Char → Bool) : Nat → Regex → Place → List Place
  | 0, _, _ => []
  | fuel + 1, regex, place =>
    match regex with
    | .nothing => [place]
    | .exact c => place.step (same c)
    | .any => place.step fun _ => true
    | .oneOf outside members => place.step fun c => outside != members.any fun d => same d c
    | .start => if place.before.isEmpty then [place] else []
    | .finish => if place.rest.isEmpty then [place] else []
    | .edge isStart isEnd => if place.isEdge isStart isEnd then [place] else []
    | .sequence first second =>
      (places same fuel first place).flatMap fun next => places same fuel second next
    | .either first second => places same fuel first place ++ places same fuel second place
    | .group number inner =>
      (places same fuel inner place).map fun next =>
        let found := place.rest.take (place.rest.length - next.rest.length)
        let others := next.groups.filter fun (known, _) => known != number
        { next with groups := (number, found) :: others }
    | .again number =>
      match List.lookup number place.groups with
      | some text => place.skip same text
      | none => []
    | .repeated least most inner =>
      let further :=
        if most = some 0 then []
        else
          ((places same fuel inner place).filter fun next =>
            0 < least || next.rest.length < place.rest.length).flatMap fun next =>
              places same fuel (.repeated (least - 1) (most.map (· - 1)) inner) next
      if least = 0 then further ++ [place] else further

structure Match where
  /-- What is between the place where the search began and the match. -/
  front : List Char
  found : List Char
  groups : List (Nat × List Char)
  rest : List Char

/-- The longest match at a place. -/
def longest? (same : Char → Char → Bool) (regex : Regex) (place : Place) : Option Place :=
  let fuel := (place.rest.length + 2) * (regex.size + 2)
  (places same fuel regex place).foldl (fun best next =>
    match best with
    | some old => if next.rest.length < old.rest.length then some next else best
    | none => some next) none

/-- The first match at or behind a place. -/
def search (same : Char → Char → Bool) (regex : Regex) (front before : List Char) :
    List Char → Option Match
  | [] =>
    (longest? same regex ⟨before, [], []⟩).map fun next => ⟨front.reverse, [], next.groups, []⟩
  | c :: rest =>
    match longest? same regex ⟨before, c :: rest, []⟩ with
    | some next =>
      let width := (c :: rest).length - next.rest.length
      some ⟨front.reverse, (c :: rest).take width, next.groups, next.rest⟩
    | none => search same regex (c :: front) (c :: before) rest

def sameness (ignoresCase : Bool) (left right : Char) : Bool :=
  if ignoresCase then left.toLower = right.toLower else left = right

def find? (ignoresCase : Bool) (regex : Regex) (text : List Char) : Option Match :=
  search (sameness ignoresCase) regex [] [] text

/-- All matches that do not overlap, at most `fuel` of them. Of each one the text in front of it is
what lies behind the last one. An empty match directly behind another match does not count. -/
def allFrom (same : Char → Char → Bool) (regex : Regex) :
    Nat → Bool → List Char → List Char → List Match
  | 0, _, _, _ => []
  | fuel + 1, isBehind, before, text =>
    match search same regex [] before text with
    | none => []
    | some found =>
      if found.found.isEmpty then
        let skipped := isBehind && found.front.isEmpty
        let passed := found.front.reverse ++ before
        match found.rest with
        | [] => if skipped then [] else [found]
        | c :: rest =>
          let more := allFrom same regex fuel false (c :: passed) rest
          let behind :=
            match more with
            | next :: others => { next with front := c :: next.front } :: others
            | [] => []
          if skipped then behind else found :: behind
      else
        let passed := found.found.reverse ++ found.front.reverse ++ before
        found :: allFrom same regex fuel true passed found.rest

/-- All matches in a text that do not overlap. -/
def all (ignoresCase : Bool) (regex : Regex) (text : List Char) : List Match :=
  allFrom (sameness ignoresCase) regex (text.length + 2) false [] text

end Regex

end SourceTrace.Shell
