import SourceTrace.Shell.Regex

/-!
# Editing lines

The program that runs a list of editing steps on every line of its input. A step may be limited to
lines, work on the current line or on a text that is held beside it, and go on at another step.
-/
namespace SourceTrace.Shell.Program.Sed

inductive Address where
  | line (number : Nat)
  | last
  | found (ignoresCase : Bool) (regex : Regex)
  /-- Every so many lines from one on. -/
  | every (first step : Nat)
  /-- A number of lines behind the start of a range. -/
  | further (count : Nat)
  deriving Repr

/-- A part of the text that takes the place of a match. -/
inductive Filling where
  | text (c : Char)
  /-- What a numbered part has matched; number zero is the whole match. -/
  | group (number : Nat)
  deriving Repr

structure Substitution where
  regex : Regex
  filling : List Filling
  ignoresCase : Bool
  isGlobal : Bool
  prints : Bool
  /-- The first match that is replaced. -/
  first : Nat
  deriving Repr

inductive Action where
  | substitute (substitution : Substitution)
  /-- Replaces characters one by one. -/
  | exchangeCharacters (before after : List Char)
  /-- A command without anything else to say. -/
  | plain (letter : Char)
  /-- Ends the editing with a status. -/
  | quit (isSilent : Bool) (status : Nat)
  /-- Shows a text behind, in front of or in place of a line. -/
  | show (letter : Char) (text : List Char)
  | label (name : List Char)
  /-- Goes on at a label, perhaps only after a replacement. -/
  | jump (letter : Char) (name : List Char)
  deriving Repr

structure Step where
  first : Option Address
  last : Option Address
  isNegated : Bool
  action : Action
  deriving Repr

/-- The text up to a divider, and the rest. A backslash takes the meaning from the divider. -/
def delimited (divider : Char) : List Char → Option (List Char × List Char)
  | [] => none
  | '\\' :: c :: rest =>
    (delimited divider rest).map fun (text, rest) =>
      if c = divider && divider != 'n' then (c :: text, rest) else ('\\' :: c :: text, rest)
  | c :: rest =>
    if c = divider then some ([], rest)
    else (delimited divider rest).map fun (text, rest) => (c :: text, rest)

def address? (isExtended : Bool) (text : List Char) : Option (Address × List Char) :=
  let number (text : List Char) : Nat × List Char :=
    let digits := text.takeWhile Char.isDigit
    ((String.ofList digits).toNat?.getD 0, text.drop digits.length)
  let searched (divider : Char) (text : List Char) : Option (Address × List Char) := do
    let (pattern, rest) ← delimited divider text
    let regex ← Regex.parse? isExtended pattern
    match rest with
    | 'I' :: rest => return (.found true regex, rest)
    | rest => return (.found false regex, rest)
  match text with
  | '$' :: rest => some (.last, rest)
  | '/' :: rest => searched '/' rest
  | '\\' :: divider :: rest => searched divider rest
  | '+' :: rest =>
    let (count, rest) := number rest
    some (.further count, rest)
  | c :: rest =>
    if c.isDigit then
      let (first, rest) := number (c :: rest)
      match rest with
      | '~' :: rest =>
        let (step, rest) := number rest
        some (.every first step, rest)
      | rest => some (.line first, rest)
    else none
  | [] => none

/-- The filling that a text describes. -/
def filling : List Char → List Filling
  | [] => []
  | '\\' :: c :: rest =>
    if c.isDigit then .group (c.toNat - 48) :: filling rest
    else if c = 'n' then .text '\n' :: filling rest
    else if c = 't' then .text '\t' :: filling rest
    else .text c :: filling rest
  | '&' :: rest => .group 0 :: filling rest
  | c :: rest => .text c :: filling rest

def substitution? (isExtended : Bool) (text : List Char) : Option (Substitution × List Char) := do
  match text with
  | [] => none
  | divider :: rest =>
    let (pattern, rest) ← delimited divider rest
    let (replacement, rest) ← delimited divider rest
    let regex ← Regex.parse? isExtended pattern
    let isFlag (c : Char) : Bool := c.isDigit || ['g', 'p', 'i', 'I'].contains c
    let flags := rest.takeWhile isFlag
    let digits := flags.filter Char.isDigit
    return ({
      regex
      filling := filling replacement
      ignoresCase := flags.contains 'i' || flags.contains 'I'
      isGlobal := flags.contains 'g'
      prints := flags.contains 'p'
      first := (String.ofList digits).toNat?.getD 1 }, rest.drop flags.length)

/-- The text of a step that shows one, up to the end of its line, and the rest. A backslash keeps
the meaning of the next character. -/
def shownText : List Char → List Char × List Char
  | [] => ([], [])
  | '\n' :: rest => ([], rest)
  | '\\' :: c :: rest =>
    let (text, rest) := shownText rest
    (c :: text, rest)
  | c :: rest =>
    let (text, rest) := shownText rest
    (c :: text, rest)

def unescaped : List Char → List Char
  | '\\' :: 'n' :: rest => '\n' :: unescaped rest
  | '\\' :: c :: rest => c :: unescaped rest
  | c :: rest => c :: unescaped rest
  | [] => []

/-- Whether a character is a blank inside a line. -/
def isBlank (c : Char) : Bool := c = ' ' || c = '\t'

def action? (isExtended : Bool) (letter : Char) (text : List Char) :
    Option (Action × List Char) := do
  match letter with
  | 's' =>
    let (substitution, rest) ← substitution? isExtended text
    return (.substitute substitution, rest)
  | 'y' =>
    match text with
    | divider :: rest => do
      let (before, rest) ← delimited divider rest
      let (after, rest) ← delimited divider rest
      let (before, after) := (unescaped before, unescaped after)
      if before.length = after.length then return (.exchangeCharacters before after, rest)
      else none
    | [] => none
  | 'a' | 'i' | 'c' =>
    let text := text.dropWhile isBlank
    let text :=
      match text with
      | '\\' :: rest =>
        match rest.dropWhile isBlank with
        | '\n' :: rest => rest
        | rest => rest
      | rest => rest
    if text.isEmpty then none
    else
      let (shown, rest) := shownText text
      return (.show letter shown, '\n' :: rest)
  | 'q' | 'Q' =>
    let text := text.dropWhile isBlank
    let digits := text.takeWhile Char.isDigit
    let status := (String.ofList digits).toNat?.getD 0
    return (.quit (letter = 'Q') status, text.drop digits.length)
  | ':' | 'b' | 't' | 'T' =>
    let text := text.dropWhile isBlank
    let isPart (c : Char) : Bool := c != '\n' && c != ';' && c != '\x7d' && !isBlank c
    let name := text.takeWhile isPart
    let rest := text.drop name.length
    return (if letter = ':' then .label name else .jump letter name, rest)
  | _ =>
    if "dDpPnNgGhHx=\x7b\x7d".toList.contains letter then return (.plain letter, text) else none

/-- The steps of a text of at most `fuel` characters. -/
def steps? (isExtended : Bool) : Nat → List Char → Option (List Step)
  | 0, _ => none
  | fuel + 1, text => do
    let text := text.dropWhile fun c => isBlank c || c = '\n' || c = ';'
    match text with
    | [] => return []
    | '#' :: rest => steps? isExtended fuel (rest.dropWhile (· != '\n'))
    | _ =>
      let (first, rest) :=
        match address? isExtended text with
        | some (address, rest) => (some address, rest.dropWhile isBlank)
        | none => (none, text)
      let (last, rest) ←
        match first, rest with
        | some _, ',' :: rest => do
          let (address, rest) ← address? isExtended (rest.dropWhile isBlank)
          pure (some address, rest.dropWhile isBlank)
        | _, rest => pure (none, rest)
      let isNegated := rest.head? = some '!'
      let rest := if isNegated then rest.tail.dropWhile isBlank else rest
      match rest with
      | [] => none
      | letter :: rest => do
        let (action, rest) ← action? isExtended letter rest
        let rest := rest.dropWhile isBlank
        let isBlock := letter = '\x7b' || letter = '\x7d'
        let isEnd := rest.isEmpty || isBlock ||
          rest.head?.any fun c => c = ';' || c = '\n' || c = '\x7d' || c = '#'
        if !isEnd then none
        else
          let more ← steps? isExtended fuel rest
          return ⟨first, last, isNegated, action⟩ :: more

structure State where
  /-- The current line and the text that is held beside it. -/
  space : List Char
  hold : List Char
  number : Nat
  /-- The lines to come. -/
  rest : List (List Char)
  /-- Whether the last line has no line feed. -/
  isOpen : Bool
  output : List Char
  /-- Whether a line feed is still to be printed before anything else. -/
  isOwing : Bool
  /-- What is shown behind the current line. -/
  queue : List (List Char)
  /-- The ranges that have begun, with the line each one ends at, if that is known. -/
  active : List (Nat × Option Nat)
  hasReplaced : Bool

namespace State

/-- Prints a line. The last one has no line feed if the input had none. -/
def print (state : State) (line : List Char) : State :=
  let owed := if state.isOwing then ['\n'] else []
  let isOwing := state.isOpen && state.rest.isEmpty
  { state with
    output := state.output ++ owed ++ line ++ (if isOwing then [] else ['\n']), isOwing }

/-- Shows what stands behind the current line. -/
def flush (state : State) : State :=
  { state.queue.foldl print state with queue := [] }

/-- Takes the next line. -/
def advance? (state : State) : Option State :=
  match state.rest with
  | [] => none
  | line :: rest => some { state with space := line, rest, number := state.number + 1 }

def isAt (state : State) : Address → Bool
  | .line number => state.number = number
  | .last => state.rest.isEmpty
  | .found ignoresCase regex => (Regex.find? ignoresCase regex state.space).isSome
  | .every first step =>
    if step = 0 then state.number = first
    else first ≤ state.number && (state.number - first) % step = 0
  | .further _ => false

/-- Whether a step is for the current line, and the state with the ranges that have begun. -/
def selects (state : State) (index : Nat) (step : Step) : Bool × State :=
  let (isMeant, state) :=
    match step.first, step.last with
    | none, _ => (true, state)
    | some first, none => (state.isAt first, state)
    | some first, some final =>
      let others := state.active.filter fun (known, _) => known != index
      match List.lookup index state.active with
      | some goal =>
        let isEnd : Bool :=
          match goal with
          | some number => number ≤ state.number
          | none => state.isAt final
        let isPast := goal.any (· < state.number)
        (!isPast, if isEnd then { state with active := others } else state)
      | none =>
        if state.isAt first then
          let begun (goal : Option Nat) : State := { state with active := (index, goal) :: others }
          match final with
          | .line number =>
            (true, if number ≤ state.number then state else begun (some number))
          | .further count =>
            (true, if count = 0 then state else begun (some (state.number + count)))
          | _ => (true, begun none)
        else (false, state)
  (isMeant != step.isNegated, state)

end State

/-- The text that takes the place of a match. -/
def filled (found : Regex.Match) (filling : List Filling) : List Char :=
  filling.flatMap fun part =>
    match part with
    | .text c => [c]
    | .group 0 => found.found
    | .group number => (List.lookup number found.groups).getD []

/-- A text with matches replaced; `none` if there is nothing to replace. -/
def Substitution.apply (substitution : Substitution) (text : List Char) : Option (List Char) :=
  let found := Regex.all substitution.ignoresCase substitution.regex text
  match found.getLast? with
  | none => none
  | some last =>
    if found.length < substitution.first then none
    else
      let parts := found.zipIdx.map fun (part, index) =>
        let number := index + 1
        let isReplaced :=
          if substitution.isGlobal then substitution.first ≤ number
          else substitution.first = number
        part.front ++ if isReplaced then filled part substitution.filling else part.found
      some (parts.flatten ++ last.rest)

/-- The number of the step behind the end of a block whose inner steps start here. -/
def behindBlock (depth index : Nat) : List Step → Nat
  | [] => index
  | step :: rest =>
    match step.action with
    | .plain '\x7b' => behindBlock (depth + 1) (index + 1) rest
    | .plain '\x7d' =>
      match depth with
      | 0 => index + 1
      | depth + 1 => behindBlock depth (index + 1) rest
    | _ => behindBlock depth (index + 1) rest

def labelIndex (steps : List Step) (name : List Char) : Nat :=
  if name.isEmpty then steps.length
  else
    (steps.findIdx? fun step =>
      match step.action with
      | .label known => known = name
      | _ => false).getD steps.length

/-- What comes after a step. -/
inductive Flow where
  /-- The step of a number. -/
  | step (index : Nat)
  /-- The next line, with or without printing this one. -/
  | nextLine (prints : Bool)
  /-- The first step again, with what is left of the current text. -/
  | again
  | stop (prints : Bool) (status : Nat)

def perform (isQuiet : Bool) (steps : List Step) (index : Nat) (state : State) :
    Action → Flow × State
  | .label _ => (.step (index + 1), state)
  | .substitute substitution =>
    match substitution.apply state.space with
    | some space =>
      let state := { state with space, hasReplaced := true }
      (.step (index + 1), if substitution.prints then state.print space else state)
    | none => (.step (index + 1), state)
  | .exchangeCharacters before after =>
    let replace (c : Char) : Char := (List.lookup c (before.zip after)).getD c
    (.step (index + 1), { state with space := state.space.map replace })
  | .quit isSilent status => (.stop (!isSilent) status, state)
  | .show letter text =>
    match letter with
    | 'a' => (.step (index + 1), { state with queue := state.queue ++ [text] })
    | 'i' => (.step (index + 1), state.print text)
    | _ =>
      let isInside := (List.lookup index state.active).isSome
      (.nextLine false, if isInside then state else state.print text)
  | .jump letter name =>
    let isTaken := letter = 'b' || (letter = 't') = state.hasReplaced
    let state := if letter = 'b' then state else { state with hasReplaced := false }
    (.step (if isTaken then labelIndex steps name else index + 1), state)
  | .plain letter =>
    let next (state : State) : Flow × State := (.step (index + 1), state)
    let firstLine := state.space.takeWhile (· != '\n')
    match letter with
    | 'd' => (.nextLine false, state)
    | 'D' =>
      if state.space.contains '\n' then
        (.again, { state with space := state.space.drop (firstLine.length + 1) })
      else (.nextLine false, state)
    | 'p' => next (state.print state.space)
    | 'P' => next (state.print firstLine)
    | 'n' =>
      let printed := (if isQuiet then state else state.print state.space).flush
      match printed.advance? with
      | some state => next state
      | none => (.stop false 0, printed)
    | 'N' =>
      match state.flush.advance? with
      | some further => next { further with space := state.space ++ '\n' :: further.space }
      | none => (.stop true 0, state)
    | 'g' => next { state with space := state.hold }
    | 'G' => next { state with space := state.space ++ '\n' :: state.hold }
    | 'h' => next { state with hold := state.space }
    | 'H' => next { state with hold := state.hold ++ '\n' :: state.space }
    | 'x' => next { state with space := state.hold, hold := state.space }
    | '=' => next { state with output := state.output ++ (toString state.number ++ "\n").toList }
    | _ => next state

/-- Runs at most `fuel` steps from one of a number on. The result has the status. -/
def run (isQuiet : Bool) (steps : List Step) : Nat → Nat → State → State × Nat
  | 0, _, state => (state, 1)
  | fuel + 1, index, state =>
    let shown (prints : Bool) (state : State) : State :=
      (if prints && !isQuiet then state.print state.space else state).flush
    let flow : Flow × State :=
      match steps[index]? with
      | none => (.nextLine true, state)
      | some step =>
        let (isMeant, state) := state.selects index step
        if isMeant then perform isQuiet steps index state step.action
        else
          match step.action with
          | .plain '\x7b' => (.step (behindBlock 0 (index + 1) (steps.drop (index + 1))), state)
          | _ => (.step (index + 1), state)
    match flow with
    | (.step index, state) => run isQuiet steps fuel index state
    | (.again, state) => run isQuiet steps fuel 0 state.flush
    | (.stop prints status, state) => (shown prints state, status)
    | (.nextLine prints, state) =>
      let state := shown prints state
      match state.advance? with
      | some state => run isQuiet steps fuel 0 { state with hasReplaced := false }
      | none => (state, 0)

def stepLimit : Nat := 1000000

def edit (isQuiet : Bool) (steps : List Step) (text : List Char) : List Char × Nat :=
  let start : State :=
    ⟨[], [], 0, linesOf text, text.getLast? != some '\n', [], false, [], [], false⟩
  match start.advance? with
  | none => ([], 0)
  | some state =>
    let (state, status) := run isQuiet steps stepLimit 0 state
    (state.output, status)

def known : Known where
  flags := "nErszu".toList
  valued := ['e', 'f']
  words :=
    [("quiet", 'n'), ("silent", 'n'), ("regexp-extended", 'E'), ("expression", 'e'), ("file", 'f'),
      ("separate", 's')]

/-- Whether an argument asks to change the files themselves, and with what ending to keep the old
ones. -/
def inPlace? (argument : String) : Option String :=
  match argument.toList with
  | '-' :: 'i' :: ending => some (String.ofList ending)
  | text =>
    match Text.after? "--in-place".toList text with
    | some [] => some ""
    | some ('=' :: ending) => some (String.ofList ending)
    | _ => none

/-- The steps that options and operands give, with the other operands. -/
def script? (given : Given) : Running (Option (List Step × List String)) := do
  let isExtended := given.has 'E' || given.has 'r'
  let files ← (given.values 'f').mapM fun name => do
    return ((← Running.read? name).map characters).getD []
  let texts := (given.values 'e').map byteText ++ files
  let (texts, operands) :=
    match texts, given.operands with
    | [], first :: operands => ([byteText first], operands)
    | texts, operands => (texts, operands)
  if texts.isEmpty then return none
  let text := ['\n'].intercalate texts
  return (steps? isExtended (text.length + 2) text).map fun steps => (steps, operands)

end Sed

def sed (arguments : List String) : Running Unit := do
  let ending := arguments.findSome? Sed.inPlace?
  let others := arguments.filter fun argument => (Sed.inPlace? argument).isNone
  match read Sed.known true others with
  | none => Running.setStatus 1
  | some given =>
    match ← Sed.script? given with
    | none => Running.setStatus 1
    | some (steps, operands) =>
      match ending with
      | none =>
        let (texts, isComplete) ← inputs "sed: can't read " operands
        let parts := texts.map (·.2)
        let closed := parts.dropLast.map fun text =>
          if text.isEmpty || text.getLast? = some '\n' then text else text ++ ['\n']
        let whole := closed.flatten ++ parts.getLast?.getD []
        let (output, status) := Sed.edit (given.has 'n') steps whole
        Running.printCharacters output
        Running.setStatus (if status != 0 then status else if isComplete then 0 else 2)
      | some ending =>
        let results ← operands.mapM fun operand => do
          match ← operandBytes operand with
          | .error cause =>
            Running.complain s!"sed: can't read {operand}: {reason cause}"
            return 4
          | .ok bytes =>
            let path ← Running.resolve operand
            let kept ← Running.resolve (operand ++ ending)
            if ending != "" then discard (Running.write kept bytes)
            let (output, status) := Sed.edit (given.has 'n') steps (characters bytes)
            discard (Running.write path (octets output))
            return status
        Running.setStatus (results.foldl max 0)

end SourceTrace.Shell.Program
