import SourceTrace.Domain.MappingTable
import SourceTrace.Domain.ReplacementTable
import SourceTrace.Domain.Table

/-!
# The mapping of domain names

Before a domain name is read, each of its characters is kept, left out, replaced or refused. In
ASCII only the capital letters are replaced; the rest is decided by tables.
-/
namespace SourceTrace.Domain.Mapping

inductive Fate where
  | kept
  | ignored
  | replaced (text : List Char)
  | disallowed
  deriving DecidableEq, Repr

/-- A run of code points that are replaced one for one. -/
structure Run where
  first : Nat
  last : Nat
  step : Nat
  target : Nat

def Run.replace? (run : Run) (n : Nat) : Option Char :=
  if run.first ≤ n && n ≤ run.last && (n - run.first) % run.step == 0 then
    some (Char.ofNat (run.target + (n - run.first)))
  else none

def disallowedRanges : List (Nat × Nat) := Table.ranges disallowedText

def ignoredRanges : List (Nat × Nat) := Table.ranges ignoredText

def runs : List Run :=
  (Table.rows runText).filterMap fun row =>
    match row with
    | [first, last, step, target] => some ⟨first, last, step, target⟩
    | _ => none

def replacements : List (Nat × List Char) :=
  (Table.rows replacementText).filterMap fun row =>
    match row with
    | n :: text => some (n, text.map Char.ofNat)
    | [] => none

/-- The fate of a character above U+007F. -/
def fateBeyond (n : Nat) : Fate :=
  if Table.holds disallowedRanges n then .disallowed
  else if Table.holds ignoredRanges n then .ignored
  else
    match runs.findSome? (·.replace? n) with
    | some c => .replaced [c]
    | none =>
      match List.lookup n replacements with
      | some text => .replaced text
      | none => .kept

/-- The fate of a character. -/
def fate (c : Char) : Fate :=
  if c.toNat < 128 then if c.isUpper then .replaced [c.toLower] else .kept
  else fateBeyond c.toNat

/-- A text with every character kept, left out or replaced, unless one is refused. -/
def mapped? : List Char → Option (List Char)
  | [] => some []
  | c :: rest =>
    match fate c with
    | .kept => (mapped? rest).map (c :: ·)
    | .ignored => mapped? rest
    | .replaced text => (mapped? rest).map (text ++ ·)
    | .disallowed => none

def isMapped (text : List Char) : Bool := text.all fun c => fate c == .kept

end SourceTrace.Domain.Mapping
