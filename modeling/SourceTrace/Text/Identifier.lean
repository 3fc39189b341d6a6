import SourceTrace.Text.IdentifierRanges

/-!
# Identifiers of the generated language

Which characters start and continue an identifier, and the identifier a text starts with.
-/
namespace SourceTrace.Text.Identifier

def inRanges (ranges : List (Nat × Nat)) (n : Nat) : Bool :=
  ranges.any fun (low, high) => low ≤ n && n ≤ high

/-- Dollar, underscore, an ASCII letter, or a character of the Unicode property `ID_Start`. -/
def isStart (c : Char) : Bool :=
  c == '$' || c == '_' ||
    (if c.toNat < 128 then c.isAlpha else inRanges startRanges c.toNat)

/-- A starting character, an ASCII digit, one of the two zero-width joiners, or a character of the
Unicode property `ID_Continue`. -/
def isContinue (c : Char) : Bool :=
  c == '$' || c == '_' || c == '\u200c' || c == '\u200d' ||
    (if c.toNat < 128 then c.isAlphanum
     else inRanges startRanges c.toNat || inRanges continueRanges c.toNat)

/-- The identifier a text starts with: a starting character and all that continue it. -/
def leading? : List Char → Option (List Char)
  | [] => none
  | c :: rest => if isStart c then some (c :: rest.takeWhile isContinue) else none

end SourceTrace.Text.Identifier
