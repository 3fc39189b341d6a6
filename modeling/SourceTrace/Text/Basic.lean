/-!
# Cutting and searching text

The few operations on lists of characters that the rest of the library cuts text with. They never
look at byte offsets: a cut is given by the pieces it leaves, so that a statement about a cut is a
statement about concatenation.
-/
namespace SourceTrace.Text

/-- The pieces of a text between the characters that satisfy `stop`. A text without such a
character is its own only piece, so there is always one piece more than there are stops. -/
def split (stop : Char → Bool) : List Char → List (List Char)
  | [] => [[]]
  | c :: rest =>
    if stop c then [] :: split stop rest
    else
      match split stop rest with
      | [] => [[c]]
      | piece :: pieces => (c :: piece) :: pieces

/-- What follows `lead` in a text that starts with it. -/
def after? : List Char → List Char → Option (List Char)
  | [], text => some text
  | _ :: _, [] => none
  | c :: lead, d :: text => if c = d then after? lead text else none

/-- What precedes `tail` in a text that ends with it. -/
def before? (tail text : List Char) : Option (List Char) :=
  (after? tail.reverse text.reverse).map List.reverse

/-- Cuts a text at the first place where `needle` stands: what precedes it and what follows it. -/
def cutAt? (needle : List Char) : List Char → Option (List Char × List Char)
  | [] => if needle.isEmpty then some ([], []) else none
  | c :: rest =>
    match after? needle (c :: rest) with
    | some following => some ([], following)
    | none => (cutAt? needle rest).map fun (before, following) => (c :: before, following)

def contains (needle text : List Char) : Bool := (cutAt? needle text).isSome

/-- Equality of texts in which an ASCII letter stands for both of its cases. -/
def sameIgnoringCase (left right : List Char) : Bool :=
  left.map Char.toLower == right.map Char.toLower

/-- The texts with `separator` between neighbours. -/
def join (separator : String) (texts : List String) : String :=
  String.intercalate separator texts

theorem after?_eq_some_iff (lead text rest : List Char) :
    after? lead text = some rest ↔ text = lead ++ rest := by
  induction lead generalizing text with
  | nil => simp [after?]
  | cons c lead ih =>
    cases text with
    | nil => simp [after?]
    | cons d text =>
      by_cases same : c = d
      · subst same
        simp [after?, ih]
      · have other : d ≠ c := fun h => same h.symm
        simp [after?, same, other]

end SourceTrace.Text
