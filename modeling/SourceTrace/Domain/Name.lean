import SourceTrace.Domain.Direction
import SourceTrace.Domain.Joining
import SourceTrace.Domain.Mapping
import SourceTrace.Domain.Punycode
import SourceTrace.Text.Basic

/-!
# Domain names

A domain name is read by mapping its characters, composing them and cutting the result at dots. A
label may be written in ASCII behind `xn--` and must then stand for a text that would have been left
alone if it had been written out. No label may hold the ASCII characters that divide a URL, start
with a mark or misplace a joiner, and together the labels must be showable.
-/
namespace SourceTrace.Domain

/-- An ASCII character that no label may hold. -/
def isForbidden (c : Char) : Bool :=
  c.toNat ≤ 0x20 || c.toNat == 0x7f || "#/:<>?@[\\]^|%".toList.contains c

/-- Labels beyond ASCII may not be longer than this. -/
def longestLabel : Nat := 1000

/-- Labels that are written in ASCII may not be longer than this. -/
def longestWritten : Nat := 2000

/-- The text of a label that is written in ASCII, without the mark in front of it. It has no ending
without digits, and what it stands for needs no mapping and is composed. -/
def writtenOut? (label : List Char) : Option (List Char) := do
  if label.isEmpty || label.getLast? == some '-' || label.length > longestWritten then none
  let text ← Punycode.decode? label
  if Mapping.isMapped text && Composition.isComposed text && !text.contains '.' then some text
  else none

def labelText? (label : List Char) : Option (List Char) :=
  match Text.after? "xn--".toList label with
  | some written => writtenOut? written
  | none => some label

def isLabel (label : List Char) : Bool :=
  label.all (·.toNat < 128) ||
    (label.length ≤ longestLabel && !label.head?.any Composition.isMark && Joining.arePlaced label)

def labels? (name : List Char) : Option (List (List Char)) := do
  let mapped ← Mapping.mapped? name
  let labels := Text.split (· == '.') (Composition.compose mapped)
  if labels.any (·.any isForbidden) then none
  let texts ← labels.mapM labelText?
  if texts.all (fun text => isLabel text && !text.any isForbidden) && Direction.areShowable texts
  then some texts
  else none

end SourceTrace.Domain
