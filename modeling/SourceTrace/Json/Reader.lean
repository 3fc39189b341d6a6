import SourceTrace.Json.Parser

/-!
# Taking records out of JSON

A record is given as an object or as an array. In an object members with other keys are skipped, but
their keys must be text, and no key of the record may come twice. In an array the fields stand in
the order of the record. `Fields` keeps what was given for each field of a record.
-/
namespace SourceTrace.Json

/-- What was given for each field of a record, in the order of its fields. -/
abbrev Fields := List (Option Tree)

/-- Puts a member into the field of its key. Fails if the field is taken. -/
def Fields.put? (keys : List String) (key : String) (value : Tree) (fields : Fields) :
    Option Fields :=
  match keys, fields with
  | k :: keys, field :: fields =>
    if k = key then
      match field with
      | none => some (some value :: fields)
      | some _ => none
    else (put? keys key value fields).map (field :: ·)
  | _, fields => some fields

/-- The fields that the members of an object give. -/
def Fields.ofMembers? (keys : List String) (fields : Fields) :
    List (List Piece × Tree) → Option Fields
  | [] => some fields
  | (key, value) :: rest => do
    let key ← Json.text? key
    let fields ← fields.put? keys key value
    ofMembers? keys fields rest

/-- The fields of a record. An array must give the first `least` of them. -/
def Fields.of? (keys : List String) (least : Nat) : Tree → Option Fields
  | .object members => ofMembers? keys (List.replicate keys.length none) members
  | .array items =>
    if least ≤ items.length ∧ items.length ≤ keys.length then
      some (items.map some ++ List.replicate (keys.length - items.length) none)
    else none
  | _ => none

/-- Takes a value out of a tree. -/
abbrev Reader (α : Type) := Tree → Option α

namespace Reader

def string : Reader String
  | .text pieces => Json.text? pieces
  | _ => none

def bool : Reader Bool
  | .bool value => some value
  | _ => none

def natural32 : Reader Nat
  | .number n => n.natural32?
  | _ => none

def list {α : Type} (item : Reader α) : Reader (List α)
  | .array items => items.mapM item
  | _ => none

def nullable {α : Type} (value : Reader α) : Reader (Option α)
  | .null => some none
  | tree => (value tree).map some

/-- One of several words: the word itself, or an object whose only key is the word and whose member
is null. -/
def word {α : Type} (words : List (String × α)) : Reader α
  | .text pieces => (Json.text? pieces).bind fun text => List.lookup text words
  | .object [(key, .null)] => (Json.text? key).bind fun text => List.lookup text words
  | _ => none

/-- An object with any keys and values of one kind, in the order given. -/
def entries {α : Type} (value : Reader α) : Reader (List (String × α))
  | .object members =>
    members.mapM fun (key, tree) => do return (← Json.text? key, ← value tree)
  | _ => none

/-- A value of any kind whose nesting, seen from `outer` levels further out, is at most 127. -/
def anything (outer : Nat) : Reader Tree := fun tree =>
  if tree.isValue && outer + tree.depth ≤ 127 then some tree else none

end Reader

def required {α : Type} (reader : Reader α) (field : Option Tree) : Option α := field.bind reader

/-- A field that may be left out for a default. -/
def withDefault {α : Type} (default : α) (reader : Reader α) (field : Option Tree) : Option α :=
  match field with
  | none => some default
  | some tree => reader tree

/-- A field that may be left out or null. -/
def optional {α : Type} (reader : Reader α) (field : Option Tree) : Option (Option α) :=
  withDefault none (Reader.nullable reader) field

end SourceTrace.Json
