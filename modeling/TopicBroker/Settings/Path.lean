import TopicBroker.Document
import TopicBroker.Number.Word

/-!
# Paths into documents

A path names a place in a document: a field, and from there fields and items of lists. Setting a
value makes the way to its place: what is not a map or a list becomes one, and lists are filled up
with nulls.
-/

namespace TopicBroker

/-- A step into a document. -/
inductive PathStep where
  /-- Into a field of a map. -/
  | field (name : String)
  /-- To an item of a list, from the end if the number is negative. -/
  | item (index : Int)
  deriving Repr, DecidableEq, Inhabited

/-- A way into a document. -/
abbrev Path := List PathStep

namespace Path

/-- Whether a character may stand in the name of a field. -/
def isNameChar (c : Char) : Bool := c.isAlphanum || c == '_' || c == '-'

/-- Whether a character may surround a number in brackets. -/
def isGap (c : Char) : Bool := c == ' ' || c == '\t'

/-- A name at the head of a text. -/
def name? (cs : List Char) : Option (String × List Char) :=
  let name := cs.takeWhile isNameChar
  if name.isEmpty then none else some (String.ofList name, cs.dropWhile isNameChar)

/-- A number at the head of a text. -/
def index? (cs : List Char) : Option (Int × List Char) :=
  let (negative, cs) :=
    match cs with
    | '-' :: rest => (true, rest)
    | _ => (false, cs)
  match Decimal.natValue? (cs.takeWhile Char.isDigit) with
  | none => none
  | some n =>
    let i : Int := if negative then -n else n
    if Word.holdsSigned 64 i then some (i, cs.dropWhile Char.isDigit) else none

/-- The steps of a text up to its end; each takes a character, so its length bounds the fuel. -/
def steps? : Nat → List Char → Option Path
  | 0, _ => none
  | _ + 1, [] => some []
  | fuel + 1, '.' :: rest =>
    match name? rest with
    | none => none
    | some (name, rest) => (steps? fuel rest).map (.field name :: ·)
  | fuel + 1, '[' :: rest =>
    match index? (rest.dropWhile isGap) with
    | none => none
    | some (i, rest) =>
      match rest.dropWhile isGap with
      | ']' :: rest => (steps? fuel rest).map (.item i :: ·)
      | _ => none
  | _ + 1, _ => none

/-- The path that a text spells out. A text that does not is the name of a field as a whole. -/
def ofText (s : String) : Path :=
  let cs := s.toList
  let read : Option Path := do
    let (name, rest) ← name? cs
    let steps ← steps? (rest.length + 1) rest
    some (.field name :: steps)
  read.getD [.field s]

end Path

namespace Document

/-- The items among which the item with the given number exists, and its place: missing items are
nulls, put in front for a number from the end and behind for any other. -/
def widen (items : List Document) (index : Int) : List Document × Nat :=
  if 0 ≤ index then
    (items ++ List.replicate (index.toNat + 1 - items.length) .null, index.toNat)
  else
    let back := (-index).toNat
    (List.replicate (back - items.length) .null ++ items, items.length - back)

/-- The document with a value at the end of a path. -/
def setAt (d : Document) (path : Path) (value : Document) : Document :=
  match path with
  | [] => value
  | .field name :: rest =>
    let inner := ((d.fields.lookup name).getD .null).setAt rest value
    .map (insertField name inner d.fields)
  | .item index :: rest =>
    let (items, i) := widen (d.list?.getD []) index
    .list (items.set i ((items[i]?.getD .null).setAt rest value))
  termination_by path.length

end Document

end TopicBroker
