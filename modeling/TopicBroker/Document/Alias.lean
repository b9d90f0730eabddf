import TopicBroker.Document

/-!
# Aliases in documents

Ids that are made at random differ from run to run. To compare documents of different runs, each of
their random ids is replaced by an alias with a running number: the ids are numbered in the order in
which they first appear.
-/

namespace TopicBroker

/-- The texts that have an alias, in the order of their numbers. -/
abbrev Aliases := List String

namespace Aliases

/-- The number of a text, from one on; a new text gets the next number. -/
def number (a : Aliases) (s : String) : Nat × Aliases :=
  match a.idxOf? s with
  | some i => (i + 1, a)
  | none => (a.length + 1, a ++ [s])

/-- A text keeps its number. -/
theorem number_number (a : Aliases) (s : String) : (a.number s).2.number s = a.number s := by
  unfold number
  cases found : a.idxOf? s with
  | some i => simp [found]
  | none =>
    have absent : s ∉ a := List.idxOf?_eq_none_iff.1 found
    have last : (a ++ [s]).idxOf? s = some a.length := by
      rw [List.idxOf?_eq_some_iff]
      refine ⟨by simp, by simp, fun j hj => ?_⟩
      rw [List.getElem_append_left hj]
      exact fun h => absent (h ▸ List.getElem_mem hj)
    simp [last]

/-- How aliases are given. -/
structure Scheme where
  /-- The names of the fields that hold ids. -/
  fields : List String
  /-- Which ids get an alias. -/
  applies : String → Bool
  /-- The text in front of the number. -/
  label : String

end Aliases

open Aliases

mutual

/-- The document with aliases in fields of ids, and the aliases that were given by then. -/
def Document.aliased (s : Scheme) (d : Document) (a : Aliases) : Document × Aliases :=
  match d with
  | .list items =>
    let (items, a) := Document.itemsAliased s items a
    (.list items, a)
  | .map fields =>
    let (fields, a) := Document.fieldsAliased s fields a
    (.map fields, a)
  | d => (d, a)

/-- The items of a list with aliases. -/
def Document.itemsAliased (s : Scheme) (items : List Document) (a : Aliases) :
    List Document × Aliases :=
  match items with
  | [] => ([], a)
  | d :: rest =>
    let (d, a) := d.aliased s a
    let (rest, a) := Document.itemsAliased s rest a
    (d :: rest, a)

/-- The fields of a map with aliases. -/
def Document.fieldsAliased (s : Scheme) (fields : List (String × Document)) (a : Aliases) :
    List (String × Document) × Aliases :=
  match fields with
  | [] => ([], a)
  | (name, .text value) :: rest =>
    if s.fields.contains name && s.applies value then
      let (n, a) := a.number value
      let (rest, a) := Document.fieldsAliased s rest a
      ((name, .text (s.label ++ Decimal.ofNat n)) :: rest, a)
    else
      let (rest, a) := Document.fieldsAliased s rest a
      ((name, .text value) :: rest, a)
  | (name, d) :: rest =>
    let (d, a) := d.aliased s a
    let (rest, a) := Document.fieldsAliased s rest a
    ((name, d) :: rest, a)

end

end TopicBroker
