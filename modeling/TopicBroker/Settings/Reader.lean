import TopicBroker.Document.Refusal
import TopicBroker.Settings

/-!
# Settings from a document

Settings are written as a map with one field for each of them, or as a list of all four. Fields are
checked in the order in which the document has them; what is missing is found last.
-/

namespace TopicBroker.Settings

/-- The kind of ids. -/
def readIdGenerator (d : Document) : Except Refusal IdGeneratorKind := do
  let s ← d.readText
  (IdGeneratorKind.parse s).mapError SettingsError.message

/-- The strategy. -/
def readMatchStrategy (d : Document) : Except Refusal MatchStrategy := do
  let s ← d.readText
  (MatchStrategy.parse s).mapError SettingsError.message

/-- The topics. -/
def readTopics : Document → Except Refusal (List String)
  | .list items => items.mapM Document.readText
  | d => .error (d.refused "a sequence")

/-- Settings of which some fields have been read. -/
structure Draft where
  /-- How ids are made. -/
  idGenerator : Option IdGeneratorKind := none
  /-- The text in front of counted ids. -/
  idPrefix : Option String := none
  /-- How patterns are read. -/
  matchStrategy : Option MatchStrategy := none
  /-- The topics. -/
  topics : Option (List String) := none

/-- Read one field; fields of other names do not count. -/
def Draft.read (p : Draft) (field : String × Document) : Except Refusal Draft := do
  match field.1 with
  | "id_generator" => return { p with idGenerator := some (← readIdGenerator field.2) }
  | "id_prefix" => return { p with idPrefix := some (← field.2.readText) }
  | "match_strategy" => return { p with matchStrategy := some (← readMatchStrategy field.2) }
  | "topics" => return { p with topics := some (← readTopics field.2) }
  | _ => return p

/-- A field that has to be there. -/
def required {α : Type} (name : String) : Option α → Except Refusal α
  | some value => .ok value
  | none => .error ("missing field `" ++ name ++ "`")

/-- The settings, if all fields have been read. -/
def Draft.complete (p : Draft) : Except Refusal Settings := do
  let idGenerator ← required "id_generator" p.idGenerator
  let idPrefix ← required "id_prefix" p.idPrefix
  let matchStrategy ← required "match_strategy" p.matchStrategy
  let topics ← required "topics" p.topics
  return { idGenerator, idPrefix, matchStrategy, topics }

/-- A list that is too short or too long. -/
def wrongLength (n : Nat) : Refusal :=
  "invalid length " ++ Decimal.ofNat n ++ ", expected struct Settings with 4 elements"

/-- The settings in a list, of which items are read one by one. -/
def ofItems : List Document → Except Refusal Settings
  | [] => .error (wrongLength 0)
  | a :: rest => do
    let idGenerator ← readIdGenerator a
    match rest with
    | [] => .error (wrongLength 1)
    | b :: rest => do
      let idPrefix ← b.readText
      match rest with
      | [] => .error (wrongLength 2)
      | c :: rest => do
        let matchStrategy ← readMatchStrategy c
        match rest with
        | [] => .error (wrongLength 3)
        | d :: rest => do
          let topics ← readTopics d
          if rest.isEmpty then return { idGenerator, idPrefix, matchStrategy, topics }
          else .error (Document.tooLong (4 + rest.length))

/-- The settings that a document holds. -/
def ofDocument : Document → Except Refusal Settings
  | .map fields => do (← fields.foldlM Draft.read {}).complete
  | .list items => ofItems items
  | d => .error (d.refused "struct Settings")

end TopicBroker.Settings
