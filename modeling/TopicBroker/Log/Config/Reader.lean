import TopicBroker.Document.Refusal
import TopicBroker.Log.Config

/-!
# Reading the configuration of the log

The configuration is written as a map, or as a list of its values in order. What is missing keeps
its default, and fields of other names do not count.
-/

namespace TopicBroker

namespace LogFormat

/-- The layout of a word. Here case matters. -/
def ofWord (s : String) : Except Refusal LogFormat :=
  match words.lookup s with
  | some format => .ok format
  | none =>
    let known := words.map fun w => "`" ++ w.1 ++ "`"
    .error ("unknown variant `" ++ s ++ "`, expected one of " ++ ", ".intercalate known)

/-- The layout that a document holds: a word, or a map from a word to null. -/
def ofDocument : Document → Except Refusal LogFormat
  | .text s => ofWord s
  | .map [(s, value)] => do
    let format ← ofWord s
    match value with
    | .null => return format
    | d => .error (d.refused "unit")
  | .map fields => .error ((Document.map fields).outOfRange "map with a single key")
  | d => .error (d.refused "string or map")

end LogFormat

namespace LoggingConfig

/-- The fields in order. -/
def fieldNames : List String :=
  ["level", "broker_level", "format", "with_target", "with_ansi", "with_thread_ids"]

/-- Read one field; fields of other names do not count. -/
def readField (c : LoggingConfig) (field : String × Document) : Except Refusal LoggingConfig := do
  match field.1 with
  | "level" => return { c with level := ← field.2.readText }
  | "broker_level" => return { c with brokerLevel := ← field.2.readOptionalText }
  | "format" => return { c with format := ← LogFormat.ofDocument field.2 }
  | "with_target" => return { c with withTarget := ← field.2.readTruth }
  | "with_ansi" => return { c with withAnsi := ← field.2.readTruth }
  | "with_thread_ids" => return { c with withThreadIds := ← field.2.readTruth }
  | _ => return c

/-- The configuration that a document holds. -/
def ofDocument : Document → Except Refusal LoggingConfig
  | .map fields => fields.foldlM readField default
  | .list items => do
    let c ← (fieldNames.zip items).foldlM readField default
    if items.length ≤ fieldNames.length then return c
    else .error (Document.tooLong items.length)
  | d => .error (d.refused "struct LoggingConfig")

end LoggingConfig

end TopicBroker
