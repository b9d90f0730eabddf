import TopicBroker.Number.Word
import TopicBroker.Settings
import TopicBroker.Settings.Path
import TopicBroker.Text.Fields
import TopicBroker.Text.Lowercase

/-!
# Settings from the environment

Variables whose names start with a common word hold settings. Names are compared without case; what
follows the word and an underscore is a path into the configuration. A value that reads as a truth
value or as a number is one; any other is a text, which for the topics is cut at commas.
-/

namespace TopicBroker

/-- Environment variables in the order in which they were first set. -/
abbrev Environment := List (String × String)

namespace Environment

/-- Set a variable; one that was set before keeps its place. -/
def set (env : Environment) (name value : String) : Environment :=
  match env with
  | [] => [(name, value)]
  | (n, v) :: rest => if n = name then (n, value) :: rest else (n, v) :: set rest name value

/-- The environment after several variables were set. -/
def ofAssignments (assignments : List (String × String)) : Environment :=
  assignments.foldl (fun env a => env.set a.1 a.2) []

/-- The value of a variable. -/
def get? (env : Environment) (name : String) : Option String := env.lookup name

end Environment

namespace Settings

/-- The word with which the names of variables start. -/
def defaultPrefix : String := "HUBBUB"

/-- The field whose texts are cut at commas. -/
def topicsKey : String := "topics"

/-- The key that a variable name stands for, in lower case, if it starts with the given word. -/
def keyOf? (label name : String) : Option String :=
  let start := (Text.lowercase (label ++ "_")).toList
  let cs := (Text.lowercase name).toList
  if start.isPrefixOf cs then some (String.ofList (cs.drop start.length)) else none

/-- The truth value or number that a text reads as. -/
def scalar? (s : String) : Option Document :=
  let lower := Text.lowercase s
  if lower = "true" then some (.bool true)
  else if lower = "false" then some (.bool false)
  else
    let int := (Decimal.intValue? s.toList).filter (Word.holdsSigned 64)
    (int.map Document.int).or ((Binary64.ofChars? s.toList).map Document.float)

/-- What the value of a variable means for its key. -/
def valueOf (key value : String) : Document :=
  match scalar? value with
  | some d => d
  | none => if key = topicsKey then .texts (Text.fields ',' value) else .text value

/-- The keys and values of the variables; of equal keys the later value counts. -/
def assignments (label : String) (env : Environment) : Environment :=
  Environment.ofAssignments <| env.filterMap fun (name, value) =>
    (keyOf? label name).map fun key => (key, value)

/-- The configuration before any variable is looked at. -/
def defaults : Document :=
  .ofFields [("id_generator", .text "uuid"), ("id_prefix", .text "msg"),
    ("match_strategy", .text "regex"), (topicsKey, .list [])]

/-- The configuration with the variables. -/
def configuration (label : String) (env : Environment) : Document :=
  (assignments label env).foldl (fun d (key, value) =>
    d.setAt (Path.ofText key) (valueOf key value)) defaults

/-- How an error names a value of the configuration. -/
def describeValue : Document → String
  | .null => "unit value"
  | .float x => "floating point `" ++ x.toPointText ++ "`"
  | d => d.describe

/-- A value as a text: truth values and numbers have one too. -/
def textOf (key : String) : Document → Except ConfigError String
  | .text s => .ok s
  | .bool b => .ok (if b then "true" else "false")
  | .int i => .ok (Decimal.ofInt i)
  | .float x => .ok x.toText
  | d => .error (.wrongType (describeValue d) "a string" key)

/-- The value of a key of the configuration. -/
def valueAt (d : Document) (key : String) : Document := (d.fields.lookup key).getD .null

/-- The text of a key of the configuration. -/
def textAt (d : Document) (key : String) : Except SettingsError String :=
  (textOf key (valueAt d key)).mapError .config

/-- The texts of a key that holds a list. -/
def textsAt (d : Document) (key : String) : Except SettingsError (List String) :=
  match valueAt d key with
  | .list items => (items.mapM (textOf key)).mapError .config
  | value => .error (.config (.wrongType (describeValue value) "a sequence" key))

/-- The settings that a configuration holds. -/
def ofConfiguration (d : Document) : Except SettingsError Settings := do
  let idGenerator ← IdGeneratorKind.parse (← textAt d "id_generator")
  let idPrefix ← textAt d "id_prefix"
  let matchStrategy ← MatchStrategy.parse (← textAt d "match_strategy")
  let topics ← textsAt d topicsKey
  return { idGenerator, idPrefix, matchStrategy, topics }

/-- The settings in variables whose names start with the given word. -/
def load (label : String) (env : Environment) : Except SettingsError Settings :=
  ofConfiguration (configuration label env)

end Settings

end TopicBroker
