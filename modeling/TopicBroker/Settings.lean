import TopicBroker.Strategy
import TopicBroker.Text.Quoted

/-!
# Settings

What a broker is built from, and why settings may be refused.
-/

namespace TopicBroker

/-- What a broker is built from. -/
structure Settings where
  /-- How ids are made. -/
  idGenerator : IdGeneratorKind := .default
  /-- The text in front of counted ids. -/
  idPrefix : String := "msg"
  /-- How patterns are read. -/
  matchStrategy : MatchStrategy := .default
  /-- The topics that are registered at once. -/
  topics : List String := []
  deriving Repr, DecidableEq, Inhabited

/-- The settings where nothing is chosen. -/
def Settings.default : Settings := {}

/-- Why a value cannot be taken from a configuration. -/
inductive ConfigError where
  /-- Some other reason. -/
  | message (text : String)
  /-- A field is missing. -/
  | notFound (field : String)
  /-- A field holds a value of another type. -/
  | wrongType (found expected key : String)
  deriving Repr, DecidableEq, Inhabited

/-- The error as a text. -/
def ConfigError.describe : ConfigError → String
  | .message text => text
  | .notFound field => "missing configuration field " ++ Text.quote field
  | .wrongType found expected key =>
    "invalid type: " ++ found ++ ", expected " ++ expected ++ " for key `" ++ key ++ "`"

/-- Why settings are refused. -/
inductive SettingsError where
  /-- A value cannot be taken from the configuration. -/
  | config (error : ConfigError)
  /-- No strategy has this name. -/
  | unknownMatchStrategy (text : String)
  /-- No kind of ids has this name. -/
  | unknownIdGenerator (text : String)
  deriving Repr, DecidableEq, Inhabited

namespace SettingsError

/-- The error as a text. -/
def message : SettingsError → String
  | .config error => "configuration error: " ++ error.describe
  | .unknownMatchStrategy text => "unknown match strategy: " ++ text
  | .unknownIdGenerator text => "unknown id generator: " ++ text

/-- The error as a diagnostic text. -/
def debugText : SettingsError → String
  | .config error => "Config(" ++ error.describe ++ ")"
  | .unknownMatchStrategy text => "UnknownMatchStrategy(" ++ Text.quote text ++ ")"
  | .unknownIdGenerator text => "UnknownIdGenerator(" ++ Text.quote text ++ ")"

end SettingsError

/-- The strategy that a text chooses; any other text is refused as it stands. -/
def MatchStrategy.parse (s : String) : Except SettingsError MatchStrategy :=
  match ofText? s with
  | some strategy => .ok strategy
  | none => .error (.unknownMatchStrategy s)

/-- The kind of ids that a text chooses; any other text is refused as it stands. -/
def IdGeneratorKind.parse (s : String) : Except SettingsError IdGeneratorKind :=
  match ofText? s with
  | some kind => .ok kind
  | none => .error (.unknownIdGenerator s)

end TopicBroker
