import TopicBroker.Log.Filter
import TopicBroker.Settings.Environment

/-!
# Configuration of the log

Which records are written, and in which layout. Two environment variables come first: one chooses
the layout, the other the filter. What cannot be read leaves a notice, and the log works all the
same.
-/

namespace TopicBroker

/-- How records are laid out. -/
inductive LogFormat where
  /-- Several lines for each record. -/
  | pretty
  /-- One line for each record. -/
  | compact
  /-- One document on a line for each record. -/
  | json
  deriving Repr, DecidableEq, Inhabited

namespace LogFormat

/-- The layout where none is chosen. -/
def default : LogFormat := .pretty

/-- The words for the layouts. -/
def words : List (String × LogFormat) :=
  [("pretty", .pretty), ("compact", .compact), ("json", .json)]

/-- The name of a layout in diagnostic texts. -/
def name : LogFormat → String
  | .pretty => "Pretty"
  | .compact => "Compact"
  | .json => "Json"

/-- The layout whose word a text is, in letters of any case. -/
def ofText? (s : String) : Option LogFormat := words.lookup (Text.asciiLower s)

/-- Why a text is no layout. -/
def unknownMessage (s : String) : String := "unknown log format: " ++ Text.asciiLower s

end LogFormat

/-- The configuration of the log. -/
structure LoggingConfig where
  /-- The directives for the whole program. -/
  level : String := "info"
  /-- The level for the broker alone. -/
  brokerLevel : Option String := none
  /-- How records are laid out. -/
  format : LogFormat := .default
  /-- Whether a record names the part of the program that it comes from. -/
  withTarget : Bool := true
  /-- Whether records are written in colours. -/
  withAnsi : Bool := true
  /-- Whether a record names its thread. -/
  withThreadIds : Bool := false
  deriving Repr, DecidableEq, Inhabited

namespace LoggingConfig

/-- The configuration where nothing is chosen. -/
def default : LoggingConfig := {}

/-- The name with which the targets of the broker start. -/
def brokerScope : String := "hubbub"

/-- The directives of a configuration. -/
def directive (c : LoggingConfig) : String :=
  match c.brokerLevel with
  | some level => c.level ++ "," ++ brokerScope ++ "=" ++ level
  | none => c.level

/-- The variable that chooses the layout. -/
def formatVariable : String := "HUBBUB_LOG_FORMAT"

/-- The variable that chooses the filter. -/
def filterVariable : String := "RUST_LOG"

/-- The configuration under an environment, and a notice if a variable cannot be read. -/
def override (c : LoggingConfig) (env : Environment) : LoggingConfig × List String :=
  match env.get? formatVariable with
  | none => (c, [])
  | some s =>
    match LogFormat.ofText? s with
    | some format => ({ c with format }, [])
    | none => (c, [LogFormat.unknownMessage s ++ "; keeping " ++ c.format.name])

/-- The directives of the filter that is used if no other can be read. -/
def fallbackDirective : String := "info"

/-- The filter that is used if no other can be read. -/
def fallbackFilter : LogFilter := .ofDirectives [{ threshold := .upTo .info }]

/-- The filter of the directives of a configuration, and a notice if they cannot be read. -/
def ownFilter (c : LoggingConfig) : LogFilter × List String :=
  match LogFilter.ofText c.directive with
  | .ok filter => (filter, [])
  | .error e =>
    (fallbackFilter, ["Invalid log filter directive '" ++ c.directive ++ "': " ++ e.message ++
      "; falling back to '" ++ fallbackDirective ++ "'"])

/-- The filter under an environment: that of the variable, if it can be read. -/
def filter (c : LoggingConfig) (env : Environment) : LogFilter × List String :=
  match (env.get? filterVariable).map LogFilter.ofText with
  | some (.ok filter) => (filter, [])
  | _ => c.ownFilter

/-- The fallback is the filter of its directives. -/
theorem ofText_fallbackDirective :
    (LogFilter.ofText fallbackDirective).toOption = some fallbackFilter := by decide +kernel

end LoggingConfig

end TopicBroker
