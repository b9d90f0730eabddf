import TopicBroker.Number.Decimal

/-!
# Log records

What is written to a log: a message with a level, the part of the program that it comes from, and
named values.
-/

namespace TopicBroker

/-- How important a record is. -/
inductive LogLevel where
  /-- Something failed. -/
  | error
  /-- Something is not as it should be. -/
  | warn
  /-- Something worth knowing happened. -/
  | info
  /-- For those who look for a fault. -/
  | debug
  /-- Every single step. -/
  | trace
  deriving Repr, DecidableEq, Inhabited

namespace LogLevel

/-- The levels from the most important one down. -/
def all : List LogLevel := [.error, .warn, .info, .debug, .trace]

/-- How much is written at a level: the number of levels down to it. -/
def verbosity : LogLevel → Nat
  | .error => 1
  | .warn => 2
  | .info => 3
  | .debug => 4
  | .trace => 5

/-- The name of a level in a log. -/
def label : LogLevel → String
  | .error => "ERROR"
  | .warn => "WARN"
  | .info => "INFO"
  | .debug => "DEBUG"
  | .trace => "TRACE"

/-- The name of a level in diagnostic texts. -/
def name : LogLevel → String
  | .error => "Error"
  | .warn => "Warn"
  | .info => "Info"
  | .debug => "Debug"
  | .trace => "Trace"

end LogLevel

/-- A value in a log record. -/
inductive LogValue where
  /-- A text, which plain layouts put between quotes. -/
  | text (value : String)
  /-- A text that is written as it is. -/
  | plain (value : String)
  /-- A number. -/
  | number (value : Int)
  /-- A truth value. -/
  | truth (value : Bool)
  deriving Repr, DecidableEq, Inhabited

/-- A log record. -/
structure LogRecord where
  /-- How important it is. -/
  level : LogLevel
  /-- The part of the program that it comes from. -/
  target : String
  /-- The message. -/
  message : String
  /-- The values with their names, in the order of the record. -/
  fields : List (String × LogValue)
  deriving Repr, DecidableEq, Inhabited

end TopicBroker
