import TopicBroker.Log.Layout

/-!
# The log of a program

A program sets its log up once; a second attempt fails and changes nothing. From then on the records
that the filter accepts are written. Whatever cannot be read in the configuration leaves a notice
at every attempt.
-/

namespace TopicBroker

/-- A log that has been set up. -/
structure LogSink where
  /-- The configuration. -/
  config : LoggingConfig
  /-- Which records are written. -/
  filter : LogFilter
  deriving Repr, DecidableEq, Inhabited

/-- Why a log cannot be set up. -/
inductive LogSetupError where
  /-- There is a log already. -/
  | alreadySet
  deriving Repr, DecidableEq, Inhabited

/-- The error as a text. -/
def LogSetupError.message : LogSetupError → String
  | .alreadySet => "a global default trace dispatcher has already been set"

/-- The log of a program so far. -/
structure LogSession where
  /-- The log, once it has been set up. -/
  sink : Option LogSink := none
  /-- The records that were written, in order. -/
  written : List LogRecord := []
  /-- The notices that were left, in order. -/
  notices : List String := []
  deriving Repr, DecidableEq, Inhabited

namespace LogSession

/-- The version of the program. -/
def version : String := "0.1.0"

/-- The record about the log itself. -/
def startRecord (c : LoggingConfig) : LogRecord :=
  { level := .info, target := "hubbub::logging", message := "Logging system initialized"
    fields := [("version", .text version), ("filter", .plain c.directive),
      ("format", .plain c.format.name)] }

/-- Write the records that the log accepts; without a log, none. -/
def log (s : LogSession) (records : List LogRecord) : LogSession :=
  match s.sink with
  | none => s
  | some sink => { s with written := s.written ++ records.filter sink.filter.accepts }

/-- Set the log up. -/
def start (s : LogSession) (config : LoggingConfig) (env : Environment) :
    LogSession × Except LogSetupError Unit :=
  let (config, overrideNotices) := config.override env
  let (filter, filterNotices) := config.filter env
  let s := { s with notices := s.notices ++ overrideNotices ++ filterNotices }
  match s.sink with
  | some _ => (s, .error .alreadySet)
  | none => (({ s with sink := some { config, filter } }).log [startRecord config], .ok ())

/-- Try several times to set the log up. -/
def startTimes (s : LogSession) (config : LoggingConfig) (env : Environment) :
    Nat → LogSession × List (Except LogSetupError Unit)
  | 0 => (s, [])
  | n + 1 =>
    let (s, outcome) := s.start config env
    let (s, outcomes) := s.startTimes config env n
    (s, outcome :: outcomes)

/-- Everything that was written, in the layout of the log. -/
def text (s : LogSession) : String :=
  match s.sink with
  | none => ""
  | some sink => String.join (s.written.map fun r => r.layOut sink.config)

/-- The documents of the records that were written, without their times. -/
def documents (s : LogSession) : List Document :=
  match s.sink with
  | none => []
  | some sink => s.written.map fun r => .ofFields (r.parts sink.config)

/-- A line without the carriage return at its end. -/
def dropReturn (line : String) : String :=
  if line.endsWith "\r" then String.ofList line.toList.dropLast else line

/-- The lines of a text. A carriage return before a line end belongs to it; what is ended by nothing
counts only if it is not empty. -/
def lines (text : String) : List String :=
  let pieces := Text.fields '\n' text
  let rest := (pieces.getLast?.getD "")
  pieces.dropLast.map dropReturn ++ if rest.isEmpty then [] else [rest]

end LogSession

end TopicBroker
