import TopicBroker.Log.Directive.Reader

/-!
# Log filters

A filter is a set of directives. A record is written if the most specific directive that is about it
lets its level through; without such a directive it is not written. Directives about spans of work
are kept, but no record belongs to a span.
-/

namespace TopicBroker

/-- A set of directives. -/
structure LogFilter where
  /-- The directives that can be decided for a record alone, the most specific first. -/
  statics : List LogDirective := []
  /-- The directives about spans and fields, the most specific first. -/
  dynamics : List LogDirective := []
  /-- The most verbose threshold that any directive had, also one that was replaced. -/
  most : LogThreshold := .off
  deriving Repr, DecidableEq, Inhabited

namespace LogFilter

/-- The filter with one directive more. -/
def add (f : LogFilter) (d : LogDirective) : LogFilter :=
  { statics := if d.isStatic then d.insert f.statics else f.statics
    dynamics := if d.isDynamic then d.insert f.dynamics else f.dynamics
    most := f.most.max d.threshold }

/-- The filter with the given directives; of two about the same the later counts. -/
def ofDirectives (directives : List LogDirective) : LogFilter := directives.foldl add {}

/-- The filter that a text spells out: directives between commas, of which empty ones do not
count. -/
def ofText (s : String) : Except DirectiveError LogFilter := do
  let pieces := (Text.fields ',' s).filter fun piece => !piece.isEmpty
  return ofDirectives (← pieces.mapM LogDirective.ofText)

/-- The filter as a text. -/
def describe (f : LogFilter) : String :=
  ",".intercalate ((f.statics ++ f.dynamics).map LogDirective.describe)

/-- No record beyond this threshold is written; a directive about values may raise it to any. -/
def limit (f : LogFilter) : LogThreshold :=
  if f.dynamics.any LogDirective.asksValue then .upTo .trace else f.most

/-- Whether a level is let through by the most specific directive that is about what is asked. -/
def decides (f : LogFilter) (isAbout : LogDirective → Bool) (level : LogLevel) : Bool :=
  match f.statics.find? isAbout with
  | some d => d.threshold.allows level
  | none => false

/-- Whether records of a level that come from a target are let through, as far as this can be told
before there is a record: fields that a directive asks for are left aside. -/
def enables (f : LogFilter) (target : String) (level : LogLevel) : Bool :=
  f.decides (fun d => d.coversTarget target) level

/-- The name of the field that holds the message of a record. -/
def messageField : String := "message"

/-- Whether a record is written. -/
def accepts (f : LogFilter) (r : LogRecord) : Bool :=
  f.decides (fun d => d.covers r.target (messageField :: r.fields.map Prod.fst)) r.level

end LogFilter

end TopicBroker
