import TopicBroker.Failure.Cause

/-!
# Reports of failures

A report is a cause with contexts: what was being done when it went wrong, from the inside out.
Contexts are told apart from the cause, so that they change neither its kind nor what callers are
told.
-/

namespace TopicBroker

/-- A place in a program. -/
structure Place where
  /-- The file. -/
  file : String
  /-- The number of the line. -/
  line : Nat
  deriving Repr, DecidableEq, Inhabited

/-- A place as a text. -/
def Place.describe (p : Place) : String := p.file ++ ":" ++ Decimal.ofNat p.line

/-- What was being done. -/
structure ReportContext where
  /-- What was being done, as a text. -/
  message : String
  /-- The place in the program, if it is known. -/
  place : Option Place
  deriving Repr, DecidableEq, Inhabited

/-- A context as a text, with its place behind it. -/
def ReportContext.describe (c : ReportContext) : String :=
  match c.place with
  | some place => c.message ++ " (" ++ place.describe ++ ")"
  | none => c.message

/-- A cause with contexts. -/
structure Report where
  /-- What went wrong in the first place. -/
  cause : Cause
  /-- What was being done, from the inside out. -/
  contexts : List ReportContext := []
  deriving Repr, DecidableEq, Inhabited

/-- What a caller is told about a failure. -/
structure Response where
  /-- The number of the status code. -/
  code : UInt32
  /-- The text for callers. -/
  message : String
  /-- The contexts as texts. -/
  contexts : List String
  deriving Repr, DecidableEq, Inhabited

/-- The response as a document; without contexts the field for them is left out. -/
def Response.toDocument (r : Response) : Document :=
  .ofFields ([("code", Document.ofNat r.code.toNat), ("message", .text r.message)] ++
    if r.contexts.isEmpty then [] else [("contexts", .texts r.contexts)])

namespace Report

/-- Add a context around all others. -/
def context (r : Report) (message : String) (place : Place) : Report :=
  { r with contexts := r.contexts ++ [{ message, place := some place }] }

/-- A context leaves the cause as it is. -/
@[simp] theorem cause_context (r : Report) (message : String) (place : Place) :
    (r.context message place).cause = r.cause := rfl

/-- What kind of error it is. -/
def status (r : Report) : StatusCode := r.cause.status

/-- The text for callers. -/
def clientMessage (r : Report) : String := r.cause.clientMessage

/-- The tags for logs. -/
def tags (r : Report) : List (String × String) := r.cause.tags

/-- The level at which the failure is logged. -/
def logLevel (r : Report) : LogLevel := r.status.logLevel

/-- What the report comes from. -/
def source (r : Report) : Option Cause := some r.cause

/-- What the cause holds, if it is of a type. -/
def downcast? (t : CauseType) (r : Report) : Option t.Value := r.cause.downcast? t

/-- The contexts as texts. -/
def contextTexts (r : Report) : List String := r.contexts.map ReportContext.describe

/-- The contexts, each followed by a colon, and then a text. -/
def around (contexts : List ReportContext) (text : String) : String :=
  contexts.foldl (fun inner c => c.message ++ ": " ++ inner) text

/-- The report as a text: the contexts from the outside in, and then the cause. -/
def message (r : Report) : String := around r.contexts r.cause.text

/-- The report as a diagnostic text. -/
def debugText (r : Report) : String :=
  let contexts :=
    if r.contexts.isEmpty then ""
    else ", contexts: [" ++ ", ".intercalate (r.contextTexts.map Text.quote) ++ "]"
  "StackError \x7b inner: " ++ Text.quote r.cause.text ++ ", status_code: " ++ r.status.name ++
    contexts ++ " \x7d"

/-- What a caller is told. -/
def response (r : Report) : Response :=
  { code := r.status.code, message := r.clientMessage, contexts := r.contextTexts }

end Report

end TopicBroker
