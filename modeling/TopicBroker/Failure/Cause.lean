import TopicBroker.BrokerError
import TopicBroker.Settings
import TopicBroker.StatusCode

/-!
# Causes of failures

What went wrong in the first place. Every cause has a status code, a text for callers, which tells
nothing about faults inside of the program, and a text and tags for logs.
-/

namespace TopicBroker

/-- An error that is foreign to this library. What it does not say of itself is taken from its type,
its text and its diagnostic text. -/
structure ForeignError where
  /-- The name of its type. -/
  typeName : String
  /-- The error as a text. -/
  text : String
  /-- The error as a diagnostic text. -/
  debugText : String
  /-- What kind of error it is. -/
  status : StatusCode := .internal
  /-- What it says to callers. -/
  clientMessage : Option String := none
  /-- What it says to logs. -/
  logMessage : Option String := none
  /-- The tags that it gives to itself. -/
  tags : Option (List (String × String)) := none
  /-- The name that it gives to its type. -/
  label : Option String := none
  deriving Repr, DecidableEq, Inhabited

/-- What went wrong in the first place. -/
inductive Cause where
  /-- A broker refused. -/
  | broker (error : BrokerError)
  /-- Settings were refused. -/
  | settings (error : SettingsError)
  /-- Something else, of which code and text are given. -/
  | generic (code : StatusCode) (text : String)
  /-- An error that is foreign to this library. -/
  | foreign (error : ForeignError)
  deriving Repr, DecidableEq, Inhabited

/-- The tags of an error of which the type and the kind are known. -/
def errorTags (label : String) (status : StatusCode) : List (String × String) :=
  [("error_type", label), ("status_code", status.describe)]

namespace BrokerError

/-- The error of a broker as a diagnostic text. -/
def debugText : BrokerError → String
  | .missingIdGenerator => "MissingIdGenerator"
  | .topicNotFound topic => "TopicNotFound \x7b topic: " ++ Text.quote topic ++ " \x7d"

/-- The kind of error of a broker. -/
def status : BrokerError → StatusCode
  | .missingIdGenerator => .invalidConfig
  | .topicNotFound _ => .notFound

/-- The tags of the error of a broker, with the topic if it is about one. -/
def tags (error : BrokerError) : List (String × String) :=
  errorTags "broker" error.status ++
    match error with
    | .missingIdGenerator => []
    | .topicNotFound topic => [("topic", topic)]

end BrokerError

namespace Cause

/-- The cause as a text. -/
def text : Cause → String
  | .broker error => error.message
  | .settings error => error.message
  | .generic _ text => text
  | .foreign error => error.text

/-- The cause as a diagnostic text. -/
def debugText : Cause → String
  | .broker error => error.debugText
  | .settings error => error.debugText
  | .generic code text =>
    "GenericError \x7b code: " ++ code.name ++ ", message: " ++ Text.quote text ++ " \x7d"
  | .foreign error => error.debugText

/-- What kind of error it is. -/
def status : Cause → StatusCode
  | .broker error => error.status
  | .settings _ => .invalidConfig
  | .generic code _ => code
  | .foreign error => error.status

/-- The name of the type of a cause. -/
def typeName : Cause → String
  | .broker _ => "BrokerError"
  | .settings _ => "SettingsError"
  | .generic .. => "GenericError"
  | .foreign error => error.label.getD error.typeName

/-- What callers are told instead of a text that is kept from them. -/
def hiddenText : String := "Internal error"

/-- What a cause says to callers by itself. What a broker refuses is never kept from them. -/
def ownClientMessage : Cause → Option String
  | .broker error => some error.message
  | .foreign error => error.clientMessage
  | .settings _ | .generic .. => none

/-- The text for callers. -/
def clientMessage (c : Cause) : String :=
  c.ownClientMessage.getD (if c.status.isHidden then hiddenText else c.text)

/-- What a cause says to logs by itself. -/
def ownLogMessage : Cause → Option String
  | .foreign error => error.logMessage
  | .broker _ | .settings _ | .generic .. => none

/-- The text for logs. -/
def logMessage (c : Cause) : String := c.ownLogMessage.getD c.debugText

/-- The tags that a cause gives to itself. -/
def ownTags : Cause → Option (List (String × String))
  | .broker error => some error.tags
  | .foreign error => error.tags
  | .settings _ | .generic .. => none

/-- The tags of a cause for logs. -/
def tags (c : Cause) : List (String × String) := c.ownTags.getD (errorTags c.typeName c.status)

end Cause

/-- The type of a cause. -/
inductive CauseType where
  /-- Errors of a broker. -/
  | broker
  /-- Errors of settings. -/
  | settings
  /-- Errors of which code and text are given. -/
  | generic
  /-- Foreign errors of a type with a name. -/
  | foreign (typeName : String)
  deriving Repr, DecidableEq

/-- What a cause of a type holds. -/
def CauseType.Value : CauseType → Type
  | .broker => BrokerError
  | .settings => SettingsError
  | .generic => StatusCode × String
  | .foreign _ => ForeignError

namespace Cause

/-- The type of a cause. -/
def type : Cause → CauseType
  | .broker _ => .broker
  | .settings _ => .settings
  | .generic .. => .generic
  | .foreign error => .foreign error.typeName

/-- What a cause holds, if it is of a type. -/
def downcast? : (t : CauseType) → Cause → Option t.Value
  | .broker, .broker error => some error
  | .settings, .settings error => some error
  | .generic, .generic code text => some (code, text)
  | .foreign typeName, .foreign error => if error.typeName = typeName then some error else none
  | _, _ => none

end Cause

end TopicBroker
