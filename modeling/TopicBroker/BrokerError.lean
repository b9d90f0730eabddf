/-!
# Errors of a broker

Why a broker cannot be built or a publication is refused.
-/

namespace TopicBroker

/-- Why a broker refuses. -/
inductive BrokerError where
  /-- No source of ids was given. -/
  | missingIdGenerator
  /-- The topic of a publication is not registered. -/
  | topicNotFound (topic : String)
  deriving Repr, DecidableEq, Inhabited

/-- The error as a text. -/
def BrokerError.message : BrokerError → String
  | .missingIdGenerator => "config error: an id generator is required to build a broker"
  | .topicNotFound topic => "topic not found: " ++ topic

end TopicBroker
