import TopicBroker.Delivery.World
import TopicBroker.Failure

/-!
# Brokers from settings

Settings say how ids are made, how patterns are read, and which topics are registered at once. Only
a topic without a name is refused.
-/

namespace TopicBroker

/-- The source of ids that settings choose; the seed is for random ones. -/
def Settings.ids (s : Settings) (seed : UInt64) : IdSource :=
  match s.idGenerator with
  | .uuid => .random seed
  | .counter => .counted s.idPrefix

/-- A broker that was given up: why, and what had happened by then. -/
structure UnfinishedBroker where
  /-- Why it was given up. -/
  report : Report
  /-- What had happened, the last event first. -/
  history : List Event

namespace Broker

/-- What is said of a topic without a name. -/
def namelessTopic : Cause := .generic .invalidArgs "empty topic name in settings"

/-- Register topics in order, without the blanks around their names. -/
def registerNamed (w : World) : List String → Except UnfinishedBroker World
  | [] => .ok w
  | topic :: rest =>
    match Outcome.ensure (!Text.isBlankText topic) namelessTopic with
    | .error report => .error { report, history := w.history }
    | .ok _ => registerNamed (w.registerTopic (Text.trim topic)).1 rest

/-- The world of a broker that is built from settings. -/
def fromSettings (settings : Settings) (seed : UInt64) : Except UnfinishedBroker World :=
  registerNamed (world { strategy := settings.matchStrategy, ids := settings.ids seed })
    settings.topics

/-- Topics are refused exactly if nothing but blanks is in the name of one of them. -/
theorem isOk_registerNamed (w : World) (topics : List String) :
    (registerNamed w topics).isOk = topics.all fun topic => !Text.isBlankText topic := by
  induction topics generalizing w with
  | nil => rfl
  | cons topic rest ih =>
    unfold registerNamed Outcome.ensure
    by_cases blank : Text.isBlankText topic = true
    · simp [blank, Except.isOk, Except.toBool]
    · simp [blank, ih]

end Broker

end TopicBroker
