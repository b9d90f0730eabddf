import TopicBroker.Delivery.World
import TopicBroker.Log.Record

/-!
# What a broker logs

Every change of topics and handlers and every publication leaves a record. Calls of handlers and
answers to their actions leave none.
-/

namespace TopicBroker

namespace BrokerLog

/-- Records about the broker as a whole. -/
def brokerTarget : String := "hubbub::pubsub::broker"

/-- Records about topics and handlers. -/
def registryTarget : String := "hubbub::pubsub::registry"

/-- Records about patterns. -/
def matcherTarget : String := "hubbub::pubsub::matcher"

/-- What stands for the reason why a pattern could not be read. -/
def unspecifiedReason : String := "<error>"

/-- A number in a record. -/
def number (n : Nat) : LogValue := .number n

/-- What kind of pattern a matcher has. -/
def patternKind : Matcher → String
  | .glob .. => "glob"
  | _ => "regex"

end BrokerLog

open BrokerLog

/-- The record that an event leaves. -/
def Event.record? : Event → Option LogRecord
  | .brokerCreated strategy =>
    some { level := .debug, target := brokerTarget, message := "broker created"
           fields := [("strategy", .plain strategy.name)] }
  | .invalidPattern matcher =>
    some { level := .warn, target := matcherTarget
           message := "invalid " ++ patternKind matcher ++ " pattern, it will match nothing"
           fields := [("pattern", .plain matcher.pattern), ("error", .plain unspecifiedReason)] }
  | .topicRegistered topic handlers =>
    some { level := .debug, target := registryTarget, message := "topic registered"
           fields := [("topic", .text topic), ("handlers", number handlers)] }
  | .topicDeregistered topic =>
    some { level := .debug, target := registryTarget, message := "topic deregistered"
           fields := [("topic", .text topic)] }
  | .handlerRegistered key matcher attached replaced =>
    some { level := .debug, target := registryTarget, message := "handler registered"
           fields := [("key", .text key), ("pattern", .text matcher.pattern),
             ("attached", number attached), ("replaced", .truth replaced)] }
  | .handlerDeregistered key detached =>
    some { level := .debug, target := registryTarget, message := "handler deregistered"
           fields := [("key", .text key), ("detached", number detached)] }
  | .topicMissed topic =>
    some { level := .debug, target := brokerTarget, message := "emit to unregistered topic"
           fields := [("topic", .text topic)] }
  | .published _ message handlers =>
    some { level := .trace, target := brokerTarget, message := "emit"
           fields := [("topic", .plain message.topic), ("id", .plain message.id),
             ("tx_id", .plain message.txId), ("handlers", number handlers)] }
  | .called .. | .returned _ | .noted .. => none

/-- The records of several events. -/
def Event.records (events : List Event) : List LogRecord := events.filterMap Event.record?

end TopicBroker
