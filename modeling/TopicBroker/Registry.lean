import TopicBroker.Table

/-!
# The registry of topics and handlers

Every topic keeps the list of handlers that are attached to it. A handler is attached when its topic
and it have both been registered and it accepts the topic's name at that moment. Registrations are
numbered in order, and the lists of attachments follow these numbers: a topic that is registered
late attaches the handlers in the order of their registration, a handler that is registered late
comes last, and taking one out keeps the order of the others.

The registry does not know what a handler is. Whether it accepts a name is asked through a function
that every operation takes, so that the answer may change between two operations.
-/

namespace TopicBroker

/-- A handler in the list of a topic. -/
structure Attachment (H : Type) where
  /-- The name under which the handler was registered. -/
  key : String
  /-- The number of its registration. Fewer than `2 ^ 64` registrations are meant, whose numbers fit
  into a word of 64 bits. -/
  seq : Nat
  /-- The handler. -/
  handler : H

/-- A registered handler. -/
structure Registration (H : Type) where
  /-- The number of the registration. -/
  seq : Nat
  /-- The handler. -/
  handler : H

/-- A registration as it stands in the list of a topic. -/
def Registration.attachment {H : Type} (r : Registration H) (key : String) : Attachment H :=
  { key, seq := r.seq, handler := r.handler }

/-- Topics with their attachments, handlers, and the number of the last registration. -/
structure Registry (H : Type) where
  /-- The attachments of every topic, in the order of delivery. -/
  topics : Table (List (Attachment H))
  /-- The registered handlers by key. -/
  handlers : Table (Registration H)
  /-- The number of the last registration of a handler. A word of 64 bits is meant. Fewer than `2 ^ 64`
  registrations never leave it, as the module on coherence shows for every log of changes, and so
  the numbers are counted here without a bound. -/
  lastSeq : Nat

namespace Registry

variable {H : Type}

/-- The registry without topics and handlers. -/
def empty : Registry H := ⟨.empty, .empty, 0⟩

instance : Inhabited (Registry H) := ⟨empty⟩

/-- Whether a topic is registered. -/
def hasTopic (r : Registry H) (name : String) : Bool := r.topics.contains name

/-- Whether a handler is registered. -/
def hasHandler (r : Registry H) (key : String) : Bool := r.handlers.contains key

/-- The topics in increasing order. -/
def listTopics (r : Registry H) : List String := r.topics.names

/-- The keys of the handlers in increasing order. -/
def listHandlerKeys (r : Registry H) : List String := r.handlers.names

/-- The number of topics. -/
def topicCount (r : Registry H) : Nat := r.topics.size

/-- The number of handlers. -/
def handlerCount (r : Registry H) : Nat := r.handlers.size

/-- The attachments of a topic, if it is registered: whom a delivery calls. -/
def snapshot (r : Registry H) (topic : String) : Option (List (Attachment H)) :=
  r.topics.get? topic

/-- The keys attached to a topic, in the order of delivery. -/
def attachedKeys (r : Registry H) (topic : String) : List String :=
  ((r.snapshot topic).getD []).map (·.key)

/-- The registered topics that a handler accepts now, in increasing order. -/
def subscriptionsOf (accepts : H → String → Bool) (r : Registry H) (key : String) : List String :=
  match r.handlers.get? key with
  | none => []
  | some reg => r.listTopics.filter (accepts reg.handler)

/-- Put attachments into the order of their registrations. -/
def inOrder (attachments : List (Attachment H)) : List (Attachment H) :=
  attachments.mergeSort fun a b => a.seq ≤ b.seq

/-- The handlers among the given ones that accept a topic, in the order of their registration. -/
def matchingAmong (accepts : H → String → Bool) (handlers : List (String × Registration H))
    (topic : String) : List (Attachment H) :=
  inOrder <| (handlers.filter fun e => accepts e.2.handler topic).map fun e => e.2.attachment e.1

/-- The handlers that accept a topic, in the order of their registration. -/
def matching (accepts : H → String → Bool) (r : Registry H) (topic : String) :
    List (Attachment H) :=
  matchingAmong accepts r.handlers.entries topic

/-- Register a topic. The result says how many handlers were attached, or nothing if the topic was
registered already. -/
def registerTopic (accepts : H → String → Bool) (r : Registry H) (name : String) :
    Registry H × Option Nat :=
  if r.hasTopic name then (r, none)
  else
    let attachments := r.matching accepts name
    ({ r with topics := r.topics.insert name attachments }, some attachments.length)

/-- Take a topic out. The result says whether it was registered. -/
def deregisterTopic (r : Registry H) (name : String) : Registry H × Bool :=
  ({ r with topics := r.topics.erase name }, r.hasTopic name)

/-- Add a handler to every topic that it accepts. -/
def attachEverywhere (accepts : H → String → Bool) (a : Attachment H)
    (topics : Table (List (Attachment H))) : Table (List (Attachment H)) :=
  topics.map fun name list => if accepts a.handler name then list ++ [a] else list

/-- Take the first attachment with a key out of every list. -/
def detachEverywhere (key : String) (topics : Table (List (Attachment H))) :
    Table (List (Attachment H)) :=
  topics.map fun _ list => list.eraseP fun a => a.key == key

/-- How many topics have a key attached. -/
def attachedCount (key : String) (topics : Table (List (Attachment H))) : Nat :=
  (topics.entries.filter fun e => e.2.any fun a => a.key == key).length

/-- Take a handler out. The result says from how many topics it was detached, or nothing if it was
not registered. -/
def deregisterHandler (r : Registry H) (key : String) : Registry H × Option Nat :=
  if r.hasHandler key then
    ({ r with
        topics := detachEverywhere key r.topics
        handlers := r.handlers.erase key },
      some (attachedCount key r.topics))
  else (r, none)

/-- What the registration of a handler did. -/
structure Registered where
  /-- From how many topics an earlier handler of the same key was detached, if there was one. -/
  detached : Option Nat
  /-- To how many topics the handler was attached. -/
  attached : Nat
  deriving Repr, DecidableEq

/-- Register a handler, in place of one with the same key. -/
def registerHandler (accepts : H → String → Bool) (r : Registry H) (key : String) (handler : H) :
    Registry H × Registered :=
  let (r, detached) := r.deregisterHandler key
  let reg : Registration H := ⟨r.lastSeq + 1, handler⟩
  ({ topics := attachEverywhere accepts (reg.attachment key) r.topics
     handlers := r.handlers.insert key reg
     lastSeq := reg.seq },
    { detached, attached := (r.listTopics.filter (accepts handler)).length })

end Registry

end TopicBroker
