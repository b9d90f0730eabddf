import TopicBroker.Ids
import TopicBroker.Payload

/-!
# Messages

What a publication hands to every handler, and the options with which a publisher can fix parts of
it. What the options leave open is filled in when the message is made: the transaction before the
id, both from the source of ids, and the time from the clock.
-/

namespace TopicBroker

/-- When a message came about. -/
inductive Moment where
  /-- At a time given in milliseconds since 1970. -/
  | at (milliseconds : Int)
  /-- When it was published, by the clock. -/
  | clock
  deriving Repr, DecidableEq, Inhabited

/-- A message. -/
structure Message where
  /-- Its id. -/
  id : String
  /-- The transaction that it belongs to. -/
  txId : String
  /-- The topic on which it was published. -/
  topic : String
  /-- Where it comes from, if that is known. -/
  source : Option String
  /-- When it came about. -/
  occurredAt : Moment
  /-- What it carries. -/
  data : Payload
  deriving Inhabited

/-- The parts of a message that a publisher fixes. -/
structure MessageOptions where
  /-- The id. -/
  id : Option String := none
  /-- The transaction. -/
  txId : Option String := none
  /-- The source. -/
  source : Option String := none
  /-- The time in milliseconds since 1970. -/
  occurredAt : Option Int := none
  deriving Repr, DecidableEq, Inhabited

/-- One part of a message and its value. -/
inductive MessageOption where
  /-- The id. -/
  | id (value : String)
  /-- The transaction. -/
  | txId (value : String)
  /-- The source. -/
  | source (value : String)
  /-- The time in milliseconds since 1970. -/
  | occurredAt (value : Int)
  deriving Repr, DecidableEq

namespace MessageOptions

/-- The options with one part fixed. -/
def set (o : MessageOptions) : MessageOption → MessageOptions
  | .id value => { o with id := some value }
  | .txId value => { o with txId := some value }
  | .source value => { o with source := some value }
  | .occurredAt value => { o with occurredAt := some value }

/-- The options with several parts fixed, one after the other. -/
def setAll (o : MessageOptions) (parts : List MessageOption) : MessageOptions :=
  parts.foldl set o

/-- The options before and after each of several parts. -/
def history (o : MessageOptions) : List MessageOption → List MessageOptions
  | [] => [o]
  | part :: rest => o :: (o.set part).history rest

/-- The message with the options, and the source of ids after what was left open is filled in. -/
def build (o : MessageOptions) (topic : String) (data : Payload) (ids : IdSource) :
    Message × IdSource :=
  let (txId, ids) := ids.fill o.txId
  let (id, ids) := ids.fill o.id
  ({ id, txId, topic, data
     source := o.source
     occurredAt := (o.occurredAt.map Moment.at).getD .clock }, ids)

end MessageOptions

end TopicBroker
