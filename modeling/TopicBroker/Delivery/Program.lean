import TopicBroker.BrokerError
import TopicBroker.Correlation.Store
import TopicBroker.Matcher
import TopicBroker.Message

/-!
# Programs over a broker

What a caller of a broker or the body of a handler does: questions and changes, registrations of
handlers, publications and panics, one after the other. How a program goes on may depend on every
answer it gets. Bodies of handlers are programs themselves, and so a handler can do whatever a
caller can.
-/

namespace TopicBroker

/-- How many publications found their topic, how many calls of handlers returned, and how many
publications found no topic; each is counted in a word of 64 bits. -/
structure Stats where
  /-- Publications to a registered topic. -/
  emitted : UInt64 := 0
  /-- Calls of handlers that returned. -/
  delivered : UInt64 := 0
  /-- Publications to a topic that was not registered. -/
  topicMisses : UInt64 := 0
  deriving Repr, DecidableEq, Inhabited

/-- Which call of a handler. -/
structure CallId where
  /-- The key under which the handler was registered. -/
  key : String
  /-- The number of its registration. -/
  seq : Nat
  /-- The publication that makes the call, counted from one. -/
  publication : Nat
  /-- How often this registration was called so far, this call included. -/
  number : Nat
  /-- How many calls are nested here, this call included. -/
  depth : Nat
  deriving Repr, DecidableEq, Inhabited

/-- A call of a handler. -/
structure Call where
  /-- Which call it is. -/
  id : CallId
  /-- The context that the handler is given. -/
  context : Correlation
  /-- The message that the handler is given. -/
  message : Message
  deriving Inhabited

/-- A publication. -/
inductive Publication where
  /-- The message takes transaction and source from the context. A context without transaction gets
  a new one, which the handlers see. -/
  | plain (context : Correlation) (topic : String) (data : Payload)
  /-- The message takes transaction and source from the options, and the handlers see the context
  as it is. -/
  | withOptions (context : Correlation) (topic : String) (data : Payload) (options : MessageOptions)
  deriving Inhabited

/-- The topic of a publication. -/
def Publication.topic : Publication → String
  | .plain _ topic _ => topic
  | .withOptions _ topic _ _ => topic

/-- What an operation answers. -/
inductive Answer where
  /-- Nothing. -/
  | nothing
  /-- The publication was delivered. -/
  | delivered
  /-- The publication was refused. -/
  | refused (error : BrokerError)
  /-- A handler that was called panicked. -/
  | panicked (message : String)
  /-- Yes or no. -/
  | truth (value : Bool)
  /-- A number. -/
  | count (value : Nat)
  /-- Names in order. -/
  | names (values : List String)
  /-- A text. -/
  | text (value : String)
  /-- The counts of a broker. -/
  | stats (value : Stats)
  /-- A context. -/
  | context (value : Correlation)
  /-- What a context shows. -/
  | view (value : CorrelationView)
  /-- What reading a payload at a type gives. -/
  | reading (data : Payload) (kind : PayloadKind)
  deriving Inhabited

/-- A question or a change that involves no body of a handler. -/
inductive Operation where
  /-- Register a topic. -/
  | registerTopic (name : String)
  /-- Take a topic out. -/
  | deregisterTopic (name : String)
  /-- Whether a topic is registered. -/
  | hasTopic (name : String)
  /-- The topics. -/
  | listTopics
  /-- The number of topics. -/
  | topicCount
  /-- The keys attached to a topic. -/
  | attachedKeys (name : String)
  /-- Take a handler out. -/
  | deregisterHandler (key : String)
  /-- Whether a handler is registered. -/
  | hasHandler (key : String)
  /-- The keys of the handlers. -/
  | listHandlerKeys
  /-- The number of handlers. -/
  | handlerCount
  /-- The topics that a handler accepts now. -/
  | subscriptionsOf (key : String)
  /-- The strategy of the broker. -/
  | strategy
  /-- The broker as a diagnostic text. -/
  | describe
  /-- The counts of the broker. -/
  | stats
  /-- Set a switch that matchers may depend on. -/
  | setFlag (name : String) (value : Bool)
  /-- A new context. -/
  | startContext
  /-- The context of a name. -/
  | fetchContext (name : String)
  /-- Keep a context under a name. -/
  | keepContext (name : String) (context : Correlation)
  /-- Cancel the family of a context. -/
  | cancel (context : Correlation)
  /-- What a context shows. -/
  | viewContext (context : Correlation)
  /-- Note that an action was answered, in the body of a call or outside of all calls. -/
  | note (call : Option CallId) (action : String) (answer : Answer)

/-- What a caller or the body of a handler does. -/
inductive Program where
  /-- It ends. -/
  | done
  /-- It panics. -/
  | panic (message : String)
  /-- It asks or changes something and goes on with the answer. -/
  | perform (op : Operation) (next : Answer → Program)
  /-- It registers a handler. -/
  | subscribe (key : String) (matcher : Matcher) (body : Call → Program) (next : Program)
  /-- It publishes and goes on with the outcome. Only if it is guarded, a panic of a handler that
  is called comes back as an outcome. -/
  | publish (p : Publication) (guarded : Bool) (next : Answer → Program)

instance : Inhabited Program := ⟨.done⟩

/-- A handler: which topics it wants, and what it does when it is called. -/
structure Handler where
  /-- Which topics it wants. -/
  matcher : Matcher
  /-- What it does. -/
  body : Call → Program
  deriving Inhabited

end TopicBroker
