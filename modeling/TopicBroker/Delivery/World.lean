import TopicBroker.Delivery.Program
import TopicBroker.Registry

/-!
# The world of a broker

A broker together with what its callers and handlers share: switches, contexts, how often each
registration was called, and the history of what happened.
-/

namespace TopicBroker

/-- Something that happened. -/
inductive Event where
  /-- A broker was made. -/
  | brokerCreated (strategy : MatchStrategy)
  /-- A pattern could not be read. -/
  | invalidPattern (matcher : Matcher)
  /-- A topic was registered, and so many handlers were attached to it. -/
  | topicRegistered (topic : String) (handlers : Nat)
  /-- A topic was taken out. -/
  | topicDeregistered (topic : String)
  /-- A handler was registered. -/
  | handlerRegistered (key : String) (matcher : Matcher) (attached : Nat) (replaced : Bool)
  /-- A handler was taken out. -/
  | handlerDeregistered (key : String) (detached : Nat)
  /-- A publication found no topic. -/
  | topicMissed (topic : String)
  /-- A publication found its topic and goes to so many handlers. -/
  | published (number : Nat) (message : Message) (handlers : Nat)
  /-- A handler was called; the flag says whether its context was cancelled then. -/
  | called (call : Call) (cancelled : Bool)
  /-- A call returned. -/
  | returned (call : CallId)
  /-- An action was answered, in the body of a call or outside of all calls. -/
  | noted (call : Option CallId) (action : String) (answer : Answer)

/-- A broker. -/
structure Broker where
  /-- How patterns are read. -/
  strategy : MatchStrategy
  /-- Where ids come from. -/
  ids : IdSource
  /-- Topics and handlers. -/
  registry : Registry Handler := .empty
  /-- What was counted. -/
  stats : Stats := {}

/-- The broker as a diagnostic text. -/
def Broker.describe (b : Broker) : String :=
  let number (n : Nat) := Decimal.ofNat n
  "Broker \x7b strategy: " ++ b.strategy.name ++ ", topics: " ++ number b.registry.topicCount ++
    ", handlers: " ++ number b.registry.handlerCount ++ ", stats: BrokerStats \x7b emitted: " ++
    number b.stats.emitted.toNat ++ ", delivered: " ++ number b.stats.delivered.toNat ++
    ", topic_misses: " ++ number b.stats.topicMisses.toNat ++ " \x7d \x7d"

/-- How often each of several things was counted, by number. -/
structure Tally where
  /-- The counts, without repetition. -/
  counts : List (Nat × Nat) := []
  deriving Repr, Inhabited

namespace Tally

/-- The counts with one more for a number. -/
def bumpIn (i : Nat) : List (Nat × Nat) → List (Nat × Nat)
  | [] => [(i, 1)]
  | (j, n) :: rest => if i = j then (j, n + 1) :: rest else (j, n) :: bumpIn i rest

/-- The count of a number in a list of counts. -/
def countIn (i : Nat) : List (Nat × Nat) → Nat
  | [] => 0
  | (j, n) :: rest => if i = j then n else countIn i rest

/-- The count of a number. -/
def count (t : Tally) (i : Nat) : Nat := countIn i t.counts

/-- Count once more. -/
def bump (t : Tally) (i : Nat) : Tally := ⟨bumpIn i t.counts⟩

/-- Counting changes one count by one. -/
theorem count_bump (t : Tally) (i j : Nat) :
    (t.bump i).count j = t.count j + if j = i then 1 else 0 := by
  unfold count bump
  simp only
  induction t.counts with
  | nil => by_cases h : j = i <;> simp [bumpIn, countIn, h]
  | cons head rest ih =>
    obtain ⟨k, n⟩ := head
    unfold bumpIn
    split
    · next eq =>
      subst eq
      by_cases h : j = i <;> simp [countIn, h]
    · next ne =>
      by_cases h : j = k
      · subst h
        simp [countIn, Ne.symm ne]
      · simpa [countIn, h] using ih

end Tally

/-- A broker and what its callers and handlers share. -/
structure World where
  /-- The broker. -/
  broker : Broker
  /-- The switches that were set. -/
  flags : Table Bool := .empty
  /-- The contexts. -/
  contexts : ContextStore := {}
  /-- How often each registration was called. -/
  calls : Tally := {}
  /-- How many publications found their topic. -/
  publications : Nat := 0
  /-- What happened, the last event first. -/
  history : List Event := []

namespace World

/-- How a switch stands; one that was never set is off. -/
def flag (w : World) (name : String) : Bool := (w.flags.get? name).getD false

/-- Whether a handler accepts a topic now. -/
def accepts (w : World) (h : Handler) (topic : String) : Bool := h.matcher.accepts w.flag topic

/-- The world in which an event has happened. -/
def record (w : World) (e : Event) : World := { w with history := e :: w.history }

/-- The world with another registry. -/
def withRegistry (w : World) (registry : Registry Handler) : World :=
  { w with broker := { w.broker with registry } }

/-- Register a topic. -/
def registerTopic (w : World) (name : String) : World × Bool :=
  match w.broker.registry.registerTopic w.accepts name with
  | (_, none) => (w, false)
  | (registry, some handlers) =>
    ((w.withRegistry registry).record (.topicRegistered name handlers), true)

/-- Take a topic out. -/
def deregisterTopic (w : World) (name : String) : World × Bool :=
  match w.broker.registry.deregisterTopic name with
  | (_, false) => (w, false)
  | (registry, true) => ((w.withRegistry registry).record (.topicDeregistered name), true)

/-- Take a handler out. -/
def deregisterHandler (w : World) (key : String) : World × Bool :=
  match w.broker.registry.deregisterHandler key with
  | (_, none) => (w, false)
  | (registry, some detached) =>
    ((w.withRegistry registry).record (.handlerDeregistered key detached), true)

/-- Note that the pattern of a matcher could not be read. -/
def noteInvalid (w : World) (m : Matcher) : World :=
  if m.isValid? = some false then w.record (.invalidPattern m) else w

/-- Note that a handler with the same key was taken out. -/
def noteDetached (w : World) (key : String) : Option Nat → World
  | none => w
  | some detached => w.record (.handlerDeregistered key detached)

/-- Register a handler. -/
def registerHandler (w : World) (key : String) (h : Handler) : World :=
  let (registry, result) := w.broker.registry.registerHandler w.accepts key h
  (((w.noteInvalid h.matcher).withRegistry registry).noteDetached key result.detached).record
    (.handlerRegistered key h.matcher result.attached result.detached.isSome)

/-- Change the counts of the broker. -/
def count (w : World) (f : Stats → Stats) : World :=
  { w with broker := { w.broker with stats := f w.broker.stats } }

/-- A publication found no topic. -/
def missed (w : World) (topic : String) : World :=
  (w.count fun s => { s with topicMisses := s.topicMisses + 1 }).record (.topicMissed topic)

/-- A call returned. -/
def returned (w : World) (call : CallId) : World :=
  (w.count fun s => { s with delivered := s.delivered + 1 }).record (.returned call)

/-- What is handed to the handlers of a publication. -/
structure Parcel where
  /-- The context. -/
  context : Correlation
  /-- The message. -/
  message : Message

/-- The parcel of a publication, and the source of ids behind it. -/
def parcel (ids : IdSource) : Publication → Parcel × IdSource
  | .plain context topic data =>
    let (txId, ids) := ids.fill context.txId
    let (id, ids) := ids.draw
    ({ context := { context with txId := some txId }
       message :=
        { id, txId, topic, data, source := context.source, occurredAt := .clock } }, ids)
  | .withOptions context topic data options =>
    let (message, ids) := options.build topic data ids
    ({ context, message }, ids)

/-- A publication found its topic, to which so many handlers are attached. -/
def publish (w : World) (p : Publication) (handlers : Nat) : Parcel × World :=
  let (parcel, ids) := World.parcel w.broker.ids p
  let w := w.count fun s => { s with emitted := s.emitted + 1 }
  let number := w.publications + 1
  (parcel,
    ({ w with
        broker := { w.broker with ids }
        publications := number }).record (.published number parcel.message handlers))

/-- A registration is called. -/
def called (w : World) (a : Attachment Handler) (parcel : Parcel) (publication depth : Nat) :
    Call × World :=
  let calls := w.calls.bump a.seq
  let call : Call :=
    { id := { key := a.key, seq := a.seq, publication, number := calls.count a.seq, depth }
      context := parcel.context
      message := parcel.message }
  (call,
    ({ w with calls }).record (.called call (w.contexts.families.isCancelled parcel.context)))

/-- Ask the registry. -/
def ask (w : World) (f : Registry Handler → Answer) : World × Answer := (w, f w.broker.registry)

/-- Perform an operation. -/
def perform (w : World) : Operation → World × Answer
  | .registerTopic name =>
    let (w, b) := w.registerTopic name
    (w, .truth b)
  | .deregisterTopic name =>
    let (w, b) := w.deregisterTopic name
    (w, .truth b)
  | .hasTopic name => w.ask fun r => .truth (r.hasTopic name)
  | .listTopics => w.ask fun r => .names r.listTopics
  | .topicCount => w.ask fun r => .count r.topicCount
  | .attachedKeys name => w.ask fun r => .names (r.attachedKeys name)
  | .deregisterHandler key =>
    let (w, b) := w.deregisterHandler key
    (w, .truth b)
  | .hasHandler key => w.ask fun r => .truth (r.hasHandler key)
  | .listHandlerKeys => w.ask fun r => .names r.listHandlerKeys
  | .handlerCount => w.ask fun r => .count r.handlerCount
  | .subscriptionsOf key => w.ask fun r => .names (r.subscriptionsOf w.accepts key)
  | .strategy => (w, .text w.broker.strategy.name)
  | .describe => (w, .text w.broker.describe)
  | .stats => (w, .stats w.broker.stats)
  | .setFlag name value => ({ w with flags := w.flags.insert name value }, .nothing)
  | .startContext =>
    let (c, contexts) := w.contexts.start
    ({ w with contexts }, .context c)
  | .fetchContext name =>
    let (c, contexts) := w.contexts.fetch name
    ({ w with contexts }, .context c)
  | .keepContext name c => ({ w with contexts := w.contexts.keep name c }, .nothing)
  | .cancel c => ({ w with contexts := w.contexts.cancel c }, .nothing)
  | .viewContext c => (w, .view (w.contexts.view c))
  | .note call action answer => (w.record (.noted call action answer), .nothing)

end World

namespace Broker

/-- A broker in a world in which nothing else has happened. -/
def world (b : Broker) : World :=
  { broker := b, history := [.brokerCreated b.strategy] }

/-- A broker with the given source of ids, which it needs. -/
def create (ids : Option IdSource) (strategy : MatchStrategy := .default) :
    Except BrokerError World :=
  match ids with
  | none => .error .missingIdGenerator
  | some ids => .ok (world { strategy, ids })

end Broker

end TopicBroker
