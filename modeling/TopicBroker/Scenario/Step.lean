import TopicBroker.Delivery.Execution

/-!
# Scenarios

A scenario is a list of steps on a broker, written down instead of programmed. The handlers that it
registers have scenarios as bodies: they run at the first few calls of the registration, and every
answer is noted. A step is turned into a program over the broker.
-/

namespace TopicBroker

/-- Which context a step uses. -/
inductive ContextChoice where
  /-- The context that the handler was given; outside of handlers a new one. -/
  | given
  /-- The context of a name. -/
  | named (name : String)
  /-- A new context with the given values. -/
  | fresh (txId source : Option String) (cancelled : Bool)
  deriving Repr, DecidableEq, Inhabited

/-- How the matcher of a handler is made from its pattern. -/
inductive MatcherChoice where
  /-- By the strategy of the broker. -/
  | byBroker
  /-- By a strategy of its own. -/
  | byStrategy (strategy : MatchStrategy)
  /-- All names that start with the pattern. -/
  | startingWith
  /-- Every name while the switch is on that the pattern names. -/
  | whileOn
  deriving Repr, DecidableEq, Inhabited

/-- The matcher for a pattern. -/
def MatcherChoice.matcher (strategy : MatchStrategy) (pattern : String) : MatcherChoice → Matcher
  | .byBroker => .compile strategy pattern
  | .byStrategy own => .compile own pattern
  | .startingWith => .startingWith pattern
  | .whileOn => .whileOn pattern

/-- The ways to publish. -/
inductive PublishForm where
  /-- A value. -/
  | value
  /-- A payload; without one a handler passes on the payload of its message. -/
  | payload
  /-- A value with options. -/
  | withOptions (options : MessageOptions)
  deriving Repr, DecidableEq, Inhabited

/-- One step. -/
inductive Step where
  /-- A question or a change. -/
  | ask (op : Operation)
  /-- Register a handler, whose body runs at the first calls. -/
  | registerHandler (key pattern : String) (matcher : MatcherChoice) (limit : Nat)
      (body : List Step)
  /-- Publish. Only if the step is guarded, a panic of a handler ends here. -/
  | publish (form : PublishForm) (topic : String) (context : ContextChoice)
      (data : Option Payload) (guarded : Bool)
  /-- Keep a context under a name: a copy of another one with the given values, or a new one. -/
  | keepDerived (name : String) (origin : Option String) (txId source : Option String)
  /-- What a context shows. -/
  | showContext (context : ContextChoice)
  /-- Cancel a context. -/
  | cancel (context : ContextChoice)
  /-- Keep the given context under a name. -/
  | keepGiven (name : String)
  /-- Read the payload of the message at a type. -/
  | read (kind : PayloadKind)
  /-- Panic. Only if the step is guarded, the panic ends here. -/
  | panic (message : String) (guarded : Bool)
  deriving Inhabited

/-- The name of an operation in a scenario. -/
def Operation.name : Operation → String
  | .registerTopic _ => "register_topic"
  | .deregisterTopic _ => "deregister_topic"
  | .hasTopic _ => "has_topic"
  | .listTopics => "list_topics"
  | .topicCount => "topic_count"
  | .attachedKeys _ => "attached_handler_keys"
  | .deregisterHandler _ => "deregister_handler"
  | .hasHandler _ => "has_handler"
  | .listHandlerKeys => "list_handler_keys"
  | .handlerCount => "handler_count"
  | .subscriptionsOf _ => "subscriptions_of"
  | .strategy => "strategy"
  | .describe => "debug"
  | .stats => "stats"
  | .setFlag .. => "set_flag"
  | .startContext | .fetchContext _ => "ctx"
  | .keepContext .. => "keep_ctx"
  | .cancel _ => "cancel"
  | .viewContext _ => "show_ctx"
  | .note .. => "note"

/-- The name of a way to publish in a scenario. -/
def PublishForm.name : PublishForm → String
  | .value => "emit"
  | .payload => "emit_payload"
  | .withOptions _ => "emit_with_options"

/-- The name of a step. -/
def Step.name : Step → String
  | .ask op => op.name
  | .registerHandler .. => "register_handler"
  | .publish form .. => form.name
  | .keepDerived .. => "ctx"
  | .showContext _ => "show_ctx"
  | .cancel _ => "cancel"
  | .keepGiven _ => "keep_ctx"
  | .read _ => "read"
  | .panic .. => "panic"

/-- Perform an operation that answers with a context. -/
def Program.withContext (op : Operation) (next : Correlation → Program) : Program :=
  .perform op fun
    | .context c => next c
    | _ => .done

/-- Go on with the context that a step uses. -/
def ContextChoice.resolve (call : Option Call) (next : Correlation → Program) :
    ContextChoice → Program
  | .given =>
    match call with
    | some call => next call.context
    | none => .withContext .startContext next
  | .named name => .withContext (.fetchContext name) next
  | .fresh txId source cancelled =>
    .withContext .startContext fun c =>
      let c := c.withValues txId source
      if cancelled then .perform (.cancel c) fun _ => next c else next c

/-- The payload of a publication. -/
def PublishForm.data (call : Option Call) (data : Option Payload) : PublishForm → Payload
  | .payload => data.getD ((call.map fun c => c.message.data).getD .unit)
  | _ => data.getD .unit

/-- The publication of a step. -/
def PublishForm.publication (form : PublishForm) (context : Correlation) (topic : String)
    (data : Payload) : Publication :=
  match form with
  | .withOptions options => .withOptions context topic data options
  | _ => .plain context topic data

mutual

/-- The program of a step, made with the strategy of the broker and the call in whose body it
stands; the answer goes to the rest of the program. -/
def Step.program (strategy : MatchStrategy) (call : Option Call) (next : Answer → Program) :
    Step → Program
  | .ask op => .perform op next
  | .registerHandler key pattern matcher limit body =>
    .subscribe key (matcher.matcher strategy pattern)
      (fun c => if c.id.number ≤ limit then Step.body strategy c body else .done)
      (next .nothing)
  | .publish form topic context data guarded =>
    context.resolve call fun c =>
      .publish (form.publication c topic (form.data call data)) guarded next
  | .keepDerived name origin txId source =>
    .withContext ((origin.map Operation.fetchContext).getD .startContext) fun c =>
      let c := c.withValues txId source
      .perform (.keepContext name c) fun _ => .perform (.viewContext c) next
  | .showContext context => context.resolve call fun c => .perform (.viewContext c) next
  | .cancel context => context.resolve call fun c => .perform (.cancel c) next
  | .keepGiven name =>
    ContextChoice.given.resolve call fun c => .perform (.keepContext name c) next
  | .read kind => next (.reading ((call.map fun c => c.message.data).getD .unit) kind)
  | .panic message guarded => if guarded then next (.panicked message) else .panic message

/-- The program of a body: its steps in order, each noted with its answer. -/
def Step.body (strategy : MatchStrategy) (call : Call) : List Step → Program
  | [] => .done
  | s :: rest =>
    s.program strategy (some call) fun answer =>
      .perform (.note (some call.id) s.name answer) fun _ => Step.body strategy call rest

end

end TopicBroker
