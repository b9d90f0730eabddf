import TopicBroker.Proofs.Delivery.Course
import TopicBroker.Proofs.Registry.Tour

/-!
# Brokers that go through their tables in any order

The loops of a registry are run whenever a broker is used: programs and handlers register and list in
the middle of deliveries, and every loop may come to its entries in an order of its own. Here the
steps of an execution are made with given tours. Main statement: two courses in which the same
programs make the same steps, each of them on tours of its own, go through the same executions. So
they have the same answers, the same history with the same calls in the same order, and the same
registry, and these are those of the course on tours in increasing order.
-/

namespace TopicBroker

open Registry (Itinerary SameOnTours replayAlong)

namespace World

variable {w : World}

/-- Register a topic along tours. -/
def registerTopicAlong (i : Itinerary) (w : World) (name : String) : World × Bool :=
  match w.broker.registry.registerTopicAlong i w.accepts name with
  | (_, none) => (w, false)
  | (registry, some handlers) =>
    ((w.withRegistry registry).record (.topicRegistered name handlers), true)

/-- Take a handler out along tours. -/
def deregisterHandlerAlong (i : Itinerary) (w : World) (key : String) : World × Bool :=
  match w.broker.registry.deregisterHandlerAlong i key with
  | (_, none) => (w, false)
  | (registry, some detached) =>
    ((w.withRegistry registry).record (.handlerDeregistered key detached), true)

/-- Register a handler along tours. -/
def registerHandlerAlong (i : Itinerary) (w : World) (key : String) (h : Handler) : World :=
  let (registry, result) := w.broker.registry.registerHandlerAlong i w.accepts key h
  (((w.noteInvalid h.matcher).withRegistry registry).noteDetached key result.detached).record
    (.handlerRegistered key h.matcher result.attached result.detached.isSome)

/-- Perform an operation along tours. Only these operations go through tables. -/
def performAlong (i : Itinerary) (w : World) : Operation → World × Answer
  | .registerTopic name =>
    let (w, b) := w.registerTopicAlong i name
    (w, .truth b)
  | .listTopics => w.ask fun r => .names (sortNames (i .listing r.topics).names)
  | .deregisterHandler key =>
    let (w, b) := w.deregisterHandlerAlong i key
    (w, .truth b)
  | .listHandlerKeys => w.ask fun r => .names (sortNames (i .listing r.handlers).names)
  | .subscriptionsOf key =>
    w.ask fun r => .names (r.subscriptionsAlong w.accepts (i .listing r.topics) key)
  | op => w.perform op

/-- On every tour a topic is registered in the same way. -/
theorem registerTopicAlong_eq (coherent : w.broker.registry.Coherent) (i : Itinerary)
    (name : String) : w.registerTopicAlong i name = w.registerTopic name := by
  rcases result : w.broker.registry.registerTopic w.accepts name with ⟨registry, _ | handlers⟩ <;>
    simp only [registerTopicAlong, registerTopic, coherent.registerTopicAlong_eq, result]

/-- On every tour a handler is taken out in the same way. -/
theorem deregisterHandlerAlong_eq (i : Itinerary) (w : World) (key : String) :
    w.deregisterHandlerAlong i key = w.deregisterHandler key := by
  rcases result : w.broker.registry.deregisterHandler key with ⟨registry, _ | detached⟩ <;>
    simp only [deregisterHandlerAlong, deregisterHandler, Registry.deregisterHandlerAlong_eq, result]

/-- On every tour a handler is registered in the same way. -/
theorem registerHandlerAlong_eq (i : Itinerary) (w : World) (key : String) (h : Handler) :
    w.registerHandlerAlong i key h = w.registerHandler key h := by
  rw [registerHandlerAlong, registerHandler, Registry.registerHandlerAlong_eq]

/-- On every tour an operation does the same and has the same answer. -/
theorem performAlong_eq (coherent : w.broker.registry.Coherent) (i : Itinerary) (op : Operation) :
    w.performAlong i op = w.perform op := by
  have same := coherent.sameOnTours w.accepts
  cases op with
  | registerTopic name =>
    simp only [performAlong, perform, registerTopicAlong_eq coherent]
  | deregisterHandler key =>
    simp only [performAlong, perform, deregisterHandlerAlong_eq]
  | listTopics => rw [performAlong, perform, ask, ask, same.topics]
  | listHandlerKeys => rw [performAlong, perform, ask, ask, same.keys]
  | subscriptionsOf key => rw [performAlong, perform, ask, ask, same.subscriptions]
  | _ => rfl

end World

namespace Execution

variable {e : Execution}

/-- One step, whose loops take the given tours. -/
def stepAlong (i : Itinerary) (e : Execution) : Execution :=
  match e.control with
  | .running (.perform op next) =>
    let (world, answer) := e.world.performAlong i op
    { e with world, control := .running (next answer) }
  | .running (.subscribe key matcher body next) =>
    { e with
      world := e.world.registerHandlerAlong i key { matcher, body }
      control := .running next }
  | _ => e.step

/-- On every tour the step is the same. -/
theorem stepAlong_eq (coherent : e.world.broker.registry.Coherent) (i : Itinerary) :
    e.stepAlong i = e.step := by
  unfold stepAlong
  split
  · next runs => rw [step, runs, World.performAlong_eq coherent]
  · next runs => rw [step, runs, World.registerHandlerAlong_eq]
  · rfl

/-- A step keeps the registry coherent. -/
theorem coherent_step (coherent : e.world.broker.registry.Coherent) :
    e.step.world.broker.registry.Coherent := by
  rw [(move e).registry]
  cases e.act.change? with
  | none => exact coherent
  | some change => exact coherent.apply e.world.accepts change

/-- Several steps, whose loops all take the given tours. -/
def runAlong (i : Itinerary) : Nat → Execution → Execution
  | 0, e => e
  | n + 1, e => runAlong i n (e.stepAlong i)

/-- On every tour a run is the same. -/
theorem runAlong_eq (coherent : e.world.broker.registry.Coherent) (i : Itinerary) (n : Nat) :
    e.runAlong i n = e.run n := by
  induction n generalizing e with
  | zero => rfl
  | succ n ih =>
    rw [runAlong, stepAlong_eq coherent, ih (coherent_step coherent), run]
    split
    · next ended => rw [step_of_isOver ended, run_of_isOver ended]
    · rfl

end Execution

/-- Two courses in which the same programs make the same steps, but every step takes tours of its
own. -/
inductive AnyOrder (w : World) :
    List Execution → Execution → List Execution → Execution → Prop
  /-- The same program starts. -/
  | start (program : Program) : AnyOrder w [] (.start w program) [] (.start w program)
  /-- Both make a step. -/
  | step {past past' : List Execution} {d e : Execution} (two : AnyOrder w past d past' e)
    (i j : Itinerary) :
    AnyOrder w (past ++ [d]) (d.stepAlong i) (past' ++ [e]) (e.stepAlong j)
  /-- The same program starts next. -/
  | next {past past' : List Execution} {d e : Execution} (two : AnyOrder w past d past' e)
    (ended : d.isOver = true) (ended' : e.isOver = true) (history : List Event)
    (program : Program) :
    AnyOrder w past (.start { d.world with history } program)
      past' (.start { e.world with history } program)

/-- What holds at every moment of two such courses. -/
structure OrderHidden (w : World) (past : List Execution) (d : Execution)
    (past' : List Execution) (e : Execution) : Prop where
  /-- They went through the same executions, -/
  samePast : past = past'
  /-- they have led to the same one, with the same history and the same way to go on, -/
  samePresent : d = e
  /-- and the course on tours in increasing order has done so too. -/
  course : Course w past d
  /-- Whatever is done next has the same effect and the same answer on every tour. -/
  perform : ∀ i op, d.world.performAlong i op = d.world.perform op
  /-- A handler is registered in the same way on every tour. -/
  registerHandler : ∀ i key h, d.world.registerHandlerAlong i key h = d.world.registerHandler key h
  /-- A run that goes on from here is the same on every tour. -/
  run : ∀ i n, d.runAlong i n = d.run n
  /-- On every tour the loops of the registry do and find the same, whatever the handlers accept. -/
  loops : ∀ accepts, SameOnTours accepts d.world.broker.registry

namespace AnyOrder

variable {w : World} {past past' : List Execution} {d e : Execution}

/-- The two courses are one course, and its registry is coherent at every moment. -/
theorem course (coherent : w.broker.registry.Coherent) (two : AnyOrder w past d past' e) :
    past = past' ∧ d = e ∧ Course w past d ∧ d.world.broker.registry.Coherent := by
  induction two with
  | start program => exact ⟨rfl, rfl, .start program, coherent⟩
  | step two i j ih =>
    obtain ⟨rfl, rfl, c, coherent'⟩ := ih
    rw [Execution.stepAlong_eq coherent', Execution.stepAlong_eq coherent']
    exact ⟨rfl, rfl, c.step, Execution.coherent_step coherent'⟩
  | next two ended ended' history program ih =>
    obtain ⟨rfl, rfl, c, coherent'⟩ := ih
    exact ⟨rfl, rfl, c.next ended history program, coherent'⟩

/-- Several steps on one tour and as many on another one. -/
theorem run (two : AnyOrder w past d past' e) (i j : Itinerary) (n : Nat) :
    ∃ later later',
      AnyOrder w (past ++ later) (d.runAlong i n) (past' ++ later') (e.runAlong j n) := by
  induction n generalizing past d past' e with
  | zero => exact ⟨[], [], by simpa [Execution.runAlong] using two⟩
  | succ n ih =>
    obtain ⟨later, later', two'⟩ := ih (two.step i j)
    rw [List.append_assoc, List.append_assoc] at two'
    exact ⟨_, _, two'⟩

/-- In which order tables are gone through does not show, from any registry on that changes have led
to, on whatever tours. -/
theorem orderHidden (log : List (Itinerary × MadeChange Handler))
    (reached : w.broker.registry = replayAlong log) (two : AnyOrder w past d past' e) :
    OrderHidden w past d past' e := by
  have coherent : w.broker.registry.Coherent := by
    rw [reached, Registry.replayAlong_eq]
    exact Registry.coherent_replay _
  obtain ⟨samePast, samePresent, c, coherent'⟩ := two.course coherent
  exact
    { samePast, samePresent
      course := c
      perform := fun i op => World.performAlong_eq coherent' i op
      registerHandler := fun i key h => World.registerHandlerAlong_eq i d.world key h
      run := fun i n => Execution.runAlong_eq coherent' i n
      loops := fun accepts => coherent'.sameOnTours accepts }

end AnyOrder

/-- Two handlers accept all topics. Topics are registered before and after them and listed, and there
is a publication. -/
def assembly : Program :=
  .perform (.registerTopic "b") fun _ =>
  .perform (.registerTopic "a") fun _ =>
  .subscribe "k" (.startingWith "") (fun _ => .done) <|
  .subscribe "j" (.startingWith "") (fun _ => .done) <|
  .perform (.registerTopic "c") fun _ =>
  .perform .listTopics fun answer =>
  .perform (.note none "topics" answer) fun _ =>
  .publish (.plain (.new 0) "a" default) false fun _ => .done

/-- The names that the program has noted and the keys of the handlers that were called. -/
def Event.told? : Event → Option (List String)
  | .noted _ _ (.names names) => some names
  | .called call _ => some [call.id.key]
  | _ => none

/-- One broker goes through its tables forwards, another one backwards. The one that does so backwards
also lists the topics in increasing order, and attaches and calls the handlers in the order of their
registration. -/
theorem orderHidden_assembly :
    let forwards : Itinerary := fun _ _ t => .forwards t
    let backwards : Itinerary := fun _ _ t => .backwards t
    let start := Execution.start .plain assembly
    (start.runAlong backwards 5).world.broker.registry.attachedKeys "c" = ["k", "j"] ∧
      (start.runAlong backwards 14).world.history.reverse.filterMap Event.told? =
        [["a", "b", "c"], ["k"], ["j"]] ∧
      ∃ past past', OrderHidden .plain past (start.runAlong forwards 14) past'
        (start.runAlong backwards 14) := by
  refine ⟨?_, ?_, ?_⟩
  · rw [Execution.runAlong_eq Registry.coherent_empty]
    cbv
  · rw [Execution.runAlong_eq Registry.coherent_empty]
    decide +kernel
  · obtain ⟨_, _, two⟩ := (AnyOrder.start (w := .plain) assembly).run
      (fun _ _ t => .forwards t) (fun _ _ t => .backwards t) 14
    exact ⟨_, _, AnyOrder.orderHidden [] rfl two⟩

end TopicBroker
