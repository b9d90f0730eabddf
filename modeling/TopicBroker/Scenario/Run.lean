import TopicBroker.Scenario.Step

/-!
# Running scenarios

The steps of a scenario run one after the other in the same world. The length of a run is bounded
beforehand: a body runs only at the first calls of its registration, so the number of actions is
bounded by the text of the scenario, every publication is an action, and it calls at most as many
handlers as were registered.
-/

namespace TopicBroker

mutual

/-- How many actions a step can cause, itself included. -/
def Step.weight : Step → Nat
  | .registerHandler _ _ _ limit body => 1 + limit * Step.weights body
  | _ => 1

/-- How many actions several steps can cause. -/
def Step.weights : List Step → Nat
  | [] => 0
  | s :: rest => s.weight + Step.weights rest

end

/-- How many steps of execution a scenario with so many actions can take. -/
def Step.fuel (weight : Nat) : Nat := 16 * (weight + 2) * (weight + 2)

/-- The program of a step outside of all handlers, which ends by noting the answer. -/
def Step.toplevel (strategy : MatchStrategy) (s : Step) : Program :=
  s.program strategy none fun answer => .perform (.note none s.name answer) fun _ => .done

/-- The start of a step outside of all handlers. What happened before is not kept. -/
def Step.start (w : World) (s : Step) : Execution :=
  .start { w with history := [] } (s.toplevel w.broker.strategy)

/-- The executions to which steps lead that run one after the other with the given fuel. -/
def Step.endsWith (fuel : Nat) : World → List Step → List Execution
  | _, [] => []
  | w, s :: rest =>
    let e := Execution.run fuel (s.start w)
    e :: Step.endsWith fuel e.world rest

/-- What a step of a scenario did. -/
structure StepReport where
  /-- The answer. -/
  answer : Answer
  /-- What happened, in order. -/
  events : List Event
  /-- The world afterwards. -/
  world : World

/-- The answer that the outermost program noted last. -/
def World.lastAnswer (w : World) : Answer :=
  match w.history with
  | .noted none _ answer :: _ => answer
  | _ => .nothing

/-- What a step did whose run has come to its end. A panic that nothing stopped is its answer. -/
def Execution.report (e : Execution) : StepReport :=
  let answer :=
    match e.control with
    | .aborted message => .panicked message
    | _ => e.world.lastAnswer
  { answer, events := e.world.history.reverse, world := e.world }

/-- Run a scenario. -/
def Step.runAll (w : World) (steps : List Step) : List StepReport :=
  (Step.endsWith (Step.fuel (Step.weights steps)) w steps).map (·.report)

end TopicBroker
