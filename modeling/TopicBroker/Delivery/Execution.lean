import TopicBroker.Delivery.World

/-!
# Running programs

A program runs step by step. A publication calls the handlers that were attached to its topic when
it looked the topic up, one after the other, and goes on when the last one has returned; what the
handlers change meanwhile does not touch this list. A handler may publish in turn, so the deliveries
under way form a stack. A panic drops deliveries from the stack down to the first that is guarded.
-/

namespace TopicBroker

/-- A delivery under way. -/
structure Frame where
  /-- The number of the publication. -/
  publication : Nat
  /-- What the handlers are given. -/
  parcel : World.Parcel
  /-- The call that has not returned yet. -/
  current : Option CallId
  /-- The handlers that are still to be called. -/
  remaining : List (Attachment Handler)
  /-- Whether a panic ends here. -/
  guarded : Bool
  /-- How the publisher goes on. -/
  resume : Answer → Program

/-- What happens next. -/
inductive Control where
  /-- A program goes on. -/
  | running (program : Program)
  /-- The topmost delivery goes on with its next handler. -/
  | delivering
  /-- A panic looks for a guarded delivery. -/
  | unwinding (message : String)
  /-- The outermost program has ended. -/
  | finished
  /-- A panic has left the outermost program. -/
  | aborted (message : String)

/-- A run of a program: the world, the deliveries under way, the innermost first, and what happens
next. -/
structure Execution where
  /-- The world. -/
  world : World
  /-- The deliveries under way. -/
  frames : List Frame := []
  /-- What happens next. -/
  control : Control

namespace Execution

/-- The start of a program. -/
def start (world : World) (program : Program) : Execution :=
  { world, control := .running program }

/-- A program has ended: the call whose body it was returns. -/
def stepDone (e : Execution) : Execution :=
  match e.frames with
  | [] => { e with control := .finished }
  | f :: frames =>
    match f.current with
    | none => { e with control := .delivering }
    | some call =>
      { world := e.world.returned call
        frames := { f with current := none } :: frames
        control := .delivering }

/-- A publication looks its topic up and starts its delivery. -/
def stepPublish (e : Execution) (p : Publication) (guarded : Bool) (next : Answer → Program) :
    Execution :=
  match e.world.broker.registry.snapshot p.topic with
  | none =>
    { e with
      world := e.world.missed p.topic
      control := .running (next (.refused (.topicNotFound p.topic))) }
  | some attachments =>
    let (parcel, world) := e.world.publish p attachments.length
    { world
      frames :=
        { publication := world.publications, parcel, current := none, remaining := attachments,
          guarded, resume := next } :: e.frames
      control := .delivering }

/-- The topmost delivery calls its next handler or ends. -/
def stepDeliver (e : Execution) : Execution :=
  match e.frames with
  | [] => { e with control := .finished }
  | f :: frames =>
    match f.remaining with
    | [] => { e with frames, control := .running (f.resume .delivered) }
    | a :: remaining =>
      let (call, world) := e.world.called a f.parcel f.publication (frames.length + 1)
      { world
        frames := { f with current := some call.id, remaining } :: frames
        control := .running (a.handler.body call) }

/-- A panic drops the topmost delivery; if that is guarded, its publisher goes on. -/
def stepUnwind (e : Execution) (message : String) : Execution :=
  match e.frames with
  | [] => { e with control := .aborted message }
  | f :: frames =>
    if f.guarded then { e with frames, control := .running (f.resume (.panicked message)) }
    else { e with frames }

/-- One step. -/
def step (e : Execution) : Execution :=
  match e.control with
  | .running .done => e.stepDone
  | .running (.panic message) => { e with control := .unwinding message }
  | .running (.perform op next) =>
    let (world, answer) := e.world.perform op
    { e with world, control := .running (next answer) }
  | .running (.subscribe key matcher body next) =>
    { e with
      world := e.world.registerHandler key { matcher, body }
      control := .running next }
  | .running (.publish p guarded next) => e.stepPublish p guarded next
  | .delivering => e.stepDeliver
  | .unwinding message => e.stepUnwind message
  | .finished => e
  | .aborted _ => e

/-- Whether nothing happens any more. -/
def isOver (e : Execution) : Bool :=
  match e.control with
  | .finished | .aborted _ => true
  | _ => false

/-- At most so many steps. -/
def run : Nat → Execution → Execution
  | 0, e => e
  | n + 1, e => if e.isOver then e else run n e.step

/-- A run that is over makes no further step. -/
theorem step_of_isOver {e : Execution} (h : e.isOver = true) : e.step = e := by
  unfold isOver at h
  unfold step
  split at h
  · next eq => simp [eq]
  · next eq => simp [eq]
  · simp at h

/-- A run that is over stays as it is. -/
theorem run_of_isOver {e : Execution} (h : e.isOver = true) (n : Nat) : run n e = e := by
  cases n with
  | zero => rfl
  | succ n => simp [run, h]

/-- A run can be cut at any step. -/
theorem run_add (m n : Nat) (e : Execution) : run (m + n) e = run n (run m e) := by
  induction m generalizing e with
  | zero => simp [run]
  | succ m ih =>
    rw [Nat.add_right_comm]
    by_cases ended : e.isOver = true
    · rw [run_of_isOver ended, run_of_isOver ended, run_of_isOver ended]
    · simp only [run, ended]
      exact ih _

end Execution

end TopicBroker
