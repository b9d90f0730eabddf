import TopicBroker.Delivery.Execution
import TopicBroker.Proofs.Registry.Change

/-!
# What a step does

Every step of an execution is an act: it performs an operation, registers a handler, looks a topic
up, calls a handler, returns from a call, or ends a delivery. The act is read off the execution
before the step. One case analysis says for every act what becomes of the world and of the
deliveries under way; everything about runs is derived from it.
-/

namespace TopicBroker

/-- A publication that found its topic. -/
structure Lookup where
  /-- The world at that moment. -/
  world : World
  /-- What is published. -/
  publication : Publication
  /-- Whether a panic of a called handler ends here. -/
  guarded : Bool
  /-- How the publisher goes on. -/
  resume : Answer → Program
  /-- The attachments of the topic at that moment. -/
  attachments : List (Attachment Handler)

namespace Lookup

/-- The number of the publication. -/
def number (l : Lookup) : Nat := l.world.publications + 1

/-- What the handlers are given. -/
def parcel (l : Lookup) : World.Parcel := (World.parcel l.world.broker.ids l.publication).1

/-- The delivery that begins. -/
def frame (l : Lookup) : Frame :=
  { publication := l.number, parcel := l.parcel, current := none, remaining := l.attachments,
    guarded := l.guarded, resume := l.resume }

end Lookup

/-- A call of a handler that is attached to the topic of a publication. -/
structure Invocation where
  /-- The attachment whose handler is called. -/
  attachment : Attachment Handler
  /-- Which call it is, and what the handler is given. -/
  call : Call

/-- The publication that makes a call. -/
def Invocation.publication (i : Invocation) : Nat := i.call.id.publication

/-- What a step does. -/
inductive Act where
  /-- Nothing that anyone else can see. -/
  | rest
  /-- An operation is performed. -/
  | perform (op : Operation)
  /-- A handler is registered. -/
  | subscribe (key : String) (handler : Handler)
  /-- A publication does not find its topic. -/
  | miss (topic : String)
  /-- A publication finds its topic. -/
  | publish (lookup : Lookup)
  /-- A handler is called. -/
  | call (invocation : Invocation)
  /-- A call returns. -/
  | returns (call : CallId)
  /-- A publication has called all its handlers. -/
  | complete (publication : Nat)
  /-- A panic drops a publication, in the middle of a call if there is one. -/
  | unwind (publication : Nat) (call : Option CallId) (message : String)

namespace Execution

/-- What the next step does. -/
def act (e : Execution) : Act :=
  match e.control, e.frames with
  | .running .done, [] => .rest
  | .running .done, f :: _ => (f.current.map Act.returns).getD .rest
  | .running (.panic _), _ => .rest
  | .running (.perform op _), _ => .perform op
  | .running (.subscribe key matcher body _), _ => .subscribe key { matcher, body }
  | .running (.publish p guarded resume), _ =>
    match e.world.broker.registry.snapshot p.topic with
    | none => .miss p.topic
    | some attachments =>
      .publish { world := e.world, publication := p, guarded, resume, attachments }
  | .delivering, [] => .rest
  | .delivering, f :: frames =>
    match f.remaining with
    | [] => .complete f.publication
    | a :: _ => .call ⟨a, (e.world.called a f.parcel f.publication (frames.length + 1)).1⟩
  | .unwinding _, [] => .rest
  | .unwinding message, f :: _ => .unwind f.publication f.current message
  | .finished, _ => .rest
  | .aborted _, _ => .rest

/-- All that a step can do, by what it does. -/
inductive Move : Execution → Act → Execution → Prop
  /-- The outermost program ends. -/
  | finish {w : World} : Move ⟨w, [], .running .done⟩ .rest ⟨w, [], .finished⟩
  /-- A program ends that is no body of a call. -/
  | goOn {w : World} {f : Frame} {frames : List Frame} (idle : f.current = none) :
    Move ⟨w, f :: frames, .running .done⟩ .rest ⟨w, f :: frames, .delivering⟩
  /-- The body of a call ends. -/
  | returns {w : World} {f : Frame} {frames : List Frame} {c : CallId}
      (busy : f.current = some c) :
    Move ⟨w, f :: frames, .running .done⟩ (.returns c)
      ⟨w.returned c, { f with current := none } :: frames, .delivering⟩
  /-- A program panics. -/
  | panic {w : World} {frames : List Frame} {message : String} :
    Move ⟨w, frames, .running (.panic message)⟩ .rest ⟨w, frames, .unwinding message⟩
  /-- A program performs an operation. -/
  | perform {w : World} {frames : List Frame} {op : Operation} {next : Answer → Program} :
    Move ⟨w, frames, .running (.perform op next)⟩ (.perform op)
      ⟨(w.perform op).1, frames, .running (next (w.perform op).2)⟩
  /-- A program registers a handler. -/
  | subscribe {w : World} {frames : List Frame} {key : String} {matcher : Matcher}
      {body : Call → Program} {next : Program} :
    Move ⟨w, frames, .running (.subscribe key matcher body next)⟩
      (.subscribe key { matcher, body })
      ⟨w.registerHandler key { matcher, body }, frames, .running next⟩
  /-- A publication does not find its topic. -/
  | miss {w : World} {frames : List Frame} {p : Publication} {guarded : Bool}
      {resume : Answer → Program} (absent : w.broker.registry.snapshot p.topic = none) :
    Move ⟨w, frames, .running (.publish p guarded resume)⟩ (.miss p.topic)
      ⟨w.missed p.topic, frames, .running (resume (.refused (.topicNotFound p.topic)))⟩
  /-- A publication finds its topic. -/
  | publish {frames : List Frame} {l : Lookup}
      (found : l.world.broker.registry.snapshot l.publication.topic = some l.attachments) :
    Move ⟨l.world, frames, .running (.publish l.publication l.guarded l.resume)⟩ (.publish l)
      ⟨(l.world.publish l.publication l.attachments.length).2, l.frame :: frames, .delivering⟩
  /-- The next handler is called. -/
  | call {w : World} {f : Frame} {frames : List Frame} {a : Attachment Handler}
      {remaining : List (Attachment Handler)} {call : Call} {w' : World}
      (waiting : f.remaining = a :: remaining)
      (called : w.called a f.parcel f.publication (frames.length + 1) = (call, w')) :
    Move ⟨w, f :: frames, .delivering⟩ (.call ⟨a, call⟩)
      ⟨w', { f with current := some call.id, remaining } :: frames,
        .running (a.handler.body call)⟩
  /-- All handlers have been called. -/
  | complete {w : World} {f : Frame} {frames : List Frame} (done : f.remaining = []) :
    Move ⟨w, f :: frames, .delivering⟩ (.complete f.publication)
      ⟨w, frames, .running (f.resume .delivered)⟩
  /-- A panic ends at a guarded publication. -/
  | catches {w : World} {f : Frame} {frames : List Frame} {message : String}
      (guarded : f.guarded = true) :
    Move ⟨w, f :: frames, .unwinding message⟩ (.unwind f.publication f.current message)
      ⟨w, frames, .running (f.resume (.panicked message))⟩
  /-- A panic drops a publication that is not guarded. -/
  | unwind {w : World} {f : Frame} {frames : List Frame} {message : String}
      (unguarded : f.guarded = false) :
    Move ⟨w, f :: frames, .unwinding message⟩ (.unwind f.publication f.current message)
      ⟨w, frames, .unwinding message⟩
  /-- A panic leaves the outermost program. -/
  | abort {w : World} {message : String} :
    Move ⟨w, [], .unwinding message⟩ .rest ⟨w, [], .aborted message⟩
  /-- There is nothing to deliver. -/
  | idle {w : World} : Move ⟨w, [], .delivering⟩ .rest ⟨w, [], .finished⟩
  /-- Nothing happens any more. -/
  | stay {e : Execution} (ended : e.isOver = true) : Move e .rest e

/-- Every step is the move that its act says. -/
theorem move (e : Execution) : Move e e.act e.step := by
  obtain ⟨w, frames, control⟩ := e
  cases control with
  | running program =>
    cases program with
    | done =>
      cases frames with
      | nil => exact .finish
      | cons f frames =>
        cases current : f.current with
        | none =>
          simp only [act, step, stepDone, current, Option.map_none, Option.getD_none]
          exact .goOn current
        | some c =>
          simp only [act, step, stepDone, current, Option.map_some, Option.getD_some]
          exact .returns current
    | panic message => exact .panic
    | perform op next => exact .perform
    | subscribe key matcher body next => exact .subscribe
    | publish p guarded resume =>
      cases found : w.broker.registry.snapshot p.topic with
      | none =>
        simp only [act, step, stepPublish, found]
        exact .miss found
      | some attachments =>
        simp only [act, step, stepPublish, found]
        exact Move.publish (l := ⟨w, p, guarded, resume, attachments⟩) found
  | delivering =>
    cases frames with
    | nil => exact .idle
    | cons f frames =>
      cases waiting : f.remaining with
      | nil =>
        simp only [act, step, stepDeliver, waiting]
        exact .complete waiting
      | cons a remaining =>
        simp only [act, step, stepDeliver, waiting]
        exact .call waiting rfl
  | unwinding message =>
    cases frames with
    | nil => exact .abort
    | cons f frames =>
      cases guarded : f.guarded with
      | true =>
        simp only [act, step, stepUnwind, guarded, if_true]
        exact .catches guarded
      | false =>
        simp only [act, step, stepUnwind, guarded, Bool.false_eq_true, if_false]
        exact .unwind guarded
  | finished => exact .stay rfl
  | aborted message => exact .stay rfl

variable {e : Execution}

/-- A publication to a registered topic finds its topic. -/
theorem act_of_publish {p : Publication} {guarded : Bool} {resume : Answer → Program}
    {attachments : List (Attachment Handler)} (emits : e.control = .running (.publish p guarded resume))
    (registered : e.world.broker.registry.snapshot p.topic = some attachments) :
    e.act = .publish ⟨e.world, p, guarded, resume, attachments⟩ := by
  simp only [act, emits, registered]

/-- A publication to a topic that is not registered misses it. -/
theorem act_of_miss {p : Publication} {guarded : Bool} {resume : Answer → Program}
    (emits : e.control = .running (.publish p guarded resume))
    (absent : e.world.broker.registry.snapshot p.topic = none) : e.act = .miss p.topic := by
  simp only [act, emits, absent]

/-- A publication finds the attachments that its topic has at this moment. -/
theorem snapshot_of_publish {l : Lookup} (publishes : e.act = .publish l) :
    e.world.broker.registry.snapshot l.publication.topic = some l.attachments := by
  have m := move e
  rw [publishes] at m
  generalize e.step = e' at m
  cases m
  assumption

/-- A call runs the body of the handler that is attached. -/
theorem control_of_call {i : Invocation} (calls : e.act = .call i) :
    e.step.control = .running (i.attachment.handler.body i.call) := by
  have m := move e
  rw [calls] at m
  generalize e.step = e' at m
  cases m
  rfl

end Execution

end TopicBroker
