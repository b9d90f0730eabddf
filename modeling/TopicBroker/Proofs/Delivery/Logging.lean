import TopicBroker.Delivery.Logging
import TopicBroker.Proofs.Delivery.Reordering
import TopicBroker.Proofs.Registry.Total

/-!
# What is logged of topics and handlers

Every change of topics and handlers that has an effect leaves a record with the numbers of what it
did. Main statements: the records of a change, in terms of the registry before it and after it, and
that a step logs the account of the change that it makes, or nothing about topics and handlers.
-/

namespace TopicBroker

open Execution

namespace BrokerLog

/-- A record about topics and handlers. -/
def registryRecord (message : String) (fields : List (String × LogValue)) : LogRecord :=
  { level := .debug, target := registryTarget, message, fields }

/-- A topic was registered, and so many handlers were attached to it. -/
def topicRegistered (topic : String) (handlers : Nat) : LogRecord :=
  registryRecord "topic registered" [("topic", .text topic), ("handlers", number handlers)]

/-- A topic was taken out. -/
def topicDeregistered (topic : String) : LogRecord :=
  registryRecord "topic deregistered" [("topic", .text topic)]

/-- A handler was registered and attached to so many topics, in place of another one or not. -/
def handlerRegistered (key pattern : String) (attached : Nat) (replaced : Bool) : LogRecord :=
  registryRecord "handler registered" [("key", .text key), ("pattern", .text pattern),
    ("attached", number attached), ("replaced", .truth replaced)]

/-- A handler was taken out and detached from so many topics. -/
def handlerDeregistered (key : String) (detached : Nat) : LogRecord :=
  registryRecord "handler deregistered" [("key", .text key), ("detached", number detached)]

end BrokerLog

open BrokerLog

/-- What is logged about a matcher before it is registered: a warning if its pattern cannot be read.
-/
def Matcher.warnings (m : Matcher) : List LogRecord :=
  if m.isValid? = some false then (Event.invalidPattern m).record?.toList else []

/-- What is logged of a handler that is taken out: nothing if there is none with the key, or else how
many topics have the key attached. -/
def Registry.farewell (r : Registry Handler) (key : String) : List LogRecord :=
  if r.hasHandler key then [handlerDeregistered key (r.topicsOf key).length] else []

/-- What is logged of a change, in terms of the registry before it and the registry after it. -/
def Change.account (before after : Registry Handler) : Change Handler → List LogRecord
  | .registerTopic name =>
    if before.hasTopic name then [] else [topicRegistered name (after.attachedKeys name).length]
  | .deregisterTopic name => if before.hasTopic name then [topicDeregistered name] else []
  | .registerHandler key handler =>
    handler.matcher.warnings ++ before.farewell key ++
      [handlerRegistered key handler.matcher.pattern (after.topicsOf key).length
        (before.hasHandler key)]
  | .deregisterHandler key => before.farewell key

namespace World

/-- What was logged since the history was cleared, in order. -/
def log (w : World) : List LogRecord := Event.records w.history.reverse

/-- An event adds its record. -/
@[simp] theorem log_record (w : World) (event : Event) :
    (w.record event).log = w.log ++ event.record?.toList := by
  rw [log, record, List.reverse_cons, Event.records, List.filterMap_append]
  cases left : event.record? <;> simp [log, Event.records, left]

@[simp] theorem log_withRegistry (w : World) (registry : Registry Handler) :
    (w.withRegistry registry).log = w.log := rfl

/-- The warning about a pattern stands in front of all else. -/
@[simp] theorem log_noteInvalid (w : World) (m : Matcher) :
    (w.noteInvalid m).log = w.log ++ m.warnings := by
  unfold noteInvalid Matcher.warnings
  split
  · exact w.log_record _
  · rw [List.append_nil]

/-- That a handler was taken out is logged with the number that is reported. -/
theorem log_noteDetached (w : World) (r : Registry Handler) (key : String) :
    (w.noteDetached key (r.deregisterHandler key).2).log = w.log ++ r.farewell key := by
  rw [Registry.snd_deregisterHandler, Registry.farewell]
  split
  · exact w.log_record _
  · exact (List.append_nil _).symm

/-- A topic that is new is logged with the number of handlers that it got. -/
theorem log_registerTopic (w : World) (name : String) :
    (w.registerTopic name).1.log = w.log ++ (Change.registerTopic name).account w.broker.registry
      (w.broker.registry.registerTopic w.accepts name).1 := by
  have report := Registry.snd_registerTopic w.accepts w.broker.registry name
  simp only [registerTopic, Change.account]
  split
  · next eq =>
    have known : w.broker.registry.hasTopic name = true := by
      by_contra unknown
      simp [eq, unknown] at report
    rw [if_pos known, List.append_nil]
  · next registry handlers eq =>
    have unknown : ¬ w.broker.registry.hasTopic name = true := fun known => by
      simp [eq, known] at report
    rw [if_neg unknown, eq, Option.some.injEq] at report
    rw [if_neg unknown, log_record, log_withRegistry, report, eq]
    rfl

/-- A topic that is taken out is logged. -/
theorem log_deregisterTopic (w : World) (name : String) (after : Registry Handler) :
    (w.deregisterTopic name).1.log =
      w.log ++ (Change.deregisterTopic name).account w.broker.registry after := by
  simp only [deregisterTopic, Registry.deregisterTopic, Change.account]
  split
  · next eq => simp [(Prod.mk.inj eq).2]
  · next eq =>
    rw [(Prod.mk.inj eq).2, if_pos rfl, log_record, log_withRegistry]
    rfl

/-- A handler that is taken out is logged with the number of topics that had its key attached. -/
theorem log_deregisterHandler (w : World) (key : String) :
    (w.deregisterHandler key).1.log = w.log ++ w.broker.registry.farewell key := by
  have report := Registry.snd_deregisterHandler w.broker.registry key
  simp only [deregisterHandler, Registry.farewell]
  split
  · next eq =>
    have absent : ¬ w.broker.registry.hasHandler key = true := fun known => by
      simp [eq, known] at report
    rw [if_neg absent, List.append_nil]
  · next registry detached eq =>
    have known : w.broker.registry.hasHandler key = true := by
      by_contra absent
      simp [eq, absent] at report
    rw [if_pos known, eq, Option.some.injEq] at report
    rw [if_pos known, log_record, log_withRegistry, report]
    rfl

/-- A handler that is registered is logged with the number of topics that have its key attached then,
after the one in whose place it is put. -/
theorem log_registerHandler {w : World} (coherent : w.broker.registry.Coherent) (key : String)
    (handler : Handler) :
    (w.registerHandler key handler).log =
      w.log ++ (Change.registerHandler key handler).account w.broker.registry
        (w.broker.registry.registerHandler w.accepts key handler).1 := by
  have report := coherent.snd_registerHandler w.accepts key handler
  have replaced : (w.broker.registry.deregisterHandler key).2.isSome =
      w.broker.registry.hasHandler key := by
    rw [Registry.snd_deregisterHandler]
    cases w.broker.registry.hasHandler key <;> rfl
  simp only [registerHandler, Change.account, report]
  rw [log_record, log_noteDetached, log_withRegistry, log_noteInvalid, replaced]
  simp only [List.append_assoc]
  rfl

/-- Every change logs its account and nothing else. -/
theorem log_make {w : World} (coherent : w.broker.registry.Coherent) (c : Change Handler) :
    (w.make c).1.log = w.log ++ c.account w.broker.registry (w.make c).1.broker.registry := by
  rw [registry_make]
  cases c with
  | registerTopic name => exact w.log_registerTopic name
  | deregisterTopic name => exact w.log_deregisterTopic name _
  | registerHandler key handler => exact log_registerHandler coherent key handler
  | deregisterHandler key => exact w.log_deregisterHandler key

end World

namespace World

/-- Whether from one world to another nothing was logged about topics and handlers. -/
def Quiet (w w' : World) : Prop :=
  ∃ records, w'.log = w.log ++ records ∧ ∀ r ∈ records, r.target ≠ registryTarget

variable {w w' : World}

/-- Where nothing happens, nothing is logged. -/
theorem quiet_of_history (same : w'.history = w.history) : w.Quiet w' :=
  ⟨[], by rw [log, same, List.append_nil, log], by simp⟩

/-- An event that has nothing to do with topics and handlers logs nothing about them. -/
theorem quiet_of_event {event : Event} (added : w'.history = event :: w.history)
    (other : ∀ r ∈ event.record?, r.target ≠ registryTarget) : w.Quiet w' := by
  refine ⟨event.record?.toList, ?_, fun r hr => other r (Option.mem_toList.mp hr)⟩
  rw [← log_record, log, added]
  rfl

/-- An operation that asks for no change of topics and handlers logs nothing about them. -/
theorem quiet_perform (w : World) {op : Operation} (passive : change? op = none) :
    w.Quiet (w.perform op).1 := by
  cases op with
  | registerTopic | deregisterTopic | deregisterHandler => cases passive
  | fetchContext name => exact quiet_of_history rfl
  | note call action answer => exact quiet_of_event rfl (by simp [Event.record?])
  | _ => exact quiet_of_history rfl

end World

namespace Execution

namespace Move

variable {e e' : Execution} {a : Act} {c : Change Handler}

/-- Whoever changes topics and handlers, a program or the body of a handler, the change is the same.
-/
theorem world_of_change (m : Move e a e') (changes : a.change? = some c) :
    e'.world = (e.world.make c).1 := by
  cases m with
  | @perform w frames op next =>
    cases op <;> cases changes <;> rfl
  | subscribe => cases changes; rfl
  | _ => cases changes

/-- A step that changes nothing of topics and handlers logs nothing about them. -/
theorem quiet (m : Move e a e') (passive : a.change? = none) : e.world.Quiet e'.world := by
  cases m with
  | perform => exact World.quiet_perform _ passive
  | subscribe => cases passive
  | returns busy => exact World.quiet_of_event rfl (by simp [Event.record?])
  | miss absent =>
    refine World.quiet_of_event rfl ?_
    simp [Event.record?, brokerTarget, registryTarget]
  | publish found =>
    refine World.quiet_of_event rfl ?_
    simp [Event.record?, brokerTarget, registryTarget]
  | call waiting called =>
    obtain ⟨-, rfl⟩ := Prod.mk.inj called
    exact World.quiet_of_event rfl (by simp [Event.record?])
  | _ => exact World.quiet_of_history rfl

end Move

/-- What the next step logs. -/
def logged (e : Execution) : List LogRecord := e.step.world.log.drop e.world.log.length

variable {e : Execution}

/-- What is logged behind the log before a step is what the step logs. -/
theorem logged_eq {records : List LogRecord} (added : e.step.world.log = e.world.log ++ records) :
    e.logged = records := by
  rw [logged, added, List.drop_left]

/-- A step that changes topics and handlers logs the account of its change. -/
theorem logged_of_change (coherent : e.world.broker.registry.Coherent) {c : Change Handler}
    (changes : e.act.change? = some c) :
    e.logged = c.account e.world.broker.registry e.step.world.broker.registry := by
  rw [(move e).world_of_change changes]
  refine logged_eq ?_
  rw [(move e).world_of_change changes]
  exact World.log_make coherent c

/-- Any other step logs nothing about them. -/
theorem target_of_mem_logged (passive : e.act.change? = none) :
    ∀ r ∈ e.logged, r.target ≠ registryTarget := by
  obtain ⟨records, added, other⟩ := (move e).quiet passive
  rw [logged_eq added]
  exact other

/-- A step adds what it logs to the log. -/
theorem log_step (coherent : e.world.broker.registry.Coherent) :
    e.step.world.log = e.world.log ++ e.logged := by
  cases changes : e.act.change? with
  | none =>
    obtain ⟨records, added, -⟩ := (move e).quiet changes
    rw [logged_eq added, added]
  | some c =>
    rw [logged_of_change coherent changes, (move e).world_of_change changes]
    exact World.log_make coherent c

end Execution

end TopicBroker
