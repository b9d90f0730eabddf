import Mathlib.Data.List.Permutation
import TopicBroker.Proofs.Delivery.Course
import TopicBroker.Proofs.Registry.Commutation
import TopicBroker.Proofs.Registry.Decision

/-!
# In which order topics and handlers are registered

Whether a topic or a handler comes first does not matter to a broker: the registry is the same in
the end, down to the numbers of the registrations and the order of every list, and so are the answers.
No change sets a switch, so the matchers answer the same in both orders.
-/

namespace TopicBroker

namespace World

/-- Make a change of the registry. The second part is what the broker answers. -/
def make (w : World) : Change Handler → World × Answer
  | .registerTopic name => w.perform (.registerTopic name)
  | .deregisterTopic name => w.perform (.deregisterTopic name)
  | .registerHandler key handler => (w.registerHandler key handler, .nothing)
  | .deregisterHandler key => w.perform (.deregisterHandler key)

/-- Make several changes of the registry, one after the other. -/
def makeAll (w : World) (cs : List (Change Handler)) : World := cs.foldl (fun w c => (w.make c).1) w

/-- A change changes the registry as the registry says, and writes into the history. It leaves all
else. -/
theorem make_eq (w : World) (c : Change Handler) : ∃ history,
    (w.make c).1 = { w.withRegistry (w.broker.registry.apply w.accepts c) with history } := by
  cases c with
  | registerTopic name => exact w.perform_eq_apply rfl
  | deregisterTopic name => exact w.perform_eq_apply rfl
  | registerHandler key handler => exact w.registerHandler_eq key handler
  | deregisterHandler key => exact w.perform_eq_apply rfl

/-- A change changes the registry as the registry says. -/
theorem registry_make (w : World) (c : Change Handler) :
    (w.make c).1.broker.registry = w.broker.registry.apply w.accepts c := by
  obtain ⟨history, eq⟩ := w.make_eq c
  rw [eq]
  rfl

/-- A change leaves what the handlers accept. -/
theorem accepts_make (w : World) (c : Change Handler) : (w.make c).1.accepts = w.accepts := by
  obtain ⟨history, eq⟩ := w.make_eq c
  rw [eq]
  rfl

/-- Several changes change the registry as the registry says. -/
theorem registry_makeAll (w : World) (cs : List (Change Handler)) :
    (w.makeAll cs).broker.registry = w.broker.registry.applyAll w.accepts cs := by
  induction cs generalizing w with
  | nil => rfl
  | cons c cs ih =>
    have rest := ih (w.make c).1
    rw [registry_make, accepts_make] at rest
    exact rest

variable {w w' : World} {c d : Change Handler}

/-- What is answered to a change depends only on whether its topic is registered, or which handlers
are. -/
theorem snd_make_congr
    (topic : ∀ name, c.topic? = some name →
      w.broker.registry.hasTopic name = w'.broker.registry.hasTopic name)
    (handlers : c.topic? = none → w.broker.registry.handlers = w'.broker.registry.handlers) :
    (w.make c).2 = (w'.make c).2 := by
  cases c with
  | registerTopic name =>
    simp only [make, perform, snd_registerTopic, topic name rfl]
  | deregisterTopic name =>
    simp only [make, perform, snd_deregisterTopic, topic name rfl]
  | registerHandler key handler => rfl
  | deregisterHandler key =>
    simp only [make, perform, snd_deregisterHandler, Registry.hasHandler, handlers rfl]

/-- A change leaves the answer to another one that it can be exchanged with. -/
theorem snd_make_make (apart : c.topic? ≠ d.topic?) : ((w.make c).1.make d).2 = (w.make d).2 := by
  refine snd_make_congr ?_ ?_
  · intro name about
    rw [registry_make, Bool.eq_iff_iff, Registry.hasTopic_apply]
    have out : c ≠ .deregisterTopic name := fun eq => apart (by rw [eq, about]; rfl)
    have into : c ≠ .registerTopic name := fun eq => apart (by rw [eq, about]; rfl)
    simp [out, into]
  · intro about
    rw [registry_make]
    cases own : c.topic? with
    | none => exact absurd (own.trans about.symm) apart
    | some name => exact (Registry.handlers_apply_of_topic _ _ own).1

/-- Whether it does not matter which of two changes is made first. -/
structure Exchange (w : World) (c d : Change Handler) : Prop where
  /-- The registry is the same in the end: topics and their lists, handlers, and the last number. -/
  registry : ((w.make c).1.make d).1.broker.registry = ((w.make d).1.make c).1.broker.registry
  /-- The one change is answered the same. -/
  left : (w.make c).2 = ((w.make d).1.make c).2
  /-- So is the other one. -/
  right : (w.make d).2 = ((w.make c).1.make d).2

/-- Which changes can be made in another order. -/
structure OrderFree (w : World) : Prop where
  /-- A change of a topic and a change of handlers. -/
  topicAndHandler : ∀ c d : Change Handler, c.topic?.isSome = true → d.topic? = none → w.Exchange c d
  /-- Changes of different topics. -/
  topics : ∀ (c d : Change Handler) name other, c.topic? = some name → d.topic? = some other →
    name ≠ other → w.Exchange c d
  /-- All changes of a list, as long as those of handlers keep their order, and those of every
  single topic keep theirs. -/
  interleavings : ∀ cs ds : List (Change Handler), Change.Interleaves cs ds →
    (w.makeAll cs).broker.registry = (w.makeAll ds).broker.registry

/-- Where the registry is coherent, changes can be exchanged that are not about the same topic and
not both about handlers. -/
theorem exchange_of_coherent (h : w.broker.registry.Coherent) (apart : c.topic? ≠ d.topic?) :
    w.Exchange c d where
  registry := by
    rw [registry_make, registry_make, registry_make, registry_make, accepts_make, accepts_make]
    exact h.apply_comm apart
  left := (snd_make_make apart.symm).symm
  right := (snd_make_make apart).symm

end World

namespace Course

variable {w : World} {past : List Execution} {e : Execution} {ids : Option IdSource}
  {strategy : MatchStrategy}

/-- At every moment of a course, changes of topics, changes of handlers and changes of other topics
can be made in another order. -/
theorem orderFree (fresh : Broker.create ids strategy = .ok w) (c : Course w past e) :
    e.world.OrderFree := by
  have coherent := c.coherent fresh
  refine ⟨?_, ?_, ?_⟩
  · intro change change' about about'
    refine World.exchange_of_coherent coherent fun same => ?_
    rw [same, about'] at about
    cases about
  · intro change change' name other about about' ne
    refine World.exchange_of_coherent coherent fun same => ne ?_
    rw [about, about'] at same
    exact Option.some.inj same
  · intro changes changes' same
    rw [World.registry_makeAll, World.registry_makeAll]
    exact coherent.applyAll_of_interleaves same

/-- A program that registers a topic and two handlers that accept every topic. -/
def gathering : Program :=
  .perform (.registerTopic "a") fun _ =>
    .subscribe "j" (.startingWith "") (fun _ => .done) <|
    .subscribe "k" (.startingWith "") (fun _ => .done) .done

/-- A handler that accepts every topic as well. -/
def newcomer : Handler := ⟨.startingWith "", fun _ => .done⟩

/-- When `j` is replaced, it moves to the end of the lists, also of the list of a topic that is
registered only afterwards; and the same lists come about if the topic is registered first. -/
theorem orderFree_gathering :
    let e := Execution.run 3 (.start .plain gathering)
    let late : World := (e.world.make (.registerHandler "j" newcomer)).1
    let early : World := (e.world.make (.registerTopic "b")).1
    e.world.broker.registry.attachedKeys "a" = ["j", "k"] ∧
      (late.make (.registerTopic "b")).1.broker.registry.attachedKeys "a" = ["k", "j"] ∧
      (late.make (.registerTopic "b")).1.broker.registry.attachedKeys "b" = ["k", "j"] ∧
      early.broker.registry.attachedKeys "b" = ["j", "k"] ∧
      (late.make (.registerTopic "b")).1.broker.registry =
        (early.make (.registerHandler "j" newcomer)).1.broker.registry ∧
      e.world.OrderFree := by
  have c := (Course.start (w := .plain) gathering).run 3
  have free := orderFree World.create_plain c
  exact ⟨by decide +kernel, by decide +kernel, by cbv, by cbv,
    (free.topicAndHandler (.registerTopic "b") (.registerHandler "j" newcomer) rfl rfl).registry.symm,
    free⟩

end Course

end TopicBroker
