import TopicBroker.Proofs.Delivery.Runs
import TopicBroker.Proofs.Delivery.TwoPaths
import TopicBroker.Proofs.Message.Options

/-!
# Publications with options

The message of a publication with options is made from the options, the topic and the payload, and
from nothing else: what was fixed is in it as it was given, and what was left open is filled in, the
transaction before the id. The context of the publisher has no part in it. It is handed to the
handlers as it is, next to the message.
-/

namespace TopicBroker

open Execution MessageOption

/-- How a message is made from the values that were given to its parts one after the other: the
source of ids is first `ids` and then `ids'`. -/
structure Message.MadeFrom (m : Message) (parts : List MessageOption) (topic : String)
    (data : Payload) (ids ids' : IdSource) : Prop where
  /-- The topic is that of the publication. -/
  topic : m.topic = topic
  /-- So is what the message carries. -/
  data : m.data = data
  /-- A transaction is taken over as it was given last, also if it is the empty text. -/
  txId_given : ∀ value, last? parts .txId = some value → m.txId = value
  /-- If none was given, the next id becomes the transaction. -/
  txId_drawn : last? parts .txId = none → m.txId = ids.ids ids.drawn
  /-- An id is taken over as it was given last, also if it is the empty text. -/
  id_given : ∀ value, last? parts .id = some value → m.id = value
  /-- If none was given, the next id is taken, after the transaction has got its own. -/
  id_drawn : last? parts .id = none →
    m.id = ids.ids (ids.drawn + if last? parts .txId = none then 1 else 0)
  /-- One id is drawn for the transaction and one for the id, each exactly if none was given. -/
  draws : ids' =
    { ids with
      drawn := ids.drawn + (if last? parts .txId = none then 1 else 0) +
        if last? parts .id = none then 1 else 0 }
  /-- The source is the one that was given last. If none was given, the message has none. -/
  source : m.source = last? parts .source
  /-- A time is taken over as it was given last. -/
  occurredAt : ∀ value, last? parts .occurredAt = some value → m.occurredAt = .at value
  /-- The clock gives the time exactly if none was given. -/
  clock : m.occurredAt = .clock ↔ last? parts .occurredAt = none

namespace MessageOptions

/-- Options hold the last value of every part, and nothing where none was given. -/
theorem get_setAll_empty (parts : List MessageOption) (part : MessagePart) :
    (setAll {} parts).get part = last? parts part := by
  have empty : ({} : MessageOptions).get part = none := by cases part <;> rfl
  rw [get_setAll, empty, Option.or_none]

/-- The message is made from the values that the options hold. -/
theorem madeFrom_build (parts : List MessageOption) (topic : String) (data : Payload)
    (ids : IdSource) :
    ((setAll {} parts).build topic data ids).1.MadeFrom parts topic data ids
      ((setAll {} parts).build topic data ids).2 := by
  have txId : (setAll {} parts).txId = last? parts .txId := get_setAll_empty parts .txId
  have id : (setAll {} parts).id = last? parts .id := get_setAll_empty parts .id
  have source : (setAll {} parts).source = last? parts .source := get_setAll_empty parts .source
  have time : (setAll {} parts).occurredAt = last? parts .occurredAt :=
    get_setAll_empty parts .occurredAt
  generalize setAll {} parts = o at *
  refine ⟨rfl, rfl, ?_, ?_, ?_, ?_, ?_, source, ?_, ?_⟩
  · intro value given
    simp [build, txId, given, IdSource.fill]
  · intro none
    simp [build, txId, none, IdSource.fill, IdSource.draw]
  · intro value given
    simp [build, id, given, IdSource.fill]
  · intro none
    cases given : last? parts .txId <;>
      simp [build, id, txId, none, given, IdSource.fill, IdSource.draw]
  · cases given : last? parts .txId <;> cases given' : last? parts .id <;>
      simp [build, id, txId, given, given', IdSource.fill, IdSource.draw]
  · intro value given
    simp [build, time, given]
  · cases given : last? parts .occurredAt <;> simp [build, time, given]

end MessageOptions

/-- How a publication that an execution makes now hands a message and a context to the handlers: the
next step leads to the world `w'`. -/
structure Execution.Hands (d : Execution) (context : Correlation) (m : Message) (w' : World) :
    Prop where
  /-- The next step finds the topic. -/
  world : d.step.world = w'
  /-- It begins a delivery to the handlers that are attached to the topic, which is to be made with
  the context and the message. -/
  begins : ∃ f : Frame, d.step.frames = f :: d.frames ∧ f.publication = d.world.publications + 1 ∧
    f.parcel.context = context ∧ f.parcel.message = m ∧
    d.world.broker.registry.snapshot m.topic = some f.remaining
  /-- Whatever the handlers do, every one that the publication calls is given them, and its body is
  run on this call. -/
  calls : ∀ n i, (run n d).act = .call i → i.publication = d.world.publications + 1 →
    i.call.context = context ∧ i.call.message = m ∧
      (run n d).step.control = .running (i.attachment.handler.body i.call)

/-- What options come to that are built by giving values to parts one after the other. -/
structure Explicit (parts : List MessageOption) : Prop where
  /-- Every part holds the value that was given to it last, and nothing if none was given. -/
  holds : ∀ part, (MessageOptions.setAll {} parts).get part = last? parts part
  /-- Values for different parts can be given in any order. -/
  swaps : ∀ before a b after, parts = before ++ a :: b :: after → a.part ≠ b.part →
    MessageOptions.setAll {} parts = MessageOptions.setAll {} (before ++ b :: a :: after)
  /-- A value is irrelevant if another one is given to the same part later. -/
  overwrites : ∀ before a between b after, parts = before ++ a :: between ++ b :: after →
    a.part = b.part →
    MessageOptions.setAll {} parts = MessageOptions.setAll {} (before ++ between ++ b :: after)
  /-- At any moment of a course at which the options are published on a registered topic, they make
  a message and draw ids in a way that is the same for all contexts, and the handlers are given this
  message and the context. -/
  publishes : ∀ w past x frames guarded resume context topic data,
    Course w past (publishing x frames guarded resume
      (.withOptions context topic data (MessageOptions.setAll {} parts))) →
    x.broker.registry.hasTopic topic = true →
    ∃ m w', m.MadeFrom parts topic data x.broker.ids w'.broker.ids ∧
      ∀ context', (publishing x frames guarded resume
        (.withOptions context' topic data (MessageOptions.setAll {} parts))).Hands context' m w'

/-- What is published with options is determined by the options. -/
theorem MessageOptions.explicit (parts : List MessageOption) : Explicit parts := by
  refine ⟨get_setAll_empty parts, ?_, ?_, ?_⟩
  · rintro before a b after rfl apart
    exact setAll_swap _ apart before after
  · rintro before a between b after rfl same
    exact setAll_overwritten _ same before between after
  · intro w past x frames guarded resume context topic data c registered
    obtain ⟨attachments, found⟩ := Option.isSome_iff_exists.mp registered
    have found' : x.broker.registry.snapshot topic = some attachments := found
    generalize options : setAll {} parts = o at c ⊢
    refine ⟨(o.build topic data x.broker.ids).1,
      (x.publish (.withOptions context topic data o) attachments.length).2, ?_, fun context' => ?_⟩
    · subst options
      exact madeFrom_build parts topic data x.broker.ids
    · have act := act_of_publish
        (e := publishing x frames guarded resume (.withOptions context' topic data o)) rfl found'
      have m := move (publishing x frames guarded resume (.withOptions context' topic data o))
      rw [act] at m
      -- a stack is in order whatever context is published
      have sound : (publishing x frames guarded resume (.withOptions context' topic data o)).Sound :=
        ⟨by cases c.sound.balanced with | running busy => exact .running busy,
          c.sound.numbered, c.sound.calling⟩
      refine ⟨?_, ⟨_, m.frames_publish, rfl, rfl, rfl, found'⟩, ?_⟩
      · simp only [step, publishing, stepPublish, Publication.topic, found']
        rfl
      · intro n i called own
        have served := serves_run sound act called own
        exact ⟨served.context, served.message, control_of_call called⟩

/-- A program that publishes with options. -/
def prefilled (parts : List MessageOption) : Program :=
  .perform (.registerTopic "a") fun _ => .subscribe "h" (.exact "a") (fun _ => .done) <|
    .publish (.withOptions ⟨some "other", some "elsewhere", 0⟩ "a" default
      (MessageOptions.setAll {} parts)) false fun _ => .done

/-- The empty text is an id like any other, so only the transaction is drawn. Transaction and source
of the context are not used. -/
theorem MessageOptions.explicit_prefilled :
    let parts : List MessageOption := [.id "draft", .source "cli", .id ""]
    let d := run 2 (.start .plain (prefilled parts))
    ∃ (m : Message) (w' : World), m.txId = "id-1" ∧ m.id = "" ∧ m.source = some "cli" ∧
      m.occurredAt = .clock ∧ w'.broker.ids.drawn = 1 ∧ ∀ context,
        (publishing d.world d.frames false (fun _ => .done)
          (.withOptions context "a" default (MessageOptions.setAll {} parts))).Hands context m w' := by
  intro parts d
  have c := (Course.start (w := .plain) (prefilled parts)).run 2
  obtain ⟨m, w', made, hands⟩ :=
    (MessageOptions.explicit parts).publishes _ _ d.world d.frames false (fun _ => .done) _ "a"
      default c (by decide +kernel)
  refine ⟨m, w', ?_, ?_, ?_, ?_, ?_, hands⟩
  · exact (made.txId_drawn rfl).trans (by decide +kernel)
  · exact made.id_given "" rfl
  · exact made.source
  · exact made.clock.mpr rfl
  · rw [made.draws]
    decide +kernel

end TopicBroker
