import TopicBroker.Proofs.Delivery.Stack

/-!
# The two ways to publish

A publication makes its message from the context, or from options. A publisher who repeats the
transaction and the source of the context as options gets the same message at the same price: the
same ids are drawn in the same order, and the handlers are given the same context. So the two
executions are one and the same from their next step on, and whatever the handlers do is the same as
well, down to the publications that they make in turn.
-/

namespace TopicBroker

namespace World

/-- Draw an id that belongs to no message. -/
def draw (w : World) : String × World :=
  let (id, ids) := w.broker.ids.draw
  (id, { w with broker := { w.broker with ids } })

variable {c : Correlation} {t : String}

/-- A context with a transaction makes the same parcel as the options that repeat it. -/
theorem parcel_plain (ids : IdSource) (carried : c.txId = some t) (topic : String)
    (data : Payload) :
    parcel ids (.plain c topic data) =
      parcel ids (.withOptions c topic data { txId := some t, source := c.source }) := by
  obtain ⟨txId, source, family⟩ := c
  obtain rfl : txId = some t := carried
  rfl

/-- A context without transaction makes the same parcel as one that is given the next id for its
transaction. -/
theorem parcel_plain_of_none (ids : IdSource) (absent : c.txId = none) (topic : String)
    (data : Payload) :
    parcel ids (.plain c topic data) =
      parcel ids.draw.2 (.plain (c.withTxId ids.draw.1) topic data) := by
  obtain ⟨txId, source, family⟩ := c
  obtain rfl : txId = none := absent
  rfl

end World

namespace Execution

/-- An execution whose next step is a publication. -/
def publishing (w : World) (frames : List Frame) (guarded : Bool) (resume : Answer → Program)
    (p : Publication) : Execution :=
  ⟨w, frames, .running (.publish p guarded resume)⟩

/-- Two executions that are one and the same from their next step on. -/
structure Merge (d e : Execution) : Prop where
  /-- After any number of steps the world is the same, with its registry, its counts and the ids
  that were drawn, and so are the deliveries under way and what happens next. -/
  runs : ∀ n, run (n + 1) d = run (n + 1) e
  /-- The later steps are the same, in the same order. -/
  trails : ∀ n, ∃ later, d.trail (n + 1) = d :: later ∧ e.trail (n + 1) = e :: later
  /-- Every publication makes the same calls with the same context and the same message, and ends in
  the same way. -/
  records : ∀ n number, record number (d.trail n) = record number (e.trail n)

variable {w : World} {frames : List Frame} {guarded : Bool} {resume : Answer → Program}
  {p : Publication}

/-- The step in which a publication looks its topic up belongs to no publication yet. -/
theorem shareOf_publishing (n : Nat) :
    (publishing w frames guarded resume p).act.shareOf n = [] := by
  cases found : w.broker.registry.snapshot p.topic with
  | none =>
    rw [act_of_miss (e := publishing w frames guarded resume p) rfl found]
    rfl
  | some attachments =>
    rw [act_of_publish (e := publishing w frames guarded resume p) rfl found]
    rfl

/-- Publications that lead to the same execution in one step merge. -/
theorem merge_of_step_eq {w' : World} {q : Publication}
    (same : (publishing w frames guarded resume p).step =
      (publishing w' frames guarded resume q).step) :
    Merge (publishing w frames guarded resume p) (publishing w' frames guarded resume q) := by
  have trails (n : Nat) : ∃ later,
      (publishing w frames guarded resume p).trail (n + 1) =
        publishing w frames guarded resume p :: later ∧
      (publishing w' frames guarded resume q).trail (n + 1) =
        publishing w' frames guarded resume q :: later := by
    refine ⟨trail n (publishing w frames guarded resume p).step, rfl, ?_⟩
    rw [same]
    rfl
  refine ⟨?_, trails, ?_⟩
  · intro n
    exact congrArg (run n) same
  · intro n number
    cases n with
    | zero => rfl
    | succ n =>
      obtain ⟨later, left, right⟩ := trails n
      rw [left, right, ← List.singleton_append, record_append, record_singleton,
        ← List.singleton_append, record_append, record_singleton, shareOf_publishing,
        shareOf_publishing]

/-- A publication that finds its topic goes on with its parcel and the ids behind it. What else it
was made from is forgotten. -/
theorem step_publishing_congr {ids : IdSource} {q : Publication}
    (registered : w.broker.registry.hasTopic p.topic = true) (topic : p.topic = q.topic)
    (parcel : World.parcel w.broker.ids p = World.parcel ids q) :
    (publishing w frames guarded resume p).step =
      (publishing { w with broker := { w.broker with ids } } frames guarded resume q).step := by
  obtain ⟨attachments, found⟩ := Option.isSome_iff_exists.mp registered
  have found' : w.broker.registry.snapshot p.topic = some attachments := found
  simp only [step, stepPublish, publishing, ← topic, found', World.publish, World.count, parcel]

/-- A publication that does not find its topic is counted and refused. -/
theorem step_publishing_of_absent (absent : w.broker.registry.hasTopic p.topic = false) :
    (publishing w frames guarded resume p).step =
      ⟨w.missed p.topic, frames, .running (resume (.refused (.topicNotFound p.topic)))⟩ := by
  have found : w.broker.registry.snapshot p.topic = none := by
    simpa [Registry.hasTopic, Registry.snapshot, Table.contains] using absent
  simp only [step, stepPublish, publishing, found]

end Execution

open Execution

/-- How the two ways to publish hang together, in a world and on a stack of deliveries under way. -/
structure TwoPaths (w : World) (frames : List Frame) (guarded : Bool) (resume : Answer → Program)
    (c : Correlation) (topic : String) (data : Payload) : Prop where
  /-- If the context carries a transaction, it can be repeated as an option, together with the
  source. -/
  carried : ∀ t, c.txId = some t →
    Merge (publishing w frames guarded resume (.plain c topic data))
      (publishing w frames guarded resume
        (.withOptions c topic data { txId := some t, source := c.source }))
  /-- If the context carries none and the topic is registered, an id can be drawn first and given to
  the context and to the options. -/
  generated : c.txId = none → w.broker.registry.hasTopic topic = true →
    Merge (publishing w frames guarded resume (.plain c topic data))
      (publishing w.draw.2 frames guarded resume
        (.withOptions (c.withTxId w.draw.1) topic data
          { txId := some w.draw.1, source := c.source }))
  /-- If the topic is not registered, it does not matter how the publication is made: it is refused,
  and nothing is drawn. -/
  refused : w.broker.registry.hasTopic topic = false → ∀ p : Publication, p.topic = topic →
    Merge (publishing w frames guarded resume (.plain c topic data))
        (publishing w frames guarded resume p) ∧
      (publishing w frames guarded resume p).step.control =
        .running (resume (.refused (.topicNotFound topic))) ∧
      (publishing w frames guarded resume p).step.world.broker.ids = w.broker.ids

/-- In every world, at the top as well as inside of handlers, the two ways to publish agree. -/
theorem World.twoPaths (w : World) (frames : List Frame) (guarded : Bool)
    (resume : Answer → Program) (c : Correlation) (topic : String) (data : Payload) :
    TwoPaths w frames guarded resume c topic data := by
  have refused (absent : w.broker.registry.hasTopic topic = false) (p : Publication)
      (about : p.topic = topic) : (publishing w frames guarded resume p).step =
        ⟨w.missed topic, frames, .running (resume (.refused (.topicNotFound topic)))⟩ := by
    subst about
    exact step_publishing_of_absent absent
  refine ⟨?_, ?_, ?_⟩
  · intro t carried
    cases registered : w.broker.registry.hasTopic topic with
    | true =>
      have parcel := parcel_plain w.broker.ids carried topic data
      exact merge_of_step_eq (step_publishing_congr registered rfl parcel)
    | false =>
      exact merge_of_step_eq ((refused registered _ rfl).trans (refused registered _ rfl).symm)
  · intro absent registered
    refine merge_of_step_eq (step_publishing_congr registered rfl ?_)
    calc World.parcel w.broker.ids (.plain c topic data)
        = World.parcel w.broker.ids.draw.2 (.plain (c.withTxId w.draw.1) topic data) :=
          parcel_plain_of_none _ absent topic data
      _ = World.parcel w.broker.ids.draw.2 (.withOptions (c.withTxId w.draw.1) topic data
            { txId := some w.draw.1, source := c.source }) := parcel_plain _ rfl topic data
  · intro absent p about
    refine ⟨merge_of_step_eq ((refused absent _ rfl).trans (refused absent p about).symm), ?_, ?_⟩
    · rw [refused absent p about]
    · rw [refused absent p about]
      rfl

end TopicBroker
