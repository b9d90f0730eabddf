import TopicBroker.Proofs.Delivery.Calls
import TopicBroker.Proofs.Registry.Lasting

/-!
# Isolation of deliveries

A publication calls exactly the handlers that were attached to its topic at the moment when it found
the topic. Whatever the handlers do in the meantime, and whatever other publications are under way,
shows only in publications that find their topics later.
-/

namespace TopicBroker

open Execution

/-- What a publication has done so far depends only on the moment `d` at which it found its topic.
-/
structure Lookup.Isolated (l : Lookup) (before : List Execution) (d : Execution)
    (after : List Execution) (e : Execution) : Prop where
  /-- Nothing belongs to the publication before it has found its topic. -/
  unheard : record l.number (before ++ d :: after) = record l.number after
  /-- Since then it has called the attached handlers in their order, each of them once, and gone on
  when a call had returned, up to the last one or to one that panicked. -/
  delivery : l.Delivery d.frames (record l.number after) e.frames
  /-- Every call names its registration, and is given the context and the message of the
  publication. -/
  serves : ∀ i, .call i ∈ record l.number after → i.Serves l
  /-- A call runs the body that was attached. -/
  bodies : ∀ x ∈ after, ∀ i, x.act = .call i →
    x.step.control = .running (i.attachment.handler.body i.call)
  /-- When all calls have returned, the publisher goes on. The deliveries below are as they were. -/
  completes : ∀ x ∈ after, x.act = .complete l.number →
    x.step.frames = d.frames ∧ x.step.control = .running (l.resume .delivered)
  /-- A panic of a call ends at the publisher if it is guarded, and otherwise goes on. The
  deliveries below are as they were. -/
  panics : ∀ x ∈ after, ∀ call message, x.act = .unwind l.number call message →
    x.control = .unwinding message ∧ x.step.frames = d.frames ∧
      x.step.control =
        if l.guarded then .running (l.resume (.panicked message)) else .unwinding message
  /-- The attached handlers stand in the order of their registrations. -/
  ordered : l.attachments.Pairwise Registry.Earlier
  /-- The attached handlers are registered at this moment. -/
  current : ∀ a ∈ l.attachments,
    d.world.broker.registry.handlers.get? a.key = some ⟨a.seq, a.handler⟩
  /-- A handler that was taken out or replaced before is not called. -/
  removed : ∀ earlier x later change key g, before = earlier ++ x :: later →
    x.act.change? = some change → change.TakesOut key →
    x.world.broker.registry.handlers.get? key = some g →
    ∀ i, .call i ∈ record l.number after → i.attachment.seq ≠ g.seq
  /-- A handler that is registered afterwards is not called. -/
  unseen : ∀ x ∈ after, ∀ key handler, x.act = .subscribe key handler →
    ∀ i, .call i ∈ record l.number after →
      i.attachment.seq ≠ (x.world.broker.registry.nextAttachment key handler).seq
  /-- A handler that was registered before and accepted the topic is attached, if nothing has
  touched it since. -/
  seen : ∀ earlier x later key handler, before = earlier ++ x :: later →
    x.act = .subscribe key handler →
    x.world.broker.registry.hasTopic l.publication.topic = true →
    x.world.accepts handler l.publication.topic = true →
    (∀ y ∈ later, ∀ change, y.act.change? = some change →
      ¬ change.Touches key l.publication.topic) →
    x.world.broker.registry.nextAttachment key handler ∈ l.attachments
  /-- So is one that accepted the topic when the topic was registered. -/
  collected : ∀ earlier x later a, before = earlier ++ x :: later →
    x.act.change? = some (.registerTopic l.publication.topic) →
    x.world.broker.registry.hasTopic l.publication.topic = false →
    x.world.broker.registry.handlers.get? a.key = some ⟨a.seq, a.handler⟩ →
    x.world.accepts a.handler l.publication.topic = true →
    (∀ y ∈ later, ∀ change, y.act.change? = some change →
      ¬ change.Touches a.key l.publication.topic) →
    a ∈ l.attachments

namespace Course

variable {w : World} {before after earlier later : List Execution} {x d e : Execution} {l : Lookup}
  {ids : Option IdSource} {strategy : MatchStrategy}

/-- The number of a handler that was taken out stays retired. -/
theorem retired (fresh : Broker.create ids strategy = .ok w)
    (c : Course w (earlier ++ x :: later) d) {change : Change Handler} {key : String}
    {g : Registration Handler} (made : x.act.change? = some change) (out : change.TakesOut key)
    (entry : x.world.broker.registry.handlers.get? key = some g) :
    d.world.broker.registry.Retired g.seq := by
  have coherent := c.at_past.coherent fresh
  refine c.carry_registry (P := fun r => r.Retired g.seq) made ?_ ?_
  · exact coherent.retired x.world.accepts out entry
  · intro y _ change _ retired
    exact retired.apply y.world.accepts change

/-- An attachment that a change has made lasts until it is touched. -/
theorem attached (c : Course w (earlier ++ x :: later) d) {change : Change Handler}
    {topic : String} {a : Attachment Handler} (made : x.act.change? = some change)
    (first : (x.world.broker.registry.apply x.world.accepts change).Attached topic a)
    (untouched : ∀ y ∈ later, ∀ change, y.act.change? = some change →
      ¬ change.Touches a.key topic) : d.world.broker.registry.Attached topic a := by
  refine c.carry_registry (P := fun r => r.Attached topic a) made first ?_
  intro y hy change made' attached
  exact attached.apply y.world.accepts (untouched y hy change made')

/-- A handler that is registered when a publication is under way has a number above those of the
handlers that the publication calls. -/
theorem seq_lt_nextAttachment (fresh : Broker.create ids strategy = .ok w)
    (c : Course w (before ++ d :: after) e) (publishes : d.act = .publish l) {i : Invocation}
    (called : i.attachment ∈ l.attachments) (key : String) (handler : Handler) :
    i.attachment.seq < (e.world.broker.registry.nextAttachment key handler).seq := by
  have coherent := c.at_past.coherent fresh
  have given := coherent.bounded (coherent.current (snapshot_of_publish publishes) _ called)
  exact Nat.lt_succ_of_le (Nat.le_trans given c.lastSeq_le)

/-- Every publication to a registered topic is isolated from everything that happens after it has
found the topic: from what the called handlers do, from other publications, and from later programs.
-/
theorem isolated (fresh : Broker.create ids strategy = .ok w)
    (c : Course w (before ++ d :: after) e) {p : Publication} {guarded : Bool}
    {resume : Answer → Program} {attachments : List (Attachment Handler)}
    (emits : d.control = .running (.publish p guarded resume))
    (registered : d.world.broker.registry.snapshot p.topic = some attachments) :
    Lookup.Isolated ⟨d.world, p, guarded, resume, attachments⟩ before d after e := by
  have publishes := act_of_publish emits registered
  have coherent := c.at_past.coherent fresh
  have delivery := c.delivery publishes
  refine ⟨c.record_since publishes, delivery, fun i => c.serves publishes,
    fun x _ i => control_of_call, ?_, ?_, coherent.increasing registered,
    coherent.current registered, ?_, ?_, ?_, ?_⟩
  · intro x hx act
    obtain ⟨between, rest, -, now⟩ := c.at_later hx
    exact (now.delivery publishes).completes (act ▸ move x)
  · intro x hx call message act
    obtain ⟨between, rest, -, now⟩ := c.at_later hx
    exact (now.delivery publishes).panics (act ▸ move x)
  · intro earlier x later change key g split made out entry i called same
    subst split
    have retired := c.at_past.retired fresh made out entry
    exact coherent.seq_ne_of_retired retired registered _ (delivery.mem_attachments called) same
  · intro x hx key handler subscribes i called
    obtain ⟨between, rest, -, now⟩ := c.at_later hx
    have below := now.seq_lt_nextAttachment fresh publishes
      (delivery.mem_attachments called) key handler
    exact Nat.ne_of_lt below
  · intro earlier x later key handler split subscribes present accepted untouched
    subst split
    have made : x.act.change? = some (.registerHandler key handler) := by
      rw [subscribes]
      rfl
    have attached := c.at_past.attached made
      (Registry.attached_registerHandler key present accepted) untouched
    exact attached.mem registered
  · intro earlier x later a split made absent entry accepted untouched
    subst split
    have attached := c.at_past.attached made
      (Registry.attached_registerTopic absent entry accepted) untouched
    exact attached.mem registered

/-- A handler that takes the other handler of its topic out while both are being called. -/
def jealous : Handler where
  matcher := .exact "a"
  body _ := .perform (.deregisterHandler "j") fun _ => .done

/-- A handler that does nothing. -/
def modest : Handler where
  matcher := .exact "a"
  body _ := .done

/-- The publication to both of them. -/
def rivalry : Publication := .plain (.new 0) "a" default

/-- A program that publishes to both of them, in its fourth step. -/
def rivals : Program :=
  .perform (.registerTopic "a") fun _ => .subscribe "k" jealous.matcher jealous.body <|
    .subscribe "j" modest.matcher modest.body <| .publish rivalry false fun _ => .done

/-- The moment of the publication. -/
def rivalsMeet : Execution := Execution.run 3 (.start .plain rivals)

/-- Both handlers are called, though the first one takes the second one out. -/
theorem isolated_rivals :
    rivalsMeet.world.broker.registry.attachedKeys "a" = ["k", "j"] ∧
      (record 1 (rivalsMeet.step.trail 20)).length = 5 ∧
      (Execution.run 20 rivalsMeet.step).world.broker.registry.attachedKeys "a" = ["k"] ∧
      Lookup.Isolated ⟨rivalsMeet.world, rivalry, false, fun _ => .done,
          (rivalsMeet.world.broker.registry.snapshot "a").getD []⟩
        ((Execution.start .plain rivals).trail 3) rivalsMeet (rivalsMeet.step.trail 20)
        (Execution.run 20 rivalsMeet.step) := by
  have c := ((Course.start (w := .plain) rivals).run 3).step.run 20
  rw [List.append_assoc, List.append_assoc, List.nil_append, List.singleton_append] at c
  have there : (rivalsMeet.world.broker.registry.snapshot "a").isSome = true := by
    decide +kernel
  have registered : rivalsMeet.world.broker.registry.snapshot rivalry.topic =
      some ((rivalsMeet.world.broker.registry.snapshot "a").getD []) := by
    obtain ⟨attachments, found⟩ := Option.isSome_iff_exists.mp there
    rw [found]
    exact found
  exact ⟨by decide +kernel, by decide +kernel, by decide +kernel,
    isolated World.create_plain c rfl registered⟩

end Course

end TopicBroker
