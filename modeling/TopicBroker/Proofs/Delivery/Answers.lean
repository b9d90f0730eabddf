import TopicBroker.Proofs.Delivery.Course
import TopicBroker.Proofs.Registry.Roster
import TopicBroker.Proofs.Text.ByteOrder

/-!
# What a broker answers about topics and handlers

Where every matcher stands for a fixed predicate, all answers about topics and handlers can be read
off the changes that were made so far, no matter where in nested deliveries they were made and which
publications, calls and panics lie between them.
-/

namespace TopicBroker

namespace Matcher

/-- Whether a matcher stands for a predicate on names. A pattern that could not be read stands for
the one that is never true. -/
def Means (m : Matcher) (p : String → Bool) : Prop :=
  (m.isValid? = some false → p = fun _ => false) ∧
    (m.isValid? ≠ some false → ∀ flags, m.accepts flags = p)

/-- A matcher accepts what its predicate says, however the switches stand. -/
theorem Means.accepts_eq {m : Matcher} {p : String → Bool} (h : m.Means p) (flags : Flags) :
    m.accepts flags = p := by
  by_cases invalid : m.isValid? = some false
  · rw [h.1 invalid]
    ext name
    rw [accepts_of_invalid invalid]
  · exact h.2 invalid flags

/-- A matcher that does not look at the switches stands for what it accepts. -/
theorem means_accepts {m : Matcher} (blind : ∀ flags flags', m.accepts flags = m.accepts flags')
    (flags : Flags) : m.Means (m.accepts flags) := by
  refine ⟨fun invalid => ?_, fun _ flags' => blind flags' flags⟩
  ext name
  rw [accepts_of_invalid invalid]

/-- Every pattern stands for a predicate, whatever the strategy. -/
theorem means_compile (strategy : MatchStrategy) (pattern : String) (flags : Flags) :
    (compile strategy pattern).Means ((compile strategy pattern).accepts flags) := by
  refine means_accepts (fun flags flags' => ?_) flags
  cases strategy <;> rfl

end Matcher

/-- What a broker answers is what a roster says. The lists of names increase by bytes. -/
structure World.AnswersAs (w : World) (m : Roster) : Prop where
  /-- The keys attached to a topic, in the order of delivery. -/
  attachedKeys : ∀ topic, (w.perform (.attachedKeys topic)).2 = .names (m.attachedKeys topic)
  /-- The topics. -/
  listTopics : ∃ names, (w.perform .listTopics).2 = .names names ∧ Text.Ascending names ∧
    ∀ topic, topic ∈ names ↔ topic ∈ m.topics
  /-- The keys of the handlers. -/
  listHandlerKeys : ∃ names, (w.perform .listHandlerKeys).2 = .names names ∧
    Text.Ascending names ∧ ∀ key, key ∈ names ↔ m.HasKey key
  /-- The topics of a handler. -/
  subscriptionsOf : ∀ key, ∃ names, (w.perform (.subscriptionsOf key)).2 = .names names ∧
    Text.Ascending names ∧ ∀ topic, topic ∈ names ↔ m.Subscribes key topic
  /-- Whether a topic is registered. -/
  hasTopic : ∀ topic, (w.perform (.hasTopic topic)).2 = .truth (decide (topic ∈ m.topics))
  /-- Whether a handler is registered. -/
  hasHandler : ∀ key, (w.perform (.hasHandler key)).2 = .truth (decide (m.HasKey key))
  /-- The number of topics. -/
  topicCount : (w.perform .topicCount).2 = .count m.topics.card
  /-- The number of handlers. -/
  handlerCount : (w.perform .handlerCount).2 = .count m.handlers.length
  /-- Registering a topic answers whether it is new. -/
  registerTopic : ∀ topic,
    (w.perform (.registerTopic topic)).2 = .truth (decide (topic ∉ m.topics))
  /-- Taking a topic out answers whether it was registered. -/
  deregisterTopic : ∀ topic,
    (w.perform (.deregisterTopic topic)).2 = .truth (decide (topic ∈ m.topics))
  /-- Taking a handler out answers whether it was registered. -/
  deregisterHandler : ∀ key,
    (w.perform (.deregisterHandler key)).2 = .truth (decide (m.HasKey key))

/-- A broker answers as a roster that its registry tells the same as. -/
theorem World.answersAs_of_represents {w : World} {m : Roster} {meaning : Handler → String → Bool}
    {known : Handler → Prop} (h : w.broker.registry.Represents meaning known m)
    (agree : ∀ handler, known handler → w.accepts handler = meaning handler) :
    w.AnswersAs m := by
  have hasTopic (topic : String) :
      w.broker.registry.hasTopic topic = decide (topic ∈ m.topics) := by
    rw [Bool.eq_iff_iff, decide_eq_true_iff, h.topics]
  have hasHandler (key : String) : w.broker.registry.hasHandler key = decide (m.HasKey key) := by
    rw [Bool.eq_iff_iff, decide_eq_true_iff, h.hasHandler_iff]
  have sorted : w.broker.registry.listTopics.Pairwise (· < ·) := Table.names_sorted _
  refine ⟨?_, ?_, ?_, ?_, ?_, ?_, ?_, ?_, ?_, ?_, ?_⟩
  · intro topic
    exact congrArg Answer.names (h.attachedKeys_eq topic)
  · exact ⟨_, rfl, Text.ascending_of_pairwise_lt sorted, h.mem_listTopics⟩
  · exact ⟨_, rfl, Text.ascending_of_pairwise_lt (Table.names_sorted _), h.mem_listHandlerKeys⟩
  · intro key
    refine ⟨_, rfl, Text.ascending_of_pairwise_lt ?_, h.mem_subscriptionsOf agree key⟩
    unfold Registry.subscriptionsOf
    split
    · exact .nil
    · exact sorted.filter _
  · intro topic
    exact congrArg Answer.truth (hasTopic topic)
  · intro key
    exact congrArg Answer.truth (hasHandler key)
  · exact congrArg Answer.count h.topicCount_eq
  · exact congrArg Answer.count h.handlerCount_eq
  · intro topic
    have answer := w.snd_registerTopic topic
    rw [hasTopic, ← decide_not] at answer
    exact congrArg Answer.truth answer
  · intro topic
    exact congrArg Answer.truth ((w.snd_deregisterTopic topic).trans (hasTopic topic))
  · intro key
    exact congrArg Answer.truth ((w.snd_deregisterHandler key).trans (hasHandler key))

namespace Course

variable {w : World} {past : List Execution} {e : Execution}
  {ids : Option IdSource} {strategy : MatchStrategy}

/-- At every moment of a course the registry tells the same as the roster of the changes that were
made, if the handlers that were registered stand for fixed predicates. -/
theorem represents (fresh : Broker.create ids strategy = .ok w) (c : Course w past e)
    {meaning : Handler → String → Bool} {known : Handler → Prop}
    (agree : ∀ handler, known handler → handler.matcher.Means (meaning handler))
    (isKnown : ∀ key handler, .registerHandler key handler ∈ changes past → known handler) :
    e.world.broker.registry.Represents meaning known (Roster.replay meaning (changes past)) := by
  rw [c.registry_eq_replay fresh]
  refine Registry.represents_replay _ ?_ ?_
  · intro m hm handler isKnown'
    obtain ⟨x, -, made⟩ := List.mem_filterMap.mp hm
    obtain ⟨change, -, rfl⟩ := Option.map_eq_some_iff.mp made
    exact (agree handler isKnown').accepts_eq x.world.flag
  · intro m hm key handler registered
    exact isKnown key handler (registered ▸ List.mem_map_of_mem hm)

/-- At every moment of a course of a new broker, inside deliveries as well as outside, all answers
about topics and handlers are those of the roster of the changes that were made so far, if every
handler that was registered has a matcher that stands for a fixed predicate. -/
theorem answersAs_roster (fresh : Broker.create ids strategy = .ok w) (c : Course w past e)
    (meaning : Handler → String → Bool)
    (fixed : ∀ key handler, .registerHandler key handler ∈ changes past →
      handler.matcher.Means (meaning handler)) :
    e.world.AnswersAs (Roster.replay meaning (changes past)) := by
  have told : e.world.broker.registry.Represents meaning
      (fun handler => handler.matcher.Means (meaning handler))
      (Roster.replay meaning (changes past)) := c.represents fresh (fun _ known => known) fixed
  exact World.answersAs_of_represents told fun handler known => known.accepts_eq e.world.flag

/-- A handler that registers another topic when it is called, and then panics. -/
def unruly : Handler where
  matcher := .exact "a"
  body _ := .perform (.registerTopic "b") fun _ => .panic "out"

/-- A program that calls the handler and then takes the topic out. -/
def upset : Program :=
  .subscribe "k" unruly.matcher unruly.body <| .perform (.registerTopic "a") fun _ =>
    .publish (.plain (.new 0) "a" default) true fun _ => .perform (.deregisterTopic "a") fun _ =>
      .done

/-- All handlers of the program stand for names. -/
theorem changes_upset : ((changes ((Execution.start .plain upset).trail 20)).all fun change =>
    match change with
    | .registerHandler _ ⟨.exact _, _⟩ => true
    | .registerHandler _ _ => false
    | _ => true) = true := by
  decide +kernel

/-- The broker answers as the roster after the changes of the program, the one of the handler among
them. -/
theorem answersAs_roster_upset :
    (Execution.run 20 (.start .plain upset)).world.broker.registry.listTopics = ["b"] ∧
      (Execution.run 20 (.start .plain upset)).world.AnswersAs
        (Roster.replay (fun handler => handler.matcher.accepts fun _ => false)
          (changes ((Execution.start .plain upset).trail 20))) := by
  refine ⟨by decide +kernel, ?_⟩
  refine answersAs_roster World.create_plain ((Course.start upset).run 20) _ ?_
  intro key handler registered
  rw [List.nil_append] at registered
  have named := List.all_eq_true.mp changes_upset _ registered
  obtain ⟨matcher, body⟩ := handler
  cases matcher with
  | exact name => exact Matcher.means_accepts (fun _ _ => rfl) _
  | _ => cases named

end Course

end TopicBroker
