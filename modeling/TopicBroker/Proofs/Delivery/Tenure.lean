import TopicBroker.Proofs.Delivery.Course
import TopicBroker.Proofs.Registry.Decision
import TopicBroker.Proofs.Text.ByteOrder

/-!
# Since when a handler is attached

Matchers may look at switches, and so their answers may change while a broker runs. Every registered
topic and every registered handler stays registered since some step of the past. The later one of
these two steps decides whether the handler is attached to the topic: what the matcher answered then
counts until one of the two is taken out or registered anew. Only the question which topics a handler
accepts is answered by the matcher as it is now.
-/

namespace TopicBroker

open Execution

/-- The step of the past since which a topic is registered: the topic was new then, and nothing has
taken it out. -/
structure TopicSince (past : List Execution) (topic : String) (a : Nat) (x : Execution) : Prop where
  /-- The number of the step, counted from zero. -/
  here : past[a]? = some x
  /-- The step registers the topic. -/
  made : x.act.change? = some (.registerTopic topic)
  /-- The topic was not registered before. -/
  isNew : x.world.broker.registry.hasTopic topic = false
  /-- No later step takes the topic out. -/
  kept : ∀ y ∈ past.drop (a + 1), y.act.change? ≠ some (.deregisterTopic topic)

/-- The step of the past since which a handler is registered under a key: nothing has taken the
handler out or put another one in its place. -/
structure HandlerSince (past : List Execution) (key : String) (handler : Handler) (b : Nat)
    (x : Execution) : Prop where
  /-- The number of the step, counted from zero. -/
  here : past[b]? = some x
  /-- The step registers the handler. -/
  made : x.act.change? = some (.registerHandler key handler)
  /-- No later step takes the handler out. -/
  kept : ∀ y ∈ past.drop (b + 1), ∀ change, y.act.change? = some change → ¬ change.TakesOut key

/-- A list around the member with a given number. -/
theorem eq_take_cons_drop {α : Type} {l : List α} {i : Nat} {x : α} (here : l[i]? = some x) :
    l = l.take i ++ x :: l.drop (i + 1) := by
  obtain ⟨lt, rfl⟩ := List.getElem?_eq_some_iff.mp here
  rw [← List.drop_eq_getElem_cons lt, List.take_append_drop]

variable {past : List Execution} {topic key : String} {handler : Handler} {a b i : Nat}
  {x y z d e : Execution}

/-- A past without its last steps goes on until a moment before them. -/
theorem mem_of_mem_drop_take (mem : z ∈ (past.take b).drop (a + 1)) : z ∈ past.drop (a + 1) := by
  rw [List.drop_take] at mem
  exact List.mem_of_mem_take mem

/-- A topic that is registered since a step was so at every moment in between. -/
theorem TopicSince.take (h : TopicSince past topic a x) (lt : a < b) :
    TopicSince (past.take b) topic a x where
  here := by rw [List.getElem?_take_of_lt lt, h.here]
  made := h.made
  isNew := h.isNew
  kept y hy := h.kept y (mem_of_mem_drop_take hy)

/-- A handler that is registered since a step was so at every moment in between. -/
theorem HandlerSince.take (h : HandlerSince past key handler b x) (lt : b < a) :
    HandlerSince (past.take a) key handler b x where
  here := by rw [List.getElem?_take_of_lt lt, h.here]
  made := h.made
  kept y hy := h.kept y (mem_of_mem_drop_take hy)

/-- What comes after a step when one more step is made. -/
theorem mem_drop_append_singleton (here : past[i]? = some x)
    (mem : y ∈ (past ++ [e]).drop (i + 1)) : y ∈ past.drop (i + 1) ∨ y = e := by
  have lt : i < past.length := (List.getElem?_eq_some_iff.mp here).1
  rw [List.drop_append_of_le_length (Nat.succ_le_of_lt lt), List.mem_append,
    List.mem_singleton] at mem
  exact mem

/-- A step that does not take a topic out leaves it registered since the same step. -/
theorem TopicSince.append (h : TopicSince past topic a x)
    (other : e.act.change? ≠ some (.deregisterTopic topic)) :
    TopicSince (past ++ [e]) topic a x where
  here := by rw [List.getElem?_append_left (List.getElem?_eq_some_iff.mp h.here).1, h.here]
  made := h.made
  isNew := h.isNew
  kept y hy := by
    rcases mem_drop_append_singleton h.here hy with old | rfl
    · exact h.kept y old
    · exact other

/-- A step that does not take a handler out leaves it registered since the same step. -/
theorem HandlerSince.append (h : HandlerSince past key handler b x)
    (other : ∀ change, e.act.change? = some change → ¬ change.TakesOut key) :
    HandlerSince (past ++ [e]) key handler b x where
  here := by rw [List.getElem?_append_left (List.getElem?_eq_some_iff.mp h.here).1, h.here]
  made := h.made
  kept y hy := by
    rcases mem_drop_append_singleton h.here hy with old | rfl
    · exact h.kept y old
    · exact other

namespace Course

variable {w : World} {ids : Option IdSource} {strategy : MatchStrategy}

/-- A course around a step of the past. -/
theorem split (c : Course w past e) (here : past[i]? = some x) :
    Course w (past.take i ++ x :: past.drop (i + 1)) e := by
  rwa [← eq_take_cons_drop here]

/-- The course up to a step of the past. -/
theorem at_index (c : Course w past e) (here : past[i]? = some x) : Course w (past.take i) x :=
  (c.split here).at_past

/-- A topic that is registered since a step is registered. -/
theorem hasTopic_since (c : Course w past e) (t : TopicSince past topic a x) :
    e.world.broker.registry.hasTopic topic = true := by
  refine (c.split t.here).carry_registry (P := fun r => r.hasTopic topic = true) t.made ?_ ?_
  · exact Registry.hasTopic_apply.mpr (.inr rfl)
  · intro y hy change made present
    refine Registry.hasTopic_apply.mpr (.inl ⟨present, fun same => ?_⟩)
    exact t.kept y hy (same ▸ made)

/-- A handler that is registered since a step has the number that it was given then. -/
theorem entry_since (c : Course w past e) (h : HandlerSince past key handler b x) :
    e.world.broker.registry.handlers.get? key =
      some ⟨x.world.broker.registry.lastSeq + 1, handler⟩ := by
  refine (c.split h.here).carry_registry (P := fun r => r.handlers.get? key =
    some ⟨x.world.broker.registry.lastSeq + 1, handler⟩) h.made ?_ ?_
  · exact Registry.get?_handlers_apply.mpr (.inr ⟨rfl, rfl⟩)
  · intro y hy change made entry
    exact Registry.get?_handlers_apply.mpr (.inl ⟨entry, h.kept y hy change made⟩)

/-- A registered topic is registered since a step of the past. -/
theorem exists_topicSince (fresh : Broker.create ids strategy = .ok w) (c : Course w past e)
    (present : e.world.broker.registry.hasTopic topic = true) :
    ∃ a x, TopicSince past topic a x := by
  induction c with
  | start program =>
    obtain ⟨source, -, rfl⟩ := Broker.eq_world_of_create fresh
    exact absurd present Bool.false_ne_true
  | @step past e c ih =>
    rw [(move e).registry] at present
    cases made : e.act.change? with
    | none =>
      rw [made] at present
      obtain ⟨a, x, since⟩ := ih present
      exact ⟨a, x, since.append (by simp [made])⟩
    | some change =>
      rw [made] at present
      by_cases known : e.world.broker.registry.hasTopic topic = true
      · obtain ⟨a, x, since⟩ := ih known
        refine ⟨a, x, since.append fun out => ?_⟩
        rw [made, Option.some.injEq] at out
        rcases Registry.hasTopic_apply.mp present with ⟨-, other⟩ | rfl
        · exact other out
        · cases out
      · rcases Registry.hasTopic_apply.mp present with ⟨old, -⟩ | rfl
        · exact absurd old known
        · exact ⟨past.length, e, by simp, made, by simpa using known, by simp⟩
  | next c ended history program ih => exact ih present

/-- A registered handler is registered since a step of the past. -/
theorem exists_handlerSince (fresh : Broker.create ids strategy = .ok w) (c : Course w past e)
    {g : Registration Handler}
    (entry : e.world.broker.registry.handlers.get? key = some g) :
    ∃ b x, HandlerSince past key g.handler b x := by
  induction c with
  | start program =>
    obtain ⟨source, -, rfl⟩ := Broker.eq_world_of_create fresh
    cases entry
  | @step past e c ih =>
    rw [(move e).registry] at entry
    cases made : e.act.change? with
    | none =>
      rw [made] at entry
      obtain ⟨b, x, since⟩ := ih entry
      exact ⟨b, x, since.append (by simp [made])⟩
    | some change =>
      rw [made] at entry
      rcases Registry.get?_handlers_apply.mp entry with ⟨old, stays⟩ | ⟨rfl, -⟩
      · obtain ⟨b, x, since⟩ := ih old
        refine ⟨b, x, since.append fun change' made' => ?_⟩
        rw [made, Option.some.injEq] at made'
        exact made' ▸ stays
      · exact ⟨past.length, e, by simp, made, by simp⟩
  | next c ended history program ih => exact ih entry

/-- What a change has decided about a key and a topic lasts until the two are touched. -/
theorem decision_lasts {before after : List Execution} {change : Change Handler} {decision : Prop}
    (c : Course w (before ++ d :: after) e) (made : d.act.change? = some change)
    (present : (d.world.broker.registry.apply d.world.accepts change).hasTopic topic = true)
    (first : key ∈ (d.world.broker.registry.apply d.world.accepts change).attachedKeys topic ↔
      decision)
    (topicKept : ∀ y ∈ after, y.act.change? ≠ some (.deregisterTopic topic))
    (handlerKept : ∀ y ∈ after, ∀ change, y.act.change? = some change → ¬ change.TakesOut key) :
    key ∈ e.world.broker.registry.attachedKeys topic ↔ decision := by
  have both : e.world.broker.registry.hasTopic topic = true ∧
      (key ∈ e.world.broker.registry.attachedKeys topic ↔ decision) := by
    refine c.carry_registry
      (P := fun r => r.hasTopic topic = true ∧ (key ∈ r.attachedKeys topic ↔ decision)) made
      ⟨present, first⟩ ?_
    intro y hy change made ⟨present, decided⟩
    have stays : change ≠ .deregisterTopic topic := fun out => topicKept y hy (out ▸ made)
    have untouched : ¬ change.Touches key topic := by
      rintro (out | out)
      · exact handlerKept y hy change made out
      · exact stays out
    exact ⟨Registry.hasTopic_apply.mpr (.inl ⟨present, stays⟩),
      (Registry.mem_attachedKeys_apply present untouched).trans decided⟩
  exact both.2

/-- A handler is attached to a topic exactly if it accepted the topic when the later one of the two
was registered. -/
theorem mem_attachedKeys_iff (fresh : Broker.create ids strategy = .ok w) (c : Course w past e)
    (t : TopicSince past topic a x) (h : HandlerSince past key handler b y)
    (decides : past[max a b]? = some z) :
    key ∈ e.world.broker.registry.attachedKeys topic ↔ z.world.accepts handler topic = true := by
  rcases Nat.lt_trichotomy a b with lt | same | lt
  · -- the handler came later and was put into the lists of the topics that it accepted
    rw [Nat.max_eq_right (Nat.le_of_lt lt), h.here, Option.some.injEq] at decides
    subst decides
    have there := c.at_index h.here
    have present := there.hasTopic_since (t.take lt)
    refine (c.split h.here).decision_lasts h.made ?_ ?_ ?_ h.kept
    · exact Registry.hasTopic_apply.mpr (.inl ⟨present, by simp⟩)
    · exact (there.coherent fresh).mem_attachedKeys_registerHandler present
    · intro z hz
      refine t.kept z (List.mem_of_mem_drop (i := b - a) ?_)
      rwa [List.drop_drop, show a + 1 + (b - a) = b + 1 by omega]
  · subst same
    have one : x = y := Option.some.inj (t.here.symm.trans h.here)
    have both := t.made
    rw [one, h.made] at both
    cases both
  · -- the topic came later and collected the handlers that accepted it
    rw [Nat.max_eq_left (Nat.le_of_lt lt), t.here, Option.some.injEq] at decides
    subst decides
    have entry := (c.at_index t.here).entry_since (h.take lt)
    refine (c.split t.here).decision_lasts t.made ?_ ?_ t.kept ?_
    · exact Registry.hasTopic_apply.mpr (.inr rfl)
    · exact Registry.mem_attachedKeys_registerTopic t.isNew entry
    · intro z hz
      refine h.kept z (List.mem_of_mem_drop (i := a - b) ?_)
      rwa [List.drop_drop, show b + 1 + (a - b) = a + 1 by omega]

/-- A handler that was registered earlier than another one has a lower number. -/
theorem lt_of_seq_lt (c : Course w past e) {key' : String} {handler' : Handler}
    (h : HandlerSince past key handler a x) (h' : HandlerSince past key' handler' b y)
    (ordered : x.world.broker.registry.lastSeq < y.world.broker.registry.lastSeq) : a < b := by
  by_contra notBefore
  rcases Nat.eq_or_lt_of_le (Nat.le_of_not_lt notBefore) with same | lt
  · subst same
    have one : x = y := Option.some.inj (h.here.symm.trans h'.here)
    exact Nat.lt_irrefl _ (one ▸ ordered)
  · have there := c.at_index h.here
    have below := (there.split (h'.take lt).here).lastSeq_le
    omega

end Course

/-- Whether the handlers of two keys that are registered now were registered in this order. -/
def RegisteredBefore (past : List Execution) (key key' : String) : Prop :=
  ∀ handler handler' b b' x x', HandlerSince past key handler b x →
    HandlerSince past key' handler' b' x' → b < b'

/-- What is attached was decided when topics and handlers were registered, and what a handler accepts
is asked when the question is put. -/
structure DecidedAtRegistration (past : List Execution) (e : Execution) : Prop where
  /-- A registered topic is registered since a step of the past. -/
  topics : ∀ topic, e.world.broker.registry.hasTopic topic = true ↔
    ∃ a x, TopicSince past topic a x
  /-- A registered handler is registered since a step of the past. -/
  handlers : ∀ key, e.world.broker.registry.hasHandler key = true ↔
    ∃ handler b x, HandlerSince past key handler b x
  /-- The keys attached to a topic stand in the order of their registrations. A key is attached
  exactly if its matcher accepted the topic at the later one of the two registrations. -/
  attached : ∀ topic, ∃ keys, (e.world.perform (.attachedKeys topic)).2 = .names keys ∧
    keys.Pairwise (RegisteredBefore past) ∧
    ∀ key handler a b x y z, TopicSince past topic a x → HandlerSince past key handler b y →
      past[max a b]? = some z → (key ∈ keys ↔ z.world.accepts handler topic = true)
  /-- Nothing but taking out or registering anew decides again: neither a switch that is set nor a
  topic that is registered twice. -/
  steady : ∀ key topic, e.world.broker.registry.hasTopic topic = true →
    (∀ change, e.act.change? = some change → ¬ change.Touches key topic) →
    (key ∈ e.step.world.broker.registry.attachedKeys topic ↔
      key ∈ e.world.broker.registry.attachedKeys topic)
  /-- The topics of a handler are the registered ones that it accepts now, in the order of their
  bytes. -/
  subscriptions : ∀ key, ∃ names, (e.world.perform (.subscriptionsOf key)).2 = .names names ∧
    Text.Ascending names ∧ ∀ topic, topic ∈ names ↔
      e.world.broker.registry.hasTopic topic = true ∧
        ∃ handler b x, HandlerSince past key handler b x ∧ e.world.accepts handler topic = true

namespace Course

variable {w : World} {ids : Option IdSource} {strategy : MatchStrategy}

/-- The keys attached to a topic stand in the order of their registrations. -/
theorem pairwise_attachedKeys (fresh : Broker.create ids strategy = .ok w) (c : Course w past e) :
    (e.world.broker.registry.attachedKeys topic).Pairwise (RegisteredBefore past) := by
  have coherent := c.coherent fresh
  unfold Registry.attachedKeys
  cases found : e.world.broker.registry.snapshot topic with
  | none => exact .nil
  | some list =>
    rw [Option.getD_some, List.pairwise_map]
    refine (coherent.increasing found).imp_of_mem ?_
    intro g g' hg hg' earlier handler handler' b b' x x' h h'
    have entry := coherent.current found g hg
    have entry' := coherent.current found g' hg'
    rw [c.entry_since h, Option.some.injEq, Registration.mk.injEq] at entry
    rw [c.entry_since h', Option.some.injEq, Registration.mk.injEq] at entry'
    refine c.lt_of_seq_lt h h' ?_
    have numbers : g.seq < g'.seq := earlier
    omega

/-- The topics of a handler are the registered ones that it accepts now. -/
theorem mem_subscriptionsOf (fresh : Broker.create ids strategy = .ok w) (c : Course w past e) :
    topic ∈ e.world.broker.registry.subscriptionsOf e.world.accepts key ↔
      e.world.broker.registry.hasTopic topic = true ∧
        ∃ handler b x, HandlerSince past key handler b x ∧ e.world.accepts handler topic = true := by
  unfold Registry.subscriptionsOf
  cases entry : e.world.broker.registry.handlers.get? key with
  | none =>
    simp only [List.not_mem_nil, false_iff, not_and]
    rintro - ⟨handler, b, x, since, -⟩
    rw [c.entry_since since] at entry
    cases entry
  | some g =>
    have listed : topic ∈ e.world.broker.registry.listTopics ↔
        e.world.broker.registry.hasTopic topic = true := Table.mem_names
    rw [List.mem_filter, listed]
    refine and_congr_right fun _ => ⟨fun accepted => ?_, ?_⟩
    · obtain ⟨b, x, since⟩ := c.exists_handlerSince fresh entry
      exact ⟨g.handler, b, x, since, accepted⟩
    · rintro ⟨handler, b, x, since, accepted⟩
      rw [c.entry_since since, Option.some.injEq] at entry
      rwa [← entry]

/-- At every moment of a course of a new broker, whatever the matchers answer and however often they
change their minds, what is attached was decided by the later registration of the two. -/
theorem decidedAtRegistration (fresh : Broker.create ids strategy = .ok w) (c : Course w past e) :
    DecidedAtRegistration past e := by
  refine ⟨?_, ?_, ?_, ?_, ?_⟩
  · intro topic
    exact ⟨c.exists_topicSince fresh, fun ⟨a, x, since⟩ => c.hasTopic_since since⟩
  · intro key
    rw [Registry.hasHandler_eq_isSome, Option.isSome_iff_exists]
    constructor
    · rintro ⟨g, entry⟩
      exact ⟨g.handler, c.exists_handlerSince fresh entry⟩
    · rintro ⟨handler, b, x, since⟩
      exact ⟨_, c.entry_since since⟩
  · intro topic
    refine ⟨_, rfl, c.pairwise_attachedKeys fresh, ?_⟩
    intro key handler a b x y z t h decides
    exact c.mem_attachedKeys_iff fresh t h decides
  · intro key topic present untouched
    rw [(move e).registry]
    cases made : e.act.change? with
    | none => rfl
    | some change => exact Registry.mem_attachedKeys_apply present (untouched change made)
  · intro key
    refine ⟨_, rfl, Text.ascending_of_pairwise_lt ?_, fun topic => c.mem_subscriptionsOf fresh⟩
    unfold Registry.subscriptionsOf
    split
    · exact .nil
    · exact (Table.names_sorted _).filter _

/-- A program with two handlers that accept everything while a switch is on. The first one does when
both are registered, the second one does in the end. -/
def shifts : Program :=
  .perform (.registerTopic "a") fun _ => .perform (.setFlag "early" true) fun _ =>
    .subscribe "j" (.whileOn "early") (fun _ => .done) <|
    .subscribe "k" (.whileOn "late") (fun _ => .done) <|
    .perform (.setFlag "early" false) fun _ => .perform (.setFlag "late" true) fun _ =>
      .perform (.registerTopic "a") fun _ => .perform (.registerTopic "b") fun _ => .done

/-- In the end only `k` accepts the topics. But the one that was there before the handlers has kept
`j`, though it was registered again. -/
theorem decidedAtRegistration_shifts :
    let e := Execution.run 9 (.start .plain shifts)
    e.world.broker.registry.subscriptionsOf e.world.accepts "j" = [] ∧
      e.world.broker.registry.subscriptionsOf e.world.accepts "k" = ["a", "b"] ∧
      e.world.broker.registry.attachedKeys "a" = ["j"] ∧
      e.world.broker.registry.attachedKeys "b" = ["k"] ∧
      DecidedAtRegistration ((Execution.start .plain shifts).trail 9) e := by
  have c := (Course.start (w := .plain) shifts).run 9
  rw [List.nil_append] at c
  exact ⟨by decide +kernel, by decide +kernel, by decide +kernel, by decide +kernel,
    decidedAtRegistration World.create_plain c⟩

end Course

end TopicBroker
