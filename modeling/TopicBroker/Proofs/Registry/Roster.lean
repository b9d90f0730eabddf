import Mathlib.Data.Finset.Card
import TopicBroker.Proofs.Registry.Order

/-!
# Rosters

A roster is what a caller who only counts operations knows of a registry: the set of the topics, and
the keys of the handlers with their matchers in the order of their last registration. Nothing is
cached in it; what is attached to a topic is read off the handlers. Where matchers never change
their answer, a registry and the roster of its changes tell the same at every moment.
-/

namespace TopicBroker

variable {H : Type}

/-- The topics, and the handlers in the order of their last registration. -/
structure Roster where
  /-- The registered topics. -/
  topics : Finset String
  /-- The keys of the handlers, each with the topics it matches. -/
  handlers : List (String × (String → Bool))

namespace Roster

/-- The roster without topics and handlers. -/
def empty : Roster := ⟨∅, []⟩

/-- The handlers without the one of a key. -/
def handlersWithout (m : Roster) (key : String) : List (String × (String → Bool)) :=
  m.handlers.filter fun h => h.1 != key

/-- The roster after a change. -/
def apply (matcher : H → String → Bool) (m : Roster) : Change H → Roster
  | .registerTopic name => { m with topics := insert name m.topics }
  | .deregisterTopic name => { m with topics := m.topics.erase name }
  | .registerHandler key handler =>
    { m with handlers := m.handlersWithout key ++ [(key, matcher handler)] }
  | .deregisterHandler key => { m with handlers := m.handlersWithout key }

/-- The roster after several changes. -/
def replay (matcher : H → String → Bool) (changes : List (Change H)) : Roster :=
  changes.foldl (apply matcher) empty

@[simp] theorem replay_append_singleton (matcher : H → String → Bool) (changes : List (Change H))
    (c : Change H) :
    replay matcher (changes ++ [c]) = (replay matcher changes).apply matcher c := by
  simp [replay]

/-- The keys of the handlers that match a registered topic, in their order. -/
def attachedKeys (m : Roster) (topic : String) : List String :=
  if topic ∈ m.topics then (m.handlers.filter fun h => h.2 topic).map (·.1) else []

/-- Whether a key is listed. -/
def HasKey (m : Roster) (key : String) : Prop := key ∈ m.handlers.map (·.1)

instance (m : Roster) (key : String) : Decidable (m.HasKey key) :=
  inferInstanceAs (Decidable (key ∈ m.handlers.map (·.1)))

/-- Whether a key is listed with a matcher that matches a registered topic. -/
def Subscribes (m : Roster) (key topic : String) : Prop :=
  topic ∈ m.topics ∧ ∃ h ∈ m.handlers, h.1 = key ∧ h.2 topic = true

end Roster

namespace Registry

/-- A registry tells the same as a roster. The handlers that may be registered are those of which
`matcher` knows the answers. -/
structure Represents (matcher : H → String → Bool) (known : H → Prop) (r : Registry H)
    (m : Roster) : Prop where
  /-- The registry is coherent. -/
  coherent : r.Coherent
  /-- The answers of all registered handlers are known. -/
  known : ∀ a ∈ r.registered, known a.handler
  /-- The topics are the same. -/
  topics : ∀ topic, topic ∈ m.topics ↔ r.hasTopic topic = true
  /-- The handlers are the same, in the same order. -/
  handlers : m.handlers = r.registered.map fun a => (a.key, matcher a.handler)
  /-- Attached to a topic is what matches it. -/
  attached : ∀ {topic list}, r.snapshot topic = some list →
    list = r.registered.filter fun a => matcher a.handler topic

/-- The empty registry tells the same as the empty roster. -/
theorem represents_empty (matcher : H → String → Bool) (known : H → Prop) :
    (empty : Registry H).Represents matcher known .empty where
  coherent := coherent_empty
  known a ha := by simp at ha
  topics topic := by simp [Roster.empty, hasTopic_eq_isSome]
  handlers := by simp [Roster.empty]
  attached found := by simp at found

namespace Represents

variable {matcher : H → String → Bool} {known : H → Prop} {r : Registry H} {m : Roster}

/-- A handler that accepts what its matcher matches finds the same topics either way. -/
theorem matching_eq_filter (h : r.Represents matcher known m) {accepts : H → String → Bool}
    (agree : ∀ handler, known handler → accepts handler = matcher handler) (topic : String) :
    r.matching accepts topic = r.registered.filter fun a => matcher a.handler topic := by
  rw [h.coherent.matching_eq_filter]
  refine List.filter_congr fun a ha => ?_
  rw [agree a.handler (h.known a ha)]

/-- Registering a topic. -/
theorem registerTopic (h : r.Represents matcher known m) {accepts : H → String → Bool}
    (agree : ∀ handler, known handler → accepts handler = matcher handler) (name : String) :
    (r.registerTopic accepts name).1.Represents matcher known
      (m.apply matcher (.registerTopic name)) := by
  have same : (r.registerTopic accepts name).1.registered = r.registered :=
    registered_congr (handlers_registerTopic accepts r name)
  refine ⟨h.coherent.registerTopic accepts name, ?_, ?_, ?_, ?_⟩
  · intro a ha
    exact h.known a (same ▸ ha)
  · intro topic
    rw [Roster.apply, Finset.mem_insert, h.topics, hasTopic_eq_isSome, hasTopic_eq_isSome,
      snapshot_registerTopic]
    by_cases eq : topic = name <;> simp [eq]
  · rw [same]
    exact h.handlers
  · intro topic list found
    rw [same]
    rw [snapshot_registerTopic] at found
    split at found
    · next eq =>
      subst eq
      cases old : r.snapshot topic with
      | none =>
        rw [old, Option.getD_none, Option.some.injEq] at found
        rw [← found]
        exact h.matching_eq_filter agree topic
      | some list' =>
        rw [old, Option.getD_some, Option.some.injEq] at found
        rw [← found]
        exact h.attached old
    · exact h.attached found

/-- Taking a topic out. -/
theorem deregisterTopic (h : r.Represents matcher known m) (name : String) :
    (r.deregisterTopic name).1.Represents matcher known
      (m.apply matcher (.deregisterTopic name : Change H)) := by
  have same : (r.deregisterTopic name).1.registered = r.registered :=
    registered_congr (handlers_deregisterTopic r name)
  refine ⟨h.coherent.deregisterTopic name, ?_, ?_, ?_, ?_⟩
  · intro a ha
    exact h.known a (same ▸ ha)
  · intro topic
    rw [Roster.apply, Finset.mem_erase, h.topics, hasTopic_eq_isSome, hasTopic_eq_isSome,
      snapshot_deregisterTopic]
    by_cases eq : topic = name <;> simp [eq]
  · rw [same]
    exact h.handlers
  · intro topic list found
    rw [same]
    rw [snapshot_deregisterTopic] at found
    split at found
    · simp at found
    · exact h.attached found

/-- The handlers of a roster without a key are those of the registry without it. -/
theorem handlersWithout_eq (h : r.Represents matcher known m) (key : String) :
    m.handlersWithout key =
      (r.registered.filter fun a => a.key != key).map fun a => (a.key, matcher a.handler) := by
  rw [Roster.handlersWithout, h.handlers, List.filter_map]
  rfl

/-- Taking a handler out. -/
theorem deregisterHandler (h : r.Represents matcher known m) (key : String) :
    (r.deregisterHandler key).1.Represents matcher known
      (m.apply matcher (.deregisterHandler key : Change H)) := by
  have order := h.coherent.registered_deregisterHandler key
  refine ⟨h.coherent.deregisterHandler key, ?_, ?_, ?_, ?_⟩
  · intro a ha
    rw [order] at ha
    exact h.known a (List.mem_of_mem_filter ha)
  · intro topic
    rw [Roster.apply, h.topics, hasTopic_eq_isSome, hasTopic_eq_isSome,
      h.coherent.snapshot_deregisterHandler, Option.isSome_map]
  · rw [order]
    exact h.handlersWithout_eq key
  · intro topic list found
    rw [h.coherent.snapshot_deregisterHandler] at found
    obtain ⟨before, old, rfl⟩ := Option.map_eq_some_iff.mp found
    rw [order, h.attached old, List.filter_comm]

/-- Registering a handler. -/
theorem registerHandler (h : r.Represents matcher known m) {accepts : H → String → Bool}
    (agree : ∀ handler, known handler → accepts handler = matcher handler) (key : String)
    {handler : H} (isKnown : known handler) :
    (r.registerHandler accepts key handler).1.Represents matcher known
      (m.apply matcher (.registerHandler key handler)) := by
  have order := h.coherent.registered_registerHandler accepts key handler
  have detached := h.deregisterHandler key
  have before := h.coherent.registered_deregisterHandler key
  refine ⟨h.coherent.registerHandler accepts key handler, ?_, ?_, ?_, ?_⟩
  · intro a ha
    rw [order, List.mem_append, List.mem_singleton] at ha
    rcases ha with old | rfl
    · exact h.known a (List.mem_of_mem_filter old)
    · exact isKnown
  · intro topic
    rw [Roster.apply, h.topics, hasTopic_eq_isSome, hasTopic_eq_isSome, snapshot_registerHandler,
      Option.isSome_map, h.coherent.snapshot_deregisterHandler, Option.isSome_map]
  · rw [order, List.map_append, ← h.handlersWithout_eq key]
    rfl
  · intro topic list found
    rw [snapshot_registerHandler] at found
    obtain ⟨rest, old, rfl⟩ := Option.map_eq_some_iff.mp found
    have kept := detached.attached old
    rw [before] at kept
    rw [order, List.filter_append, ← kept, agree handler isKnown]
    by_cases matched : matcher handler topic = true <;>
      simp [matched, nextAttachment]

/-- A change keeps a registry and its roster together, if the handler it may register is known. -/
theorem apply (h : r.Represents matcher known m) {accepts : H → String → Bool}
    (agree : ∀ handler, known handler → accepts handler = matcher handler) {c : Change H}
    (isKnown : ∀ key handler, c = .registerHandler key handler → known handler) :
    (r.apply accepts c).Represents matcher known (m.apply matcher c) := by
  cases c with
  | registerTopic name => exact h.registerTopic agree name
  | deregisterTopic name => exact h.deregisterTopic name
  | registerHandler key handler => exact h.registerHandler agree key (isKnown key handler rfl)
  | deregisterHandler key => exact h.deregisterHandler key

end Represents

/-- A registry tells the same as the roster of its changes, if at every change the handlers accepted
what their matchers match. -/
theorem represents_replay {matcher : H → String → Bool} {known : H → Prop}
    (log : List (MadeChange H))
    (agree : ∀ m ∈ log, ∀ handler, known handler → m.accepts handler = matcher handler)
    (isKnown : ∀ m ∈ log, ∀ key handler, m.change = .registerHandler key handler → known handler) :
    (replay log).Represents matcher known (Roster.replay matcher (log.map (·.change))) := by
  induction log using List.reverseRecOn with
  | nil => exact represents_empty matcher known
  | append_singleton log m ih =>
    have before := ih (fun x hx => agree x (List.mem_append_left _ hx))
      fun x hx => isKnown x (List.mem_append_left _ hx)
    have last : m ∈ log ++ [m] := List.mem_append_right _ List.mem_cons_self
    rw [replay_append_singleton, List.map_append, List.map_singleton,
      Roster.replay_append_singleton]
    exact before.apply (agree m last) (isKnown m last)

namespace Represents

variable {matcher : H → String → Bool} {known : H → Prop} {r : Registry H} {m : Roster}

/-- There are as many topics as in the roster. -/
theorem topicCount_eq (h : r.Represents matcher known m) : r.topicCount = m.topics.card := by
  have nodup : r.listTopics.Nodup := r.topics.names_nodup
  have same : r.listTopics.toFinset = m.topics := by
    ext topic
    rw [List.mem_toFinset, h.topics]
    exact Table.mem_names
  rw [← same, List.toFinset_card_of_nodup nodup]
  exact (List.length_map _).symm

/-- There are as many handlers as in the roster. -/
theorem handlerCount_eq (h : r.Represents matcher known m) :
    r.handlerCount = m.handlers.length := by
  rw [h.handlers, List.length_map, length_registered]

/-- The keys attached to a topic are those of the roster, in its order. -/
theorem attachedKeys_eq (h : r.Represents matcher known m) (topic : String) :
    r.attachedKeys topic = m.attachedKeys topic := by
  unfold Registry.attachedKeys Roster.attachedKeys
  cases found : r.snapshot topic with
  | none =>
    have absent : topic ∉ m.topics := by simp [h.topics, hasTopic_eq_isSome, found]
    simp [absent]
  | some list =>
    have present : topic ∈ m.topics := by simp [h.topics, hasTopic_eq_isSome, found]
    rw [if_pos present, h.handlers, List.filter_map, List.map_map, Option.getD_some,
      h.attached found]
    rfl

/-- The registered topics are those of the roster. -/
theorem mem_listTopics (h : r.Represents matcher known m) (topic : String) :
    topic ∈ r.listTopics ↔ topic ∈ m.topics := by
  rw [h.topics]
  exact Table.mem_names

/-- The registered handlers are those of the roster. -/
theorem hasHandler_iff (h : r.Represents matcher known m) (key : String) :
    r.hasHandler key = true ↔ m.HasKey key := by
  rw [← mem_keys_registered, Roster.HasKey, h.handlers, List.map_map]
  rfl

/-- The keys of the handlers are those of the roster. -/
theorem mem_listHandlerKeys (h : r.Represents matcher known m) (key : String) :
    key ∈ r.listHandlerKeys ↔ m.HasKey key := by
  rw [← h.hasHandler_iff]
  exact Table.mem_names

/-- The topics that a handler accepts are those to which the roster subscribes it. -/
theorem mem_subscriptionsOf (h : r.Represents matcher known m) {accepts : H → String → Bool}
    (agree : ∀ handler, known handler → accepts handler = matcher handler) (key topic : String) :
    topic ∈ r.subscriptionsOf accepts key ↔ m.Subscribes key topic := by
  have listed (g : Registration H) (entry : r.handlers.get? key = some g) :
      g.attachment key ∈ r.registered := mem_registered.mpr entry
  unfold subscriptionsOf Roster.Subscribes
  rw [h.handlers]
  cases entry : r.handlers.get? key with
  | none =>
    simp only [List.not_mem_nil, false_iff, not_and, not_exists, List.mem_map]
    rintro _ _ ⟨a, ha, rfl⟩ rfl
    simp [mem_registered.mp ha] at entry
  | some g =>
    have mem := listed g entry
    have answer : accepts g.handler = matcher g.handler := agree _ (h.known _ mem)
    rw [List.mem_filter, h.mem_listTopics, answer]
    refine and_congr_right fun _ => ⟨fun accepted => ?_, ?_⟩
    · exact ⟨_, List.mem_map_of_mem mem, rfl, accepted⟩
    · rintro ⟨_, listed', same, accepted⟩
      obtain ⟨a, ha, rfl⟩ := List.mem_map.mp listed'
      obtain rfl : a.key = key := same
      rw [mem_registered.mp ha, Option.some.injEq] at entry
      simpa [← entry] using accepted

end Represents

end Registry

end TopicBroker
