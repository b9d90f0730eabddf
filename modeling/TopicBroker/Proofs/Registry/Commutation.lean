import TopicBroker.Proofs.Registry.Order

/-!
# Changes that do not depend on each other

A topic that is registered late goes through the handlers and sorts those that accept it, a handler
that is registered late goes through the topics and is put at the end of their lists. Both ways lead
to the same lists, because a coherent registry keeps all its lists in the order of the numbers. So a
change of a topic and a change of handlers can be exchanged, as long as the handlers do not change
what they accept. Changes of different topics can be exchanged too, and with that any two ways to
interleave the same changes lead to the same registry.
-/

namespace TopicBroker

variable {H : Type}

namespace Change

/-- The topic that a change is about. A change of handlers is about none. -/
def topic? : Change H → Option String
  | .registerTopic name => some name
  | .deregisterTopic name => some name
  | .registerHandler .. => none
  | .deregisterHandler _ => none

variable {c : Change H} {name : String}

/-- The changes that are about a topic. -/
theorem topic?_eq_some_iff :
    c.topic? = some name ↔ c = .registerTopic name ∨ c = .deregisterTopic name := by
  cases c <;> simp [topic?]

/-- The changes that are about handlers. -/
theorem topic?_eq_none_iff : c.topic? = none ↔
    (∃ key handler, c = .registerHandler key handler) ∨ ∃ key, c = .deregisterHandler key := by
  cases c <;> simp [topic?]

/-- What a change of handlers makes of the list of a topic, if `lastSeq` is the last number that was
given out. -/
def relist (accepts : H → String → Bool) (lastSeq : Nat) (topic : String) :
    Change H → List (Attachment H) → List (Attachment H)
  | .registerHandler key handler, list =>
    let others := list.filter fun a => a.key != key
    if accepts handler topic then others ++ [⟨key, lastSeq + 1, handler⟩] else others
  | .deregisterHandler key, list => list.filter fun a => a.key != key
  | .registerTopic _, list => list
  | .deregisterTopic _, list => list

/-- Whether two lists interleave the same changes in two ways: the changes of handlers stand in the
same order, and so do the changes of every single topic. -/
def Interleaves (cs ds : List (Change H)) : Prop :=
  ∀ about : Option String,
    (cs.filter fun c => c.topic? == about) = ds.filter fun c => c.topic? == about

/-- Where another list interleaves the same changes, the first change of a list stands behind such
changes only as are about something else. Without it, the two lists still interleave the same
changes. -/
theorem Interleaves.exists_split {cs ds : List (Change H)} (h : Interleaves (c :: cs) ds) :
    ∃ front back, ds = front ++ c :: back ∧ (∀ d ∈ front, d.topic? ≠ c.topic?) ∧
      Interleaves cs (front ++ back) := by
  have own := h c.topic?
  rw [List.filter_cons_of_pos (by simp), eq_comm, List.filter_eq_cons_iff] at own
  obtain ⟨front, back, rfl, apart, -, rest⟩ := own
  refine ⟨front, back, rfl, fun d hd => by simpa using apart d hd, fun about => ?_⟩
  have here := h about
  by_cases same : c.topic? = about
  · subst same
    have none : (front.filter fun d => d.topic? == c.topic?) = [] :=
      List.filter_eq_nil_iff.mpr fun d hd => apart d hd
    rw [List.filter_append, none, rest, List.nil_append]
  · simpa [List.filter_append, List.filter_cons, same] using here

end Change

namespace Registry

variable {r s : Registry H} {accepts : H → String → Bool} {c d : Change H} {name : String}

/-- Registries with the same look-ups and the same last number are equal. -/
theorem eq_of_lookups (topics : ∀ topic, r.snapshot topic = s.snapshot topic)
    (handlers : ∀ key, r.handlers.get? key = s.handlers.get? key)
    (lastSeq : r.lastSeq = s.lastSeq) : r = s := by
  obtain ⟨topics₁, handlers₁, lastSeq₁⟩ := r
  obtain ⟨topics₂, handlers₂, lastSeq₂⟩ := s
  have sameTopics : topics₁ = topics₂ := Table.ext topics
  have sameHandlers : handlers₁ = handlers₂ := Table.ext handlers
  have sameSeq : lastSeq₁ = lastSeq₂ := lastSeq
  rw [sameTopics, sameHandlers, sameSeq]

/-- A change of a topic leaves the handlers and their numbers. -/
theorem handlers_apply_of_topic (accepts : H → String → Bool) (r : Registry H)
    (about : c.topic? = some name) :
    (r.apply accepts c).handlers = r.handlers ∧ (r.apply accepts c).lastSeq = r.lastSeq := by
  rcases Change.topic?_eq_some_iff.mp about with rfl | rfl
  · exact ⟨handlers_registerTopic _ _ _, lastSeq_registerTopic _ _ _⟩
  · exact ⟨rfl, rfl⟩

/-- A change of a topic leaves the lists of all other topics. -/
theorem snapshot_apply_of_ne (about : c.topic? = some name) {topic : String} (ne : topic ≠ name) :
    (r.apply accepts c).snapshot topic = r.snapshot topic := by
  rcases Change.topic?_eq_some_iff.mp about with rfl | rfl
  · rw [apply, snapshot_registerTopic, if_neg ne]
  · rw [apply, snapshot_deregisterTopic, if_neg ne]

/-- What a change makes of the list of its topic is read off this list and off the handlers that
match the topic. So if another way to get these two differs by `f`, the outcome differs by `f`. -/
theorem snapshot_apply_of_map (about : c.topic? = some name)
    (f : List (Attachment H) → List (Attachment H))
    (list : s.snapshot name = (r.snapshot name).map f)
    (matching : s.matching accepts name = f (r.matching accepts name)) :
    (s.apply accepts c).snapshot name = ((r.apply accepts c).snapshot name).map f := by
  rcases Change.topic?_eq_some_iff.mp about with rfl | rfl
  · rw [apply, apply, snapshot_registerTopic, snapshot_registerTopic, if_pos rfl, if_pos rfl, list,
      matching]
    cases r.snapshot name <;> rfl
  · rw [apply, apply, snapshot_deregisterTopic, snapshot_deregisterTopic, if_pos rfl, if_pos rfl]
    rfl

/-- What matches a topic depends on the handlers only. -/
theorem matching_congr (handlers : r.handlers = s.handlers) (topic : String) :
    r.matching accepts topic = s.matching accepts topic := by
  unfold matching
  rw [handlers]

/-- Changes of different topics can be exchanged. -/
theorem apply_comm_of_topics {other : String} (about : c.topic? = some name)
    (about' : d.topic? = some other) (ne : name ≠ other) :
    (r.apply accepts c).apply accepts d = (r.apply accepts d).apply accepts c := by
  have first := handlers_apply_of_topic accepts r about
  have second := handlers_apply_of_topic accepts r about'
  have firstThen := handlers_apply_of_topic accepts (r.apply accepts c) about'
  have secondThen := handlers_apply_of_topic accepts (r.apply accepts d) about
  -- the list of each of the two topics is made from what the other change leaves as it is
  have own {x y : Change H} {topic topic' : String} (about : x.topic? = some topic)
      (about' : y.topic? = some topic') (ne : topic ≠ topic') :
      ((r.apply accepts x).apply accepts y).snapshot topic =
        ((r.apply accepts y).apply accepts x).snapshot topic := by
    have list : (r.apply accepts y).snapshot topic = (r.snapshot topic).map id := by
      rw [snapshot_apply_of_ne about' ne, Option.map_id_fun, id]
    have matching : (r.apply accepts y).matching accepts topic = r.matching accepts topic :=
      matching_congr (handlers_apply_of_topic accepts r about').1 topic
    rw [snapshot_apply_of_map about id list matching, snapshot_apply_of_ne about' ne,
      Option.map_id_fun, id]
  refine eq_of_lookups ?_ ?_ ?_
  · intro topic
    by_cases isFirst : topic = name
    · subst isFirst
      exact own about about' ne
    · by_cases isSecond : topic = other
      · subst isSecond
        exact (own about' about (Ne.symm ne)).symm
      · rw [snapshot_apply_of_ne about' isSecond, snapshot_apply_of_ne about isFirst,
          snapshot_apply_of_ne about isFirst, snapshot_apply_of_ne about' isSecond]
  · intro key
    rw [firstThen.1, first.1, secondThen.1, second.1]
  · rw [firstThen.2, first.2, secondThen.2, second.2]

/-- What a change of handlers makes of the handlers is read off them and off the last number. -/
theorem handlers_apply_congr (about : c.topic? = none) (handlers : r.handlers = s.handlers)
    (lastSeq : r.lastSeq = s.lastSeq) (key : String) :
    (r.apply accepts c).handlers.get? key = (s.apply accepts c).handlers.get? key := by
  rcases Change.topic?_eq_none_iff.mp about with ⟨own, handler, rfl⟩ | ⟨own, rfl⟩
  · rw [apply, apply, get?_handlers_registerHandler, get?_handlers_registerHandler, handlers,
      lastSeq]
  · rw [apply, apply, get?_handlers_deregisterHandler, get?_handlers_deregisterHandler, handlers]

namespace Coherent

/-- A change of handlers changes every list of attachments in the same way. -/
theorem snapshot_apply (h : r.Coherent) (about : c.topic? = none) (topic : String) :
    (r.apply accepts c).snapshot topic =
      (r.snapshot topic).map (c.relist accepts r.lastSeq topic) := by
  rcases Change.topic?_eq_none_iff.mp about with ⟨key, handler, rfl⟩ | ⟨key, rfl⟩
  · rw [Registry.apply, snapshot_registerHandler, h.snapshot_deregisterHandler, Option.map_map]
    rfl
  · exact h.snapshot_deregisterHandler key topic

/-- It changes what matches a topic in this way too. -/
theorem matching_apply (h : r.Coherent) (about : c.topic? = none) (topic : String) :
    (r.apply accepts c).matching accepts topic =
      c.relist accepts r.lastSeq topic (r.matching accepts topic) := by
  rw [(h.apply accepts c).matching_eq_filter, h.matching_eq_filter]
  rcases Change.topic?_eq_none_iff.mp about with ⟨key, handler, rfl⟩ | ⟨key, rfl⟩
  · rw [Registry.apply, h.registered_registerHandler, List.filter_append, List.filter_comm]
    by_cases accepted : accepts handler topic = true <;>
      simp [Change.relist, nextAttachment, accepted]
  · rw [Registry.apply, h.registered_deregisterHandler, List.filter_comm]
    rfl

/-- A change of a topic and a change of handlers can be exchanged. -/
theorem apply_comm_of_handlers (h : r.Coherent) (about : c.topic? = some name)
    (about' : d.topic? = none) :
    (r.apply accepts c).apply accepts d = (r.apply accepts d).apply accepts c := by
  have first := handlers_apply_of_topic accepts r about
  have later := handlers_apply_of_topic accepts (r.apply accepts d) about
  refine eq_of_lookups ?_ ?_ ?_
  · intro topic
    rw [(h.apply accepts c).snapshot_apply about', first.2]
    by_cases own : topic = name
    · subst own
      exact (snapshot_apply_of_map about _ (h.snapshot_apply about' topic)
        (h.matching_apply about' topic)).symm
    · rw [snapshot_apply_of_ne about own, snapshot_apply_of_ne about own, h.snapshot_apply about']
  · intro key
    rw [later.1]
    exact handlers_apply_congr about' first.1 first.2 key
  · rw [later.2, lastSeq_apply, first.2, lastSeq_apply]

/-- Changes can be exchanged that are not about the same topic and not both about handlers. -/
theorem apply_comm (h : r.Coherent) (apart : c.topic? ≠ d.topic?) :
    (r.apply accepts c).apply accepts d = (r.apply accepts d).apply accepts c := by
  cases about : c.topic? with
  | none =>
    cases about' : d.topic? with
    | none => exact absurd (about.trans about'.symm) apart
    | some other => exact (h.apply_comm_of_handlers about' about).symm
  | some name =>
    cases about' : d.topic? with
    | none => exact h.apply_comm_of_handlers about about'
    | some other =>
      refine apply_comm_of_topics about about' fun same => apart ?_
      rw [about, about', same]

end Coherent

/-- The registry after several changes, during which the handlers accept the same topics. -/
def applyAll (accepts : H → String → Bool) (r : Registry H) (cs : List (Change H)) : Registry H :=
  cs.foldl (apply accepts) r

namespace Coherent

/-- A change can as well be made before others that it can be exchanged with. -/
theorem applyAll_move (h : r.Coherent) {front back : List (Change H)}
    (apart : ∀ d ∈ front, d.topic? ≠ c.topic?) :
    r.applyAll accepts (front ++ c :: back) = r.applyAll accepts (c :: front ++ back) := by
  induction front generalizing r with
  | nil => rfl
  | cons d front ih =>
    calc r.applyAll accepts (d :: front ++ c :: back)
        = (r.apply accepts d).applyAll accepts (c :: front ++ back) :=
          ih (h.apply accepts d) fun x hx => apart x (List.mem_cons_of_mem _ hx)
      _ = ((r.apply accepts d).apply accepts c).applyAll accepts (front ++ back) := rfl
      _ = ((r.apply accepts c).apply accepts d).applyAll accepts (front ++ back) := by
          rw [h.apply_comm (apart d List.mem_cons_self)]
      _ = r.applyAll accepts (c :: d :: front ++ back) := rfl

/-- Two ways to interleave the same changes lead to the same registry. -/
theorem applyAll_of_interleaves (h : r.Coherent) {cs ds : List (Change H)}
    (same : Change.Interleaves cs ds) : r.applyAll accepts cs = r.applyAll accepts ds := by
  induction cs generalizing r ds with
  | nil =>
    cases ds with
    | nil => rfl
    | cons d ds =>
      have none := same d.topic?
      simp at none
  | cons c cs ih =>
    obtain ⟨front, back, rfl, apart, rest⟩ := same.exists_split
    rw [h.applyAll_move apart]
    exact ih (h.apply accepts c) rest

end Coherent

end Registry

end TopicBroker
