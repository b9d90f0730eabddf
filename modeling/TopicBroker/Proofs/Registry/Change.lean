import Mathlib.Data.List.Induction
import TopicBroker.Registry

/-!
# Changes of a registry

The four operations that change a registry, as data, and what each of them does to the look-ups of
topics and handlers. A log of changes keeps with every change what the handlers accepted when it was
made, since the answer of a matcher may differ from one change to the next.
-/

namespace TopicBroker

/-- A change of a registry. -/
inductive Change (H : Type) where
  /-- Register a topic. -/
  | registerTopic (name : String)
  /-- Take a topic out. -/
  | deregisterTopic (name : String)
  /-- Register a handler, in place of one with the same key. -/
  | registerHandler (key : String) (handler : H)
  /-- Take a handler out. -/
  | deregisterHandler (key : String)

/-- A change together with what the handlers accepted at that moment. Two handlers that may answer
differently are different members of `H`. -/
structure MadeChange (H : Type) where
  /-- Which topics a handler accepted. -/
  accepts : H → String → Bool
  /-- The change. -/
  change : Change H

/-- Whether a change registers a handler, which takes the next number. -/
def Change.takesNumber {H : Type} : Change H → Bool
  | .registerHandler .. => true
  | _ => false

namespace Registry

variable {H : Type}

/-- The registry after a change. -/
def apply (accepts : H → String → Bool) (r : Registry H) : Change H → Registry H
  | .registerTopic name => (r.registerTopic accepts name).1
  | .deregisterTopic name => (r.deregisterTopic name).1
  | .registerHandler key handler => (r.registerHandler accepts key handler).1
  | .deregisterHandler key => (r.deregisterHandler key).1

/-- The registry after the changes of a log, which starts without topics and handlers. -/
def replay (log : List (MadeChange H)) : Registry H :=
  log.foldl (fun r m => r.apply m.accepts m.change) empty

@[simp] theorem replay_nil : replay ([] : List (MadeChange H)) = empty := rfl

@[simp] theorem replay_append_singleton (log : List (MadeChange H)) (m : MadeChange H) :
    replay (log ++ [m]) = (replay log).apply m.accepts m.change := by
  simp [replay]

@[simp] theorem snapshot_empty (topic : String) : (empty : Registry H).snapshot topic = none := rfl

/-- A topic is registered exactly when it has a list of attachments. -/
theorem hasTopic_eq_isSome (r : Registry H) (topic : String) :
    r.hasTopic topic = (r.snapshot topic).isSome := rfl

/-- A handler is registered exactly when its key has an entry. -/
theorem hasHandler_eq_isSome (r : Registry H) (key : String) :
    r.hasHandler key = (r.handlers.get? key).isSome := rfl

/-- Registering a topic gives it the handlers that accept it, unless it has a list already. -/
theorem snapshot_registerTopic (accepts : H → String → Bool) (r : Registry H)
    (name topic : String) :
    (r.registerTopic accepts name).1.snapshot topic =
      if topic = name then some ((r.snapshot name).getD (r.matching accepts name))
      else r.snapshot topic := by
  unfold registerTopic
  by_cases known : r.hasTopic name = true
  · obtain ⟨list, found⟩ := Option.isSome_iff_exists.mp known
    have look : r.snapshot name = some list := found
    by_cases same : topic = name
    · subst same
      simp [known, look]
    · simp [known, same]
  · have look : r.snapshot name = none := by
      simpa [hasTopic_eq_isSome] using known
    rw [look]
    simp only [known, Bool.false_eq_true, if_false, snapshot, Table.get?_insert, Option.getD_none]

/-- Taking a topic out drops its list. -/
theorem snapshot_deregisterTopic (r : Registry H) (name topic : String) :
    (r.deregisterTopic name).1.snapshot topic =
      if topic = name then none else r.snapshot topic :=
  Table.get?_erase r.topics name topic

/-- Taking a handler out drops its first attachment in every list. -/
theorem snapshot_deregisterHandler (r : Registry H) (key topic : String) :
    (r.deregisterHandler key).1.snapshot topic =
      if r.hasHandler key then (r.snapshot topic).map (·.eraseP fun a => a.key == key)
      else r.snapshot topic := by
  unfold deregisterHandler
  by_cases known : r.hasHandler key = true
  · simp only [known, if_true, snapshot, detachEverywhere, Table.get?_map]
  · simp [known]

/-- The number that the next registration of a handler takes, as it stands in a list. -/
def nextAttachment (r : Registry H) (key : String) (handler : H) : Attachment H :=
  ⟨key, r.lastSeq + 1, handler⟩

@[simp] theorem lastSeq_deregisterHandler (r : Registry H) (key : String) :
    (r.deregisterHandler key).1.lastSeq = r.lastSeq := by
  unfold deregisterHandler
  split <;> rfl

/-- Registering a handler attaches it last to every topic that it accepts, after an earlier handler
of its key is taken out. -/
theorem snapshot_registerHandler (accepts : H → String → Bool) (r : Registry H) (key : String)
    (handler : H) (topic : String) :
    (r.registerHandler accepts key handler).1.snapshot topic =
      ((r.deregisterHandler key).1.snapshot topic).map fun list =>
        if accepts handler topic then list ++ [r.nextAttachment key handler] else list := by
  simp only [registerHandler, snapshot, attachEverywhere, Table.get?_map, nextAttachment,
    Registration.attachment, lastSeq_deregisterHandler]

@[simp] theorem handlers_registerTopic (accepts : H → String → Bool) (r : Registry H)
    (name : String) : (r.registerTopic accepts name).1.handlers = r.handlers := by
  unfold registerTopic
  split <;> rfl

@[simp] theorem handlers_deregisterTopic (r : Registry H) (name : String) :
    (r.deregisterTopic name).1.handlers = r.handlers := rfl

/-- Taking a handler out leaves the other handlers. -/
theorem get?_handlers_deregisterHandler (r : Registry H) (key other : String) :
    (r.deregisterHandler key).1.handlers.get? other =
      if other = key then none else r.handlers.get? other := by
  unfold deregisterHandler
  by_cases known : r.hasHandler key = true
  · simp only [known, if_true, Table.get?_erase]
  · have unknown : r.handlers.get? key = none := by
      simpa [hasHandler_eq_isSome] using known
    by_cases same : other = key
    · subst same
      simp [known, unknown]
    · simp [known, same]

/-- Registering a handler gives its key the next number. -/
theorem get?_handlers_registerHandler (accepts : H → String → Bool) (r : Registry H)
    (key other : String) (handler : H) :
    (r.registerHandler accepts key handler).1.handlers.get? other =
      if other = key then some ⟨r.lastSeq + 1, handler⟩ else r.handlers.get? other := by
  simp only [registerHandler, Table.get?_insert, get?_handlers_deregisterHandler,
    lastSeq_deregisterHandler]
  split <;> rfl

/-- A change that registers no handler leaves the handlers or takes some out. -/
theorem get?_handlers_of_apply {accepts : H → String → Bool} {r : Registry H}
    {c : Change H} (takes : c.takesNumber = false) {key : String} {g : Registration H}
    (entry : (r.apply accepts c).handlers.get? key = some g) : r.handlers.get? key = some g := by
  cases c with
  | registerTopic name =>
    rwa [apply, handlers_registerTopic] at entry
  | deregisterTopic name => exact entry
  | registerHandler key handler => cases takes
  | deregisterHandler other =>
    rw [apply, get?_handlers_deregisterHandler] at entry
    split at entry
    · cases entry
    · exact entry

@[simp] theorem lastSeq_registerTopic (accepts : H → String → Bool) (r : Registry H)
    (name : String) : (r.registerTopic accepts name).1.lastSeq = r.lastSeq := by
  unfold registerTopic
  split <;> rfl

@[simp] theorem lastSeq_deregisterTopic (r : Registry H) (name : String) :
    (r.deregisterTopic name).1.lastSeq = r.lastSeq := rfl

@[simp] theorem lastSeq_registerHandler (accepts : H → String → Bool) (r : Registry H)
    (key : String) (handler : H) :
    (r.registerHandler accepts key handler).1.lastSeq = r.lastSeq + 1 := by
  simp [registerHandler]

/-- A change takes a number exactly when it registers a handler. -/
theorem lastSeq_apply (accepts : H → String → Bool) (r : Registry H) (c : Change H) :
    (r.apply accepts c).lastSeq = r.lastSeq + if c.takesNumber then 1 else 0 := by
  cases c <;> simp [apply, Change.takesNumber]

/-- No change takes a number back. -/
theorem lastSeq_le_apply (accepts : H → String → Bool) (r : Registry H) (c : Change H) :
    r.lastSeq ≤ (r.apply accepts c).lastSeq := by
  rw [lastSeq_apply]
  exact Nat.le_add_right _ _

/-- The last number counts the registrations of handlers in the log. -/
theorem lastSeq_replay (log : List (MadeChange H)) :
    (replay log).lastSeq = log.countP fun m => m.change.takesNumber := by
  induction log using List.reverseRecOn with
  | nil => rfl
  | append_singleton log m ih =>
    rw [replay_append_singleton, lastSeq_apply, ih, List.countP_append, List.countP_singleton]

end Registry

end TopicBroker
