import TopicBroker.Proofs.Registry.Change

/-!
# What a registry does not look at

A registry keeps handlers and asks what they accept, and that is all. So it makes no difference
whether the handlers are replaced by others, which accept the same, before a change or after it, and
no question tells the two registries apart. Two registries that go back to one registry of pairs of
handlers therefore stay side by side.
-/

namespace TopicBroker

variable {H K : Type}

namespace Table

variable {α β γ : Type}

/-- Values can be changed before or after one is put in. -/
theorem map_insert (f : String → α → β) (t : Table α) (name : String) (value : α) :
    (t.insert name value).map f = (t.map f).insert name (f name value) := by
  refine ext fun other => ?_
  rw [get?_map, get?_insert, get?_insert, get?_map]
  split
  · next same => rw [same, Option.map_some]
  · rfl

/-- Values can be changed before or after one is taken out. -/
theorem map_erase (f : String → α → β) (t : Table α) (name : String) :
    (t.erase name).map f = (t.map f).erase name := by
  refine ext fun other => ?_
  rw [get?_map, get?_erase, get?_erase, get?_map]
  split
  · rfl
  · rfl

/-- Two changes of all values are one. -/
theorem map_map (g : String → β → γ) (f : String → α → β) (t : Table α) :
    (t.map f).map g = t.map fun name value => g name (f name value) := by
  refine ext fun name => ?_
  rw [get?_map, get?_map, get?_map, Option.map_map]
  rfl

@[simp] theorem names_map (f : String → α → β) (t : Table α) : (t.map f).names = t.names :=
  List.map_map

@[simp] theorem size_map (f : String → α → β) (t : Table α) : (t.map f).size = t.size :=
  List.length_map _

@[simp] theorem contains_map (f : String → α → β) (t : Table α) (name : String) :
    (t.map f).contains name = t.contains name := by
  rw [contains, get?_map, Option.isSome_map, contains]

end Table

/-- The attachment with another handler. -/
def Attachment.map (f : H → K) (a : Attachment H) : Attachment K := ⟨a.key, a.seq, f a.handler⟩

/-- The registration with another handler. -/
def Registration.map (f : H → K) (r : Registration H) : Registration K := ⟨r.seq, f r.handler⟩

/-- The change with another handler. -/
def Change.map (f : H → K) : Change H → Change K
  | .registerTopic name => .registerTopic name
  | .deregisterTopic name => .deregisterTopic name
  | .registerHandler key handler => .registerHandler key (f handler)
  | .deregisterHandler key => .deregisterHandler key

namespace Registry

/-- The registry with other handlers. -/
def map (f : H → K) (r : Registry H) : Registry K where
  topics := r.topics.map fun _ list => list.map (·.map f)
  handlers := r.handlers.map fun _ reg => reg.map f
  lastSeq := r.lastSeq

/-- Replacing handlers twice is replacing them once. -/
theorem map_map {L : Type} (g : K → L) (f : H → K) (r : Registry H) :
    (r.map f).map g = r.map fun h => g (f h) := by
  unfold map
  rw [Table.map_map, Table.map_map]
  simp only [List.map_map]
  rfl

variable {f : H → K} {r : Registry H} {accepts : H → String → Bool} {accepts' : K → String → Bool}

@[simp] theorem snapshot_map (topic : String) :
    (r.map f).snapshot topic = (r.snapshot topic).map fun list => list.map (·.map f) :=
  Table.get?_map _ _ _

@[simp] theorem hasTopic_map (name : String) : (r.map f).hasTopic name = r.hasTopic name :=
  Table.contains_map _ _ _

@[simp] theorem hasHandler_map (key : String) : (r.map f).hasHandler key = r.hasHandler key :=
  Table.contains_map _ _ _

@[simp] theorem listTopics_map : (r.map f).listTopics = r.listTopics := Table.names_map _ _

@[simp] theorem listHandlerKeys_map : (r.map f).listHandlerKeys = r.listHandlerKeys :=
  Table.names_map _ _

@[simp] theorem topicCount_map : (r.map f).topicCount = r.topicCount := Table.size_map _ _

@[simp] theorem handlerCount_map : (r.map f).handlerCount = r.handlerCount := Table.size_map _ _

@[simp] theorem attachedKeys_map (topic : String) :
    (r.map f).attachedKeys topic = r.attachedKeys topic := by
  unfold attachedKeys
  rw [snapshot_map]
  cases r.snapshot topic with
  | none => rfl
  | some list => exact List.map_map

/-- What a handler accepts is asked of the handler alone. -/
theorem subscriptionsOf_map (agree : ∀ h, accepts' (f h) = accepts h) (key : String) :
    (r.map f).subscriptionsOf accepts' key = r.subscriptionsOf accepts key := by
  have entry : (r.map f).handlers.get? key = (r.handlers.get? key).map (·.map f) :=
    Table.get?_map _ _ _
  unfold subscriptionsOf
  rw [entry]
  cases r.handlers.get? key with
  | none => rfl
  | some reg =>
    have same : accepts' (reg.map f).handler = accepts reg.handler := agree reg.handler
    simp only [Option.map_some, listTopics_map, same]

/-- Attachments are ordered by their numbers, whatever the handlers are. -/
theorem inOrder_map (list : List (Attachment H)) :
    inOrder (list.map (·.map f)) = (inOrder list).map (·.map f) :=
  (List.map_mergeSort (f := fun a : Attachment H => a.map f) fun _ _ _ _ => rfl).symm

/-- The handlers for a new topic are found without looking at them. -/
theorem matching_map (agree : ∀ h, accepts' (f h) = accepts h) (topic : String) :
    (r.map f).matching accepts' topic = (r.matching accepts topic).map (·.map f) := by
  have entries : (r.map f).handlers.entries =
      r.handlers.entries.map fun e => (e.1, e.2.map f) := rfl
  have accepted : ((fun e : String × Registration K => accepts' e.2.handler topic) ∘
      fun e : String × Registration H => (e.1, e.2.map f)) =
        fun e => accepts e.2.handler topic := by
    funext e
    exact congrFun (agree e.2.handler) topic
  unfold matching matchingAmong
  rw [entries, List.filter_map, accepted, List.map_map, ← inOrder_map, List.map_map]
  rfl

/-- Handlers can be replaced before or after a handler is taken out. -/
theorem deregisterHandler_map (key : String) :
    ((r.map f).deregisterHandler key).1 = ((r.deregisterHandler key).1).map f := by
  unfold deregisterHandler
  rw [hasHandler_map]
  split
  · have erased (list : List (Attachment H)) :
        ((list.map (·.map f)).eraseP fun a => a.key == key) =
          (list.eraseP fun a => a.key == key).map (·.map f) := List.eraseP_map
    simp only [map, detachEverywhere, Table.map_map, Table.map_erase, erased]
  · rfl

/-- Handlers can be replaced before or after one is added to the topics that it accepts. -/
theorem attachEverywhere_map (agree : ∀ h, accepts' (f h) = accepts h) (a : Attachment H)
    (topics : Table (List (Attachment H))) :
    attachEverywhere accepts' (a.map f) (topics.map fun _ list => list.map (·.map f)) =
      (attachEverywhere accepts a topics).map fun _ list => list.map (·.map f) := by
  have same : accepts' (a.map f).handler = accepts a.handler := agree a.handler
  unfold attachEverywhere
  rw [Table.map_map, Table.map_map, same]
  congr 1
  funext name list
  split
  · rw [List.map_append, List.map_singleton]
  · rfl

/-- Handlers can be replaced before or after a change, if the others accept the same. -/
theorem apply_map (agree : ∀ h, accepts' (f h) = accepts h) (c : Change H) :
    (r.map f).apply accepts' (c.map f) = (r.apply accepts c).map f := by
  cases c with
  | registerTopic name =>
    simp only [apply, Change.map, registerTopic, hasTopic_map, matching_map agree]
    split
    · rfl
    · simp only [map, Table.map_insert]
  | deregisterTopic name => simp only [apply, Change.map, deregisterTopic, map, Table.map_erase]
  | registerHandler key handler =>
    simp only [apply, Change.map, registerHandler, deregisterHandler_map]
    generalize (r.deregisterHandler key).1 = s
    simp only [map, Table.map_insert, ← attachEverywhere_map agree]
    rfl
  | deregisterHandler key => exact deregisterHandler_map key

end Registry

end TopicBroker
