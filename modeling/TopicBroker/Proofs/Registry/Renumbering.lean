import TopicBroker.Proofs.Registry.Lasting
import TopicBroker.Proofs.Registry.Naturality

/-!
# Numbers and keys that nobody asks for

The numbers of registrations only serve to put attachments into order. So all registrations may get
new numbers in the same order, before a change or after it. And an entry of a handler that accepts no
topic is never read, as long as no change is about its key: it may be overlooked before a change or
after it. Where such an entry is made, a number is skipped, and nothing else happens.
-/

namespace TopicBroker

variable {H : Type}

/-- Whether new numbers have the order of the old ones, and those that follow the last old number
that was given out are next to each other. -/
structure Renumbers (f : Nat → Nat) (last : Nat) : Prop where
  /-- The order stays. -/
  increasing : StrictMono f
  /-- The numbers that are still to be given out follow one another. -/
  evenly : ∀ s, last < s → f (s + 1) = f s + 1

/-- The new numbers with one left out behind the last old number that was given out. -/
def skipAfter (last : Nat) (f : Nat → Nat) (s : Nat) : Nat := if s ≤ last then f s else f s + 1

theorem skipAfter_of_le {f : Nat → Nat} {last s : Nat} (given : s ≤ last) :
    skipAfter last f s = f s :=
  if_pos given

namespace Renumbers

variable {f : Nat → Nat} {last : Nat}

/-- Old numbers as new ones. -/
theorem id (last : Nat) : Renumbers (fun s => s) last := ⟨strictMono_id, fun _ _ => rfl⟩

/-- More numbers may have been given out. -/
theorem of_le (h : Renumbers f last) {later : Nat} (le : last ≤ later) : Renumbers f later :=
  ⟨h.increasing, fun s above => h.evenly s (Nat.lt_of_le_of_lt le above)⟩

/-- A number that is still to be given out is moved to the next place. -/
theorem skipAfter_of_lt (h : Renumbers f last) {s : Nat} (above : last < s) :
    skipAfter last f s = f (s + 1) := by
  rw [skipAfter, if_neg (Nat.not_le_of_lt above), h.evenly s above]

/-- A number may be left out. -/
theorem skip (h : Renumbers f last) : Renumbers (skipAfter last f) last where
  increasing := by
    refine strictMono_nat_of_lt_succ fun s => ?_
    have next : f s < f (s + 1) := h.increasing (Nat.lt_succ_self s)
    unfold skipAfter
    split <;> split <;> omega
  evenly s above := by
    rw [h.skipAfter_of_lt above, h.skipAfter_of_lt (Nat.lt_succ_of_lt above),
      h.evenly (s + 1) (Nat.lt_succ_of_lt above)]

/-- No new number of a number that is still to be given out is zero. -/
theorem pos (h : Renumbers f last) (s : Nat) : 0 < f (s + 1) :=
  Nat.zero_lt_of_lt (h.increasing (Nat.lt_succ_self s))

end Renumbers

/-- The attachment under a new number. -/
def Attachment.renumber (f : Nat → Nat) (a : Attachment H) : Attachment H :=
  ⟨a.key, f a.seq, a.handler⟩

/-- The registration under a new number. -/
def Registration.renumber (f : Nat → Nat) (r : Registration H) : Registration H :=
  ⟨f r.seq, r.handler⟩

namespace Registry

variable {r : Registry H} {f : Nat → Nat} {accepts : H → String → Bool}

/-- The registry under new numbers. -/
def renumber (f : Nat → Nat) (r : Registry H) : Registry H where
  topics := r.topics.map fun _ list => list.map (·.renumber f)
  handlers := r.handlers.map fun _ reg => reg.renumber f
  lastSeq := f (r.lastSeq + 1) - 1

@[simp] theorem snapshot_renumber (topic : String) :
    (r.renumber f).snapshot topic = (r.snapshot topic).map fun list => list.map (·.renumber f) :=
  Table.get?_map _ _ _

@[simp] theorem hasTopic_renumber (name : String) :
    (r.renumber f).hasTopic name = r.hasTopic name :=
  Table.contains_map _ _ _

@[simp] theorem hasHandler_renumber (key : String) :
    (r.renumber f).hasHandler key = r.hasHandler key :=
  Table.contains_map _ _ _

@[simp] theorem listTopics_renumber : (r.renumber f).listTopics = r.listTopics :=
  Table.names_map _ _

@[simp] theorem listHandlerKeys_renumber : (r.renumber f).listHandlerKeys = r.listHandlerKeys :=
  Table.names_map _ _

@[simp] theorem topicCount_renumber : (r.renumber f).topicCount = r.topicCount :=
  Table.size_map _ _

@[simp] theorem handlerCount_renumber : (r.renumber f).handlerCount = r.handlerCount :=
  Table.size_map _ _

@[simp] theorem attachedKeys_renumber (topic : String) :
    (r.renumber f).attachedKeys topic = r.attachedKeys topic := by
  unfold attachedKeys
  rw [snapshot_renumber]
  cases r.snapshot topic with
  | none => rfl
  | some list => exact List.map_map

@[simp] theorem subscriptionsOf_renumber (key : String) :
    (r.renumber f).subscriptionsOf accepts key = r.subscriptionsOf accepts key := by
  have entry : (r.renumber f).handlers.get? key = (r.handlers.get? key).map (·.renumber f) :=
    Table.get?_map _ _ _
  unfold subscriptionsOf
  rw [entry, listTopics_renumber]
  cases r.handlers.get? key with
  | none => rfl
  | some reg => rfl

/-- Attachments stay in order under new numbers. -/
theorem inOrder_renumber (increasing : StrictMono f) (list : List (Attachment H)) :
    inOrder (list.map (·.renumber f)) = (inOrder list).map (·.renumber f) := by
  refine (List.map_mergeSort fun a _ b _ => ?_).symm
  simp only [Attachment.renumber, increasing.le_iff_le]

/-- The handlers for a new topic are found in the same order under new numbers. -/
theorem matching_renumber (increasing : StrictMono f) (topic : String) :
    (r.renumber f).matching accepts topic = (r.matching accepts topic).map (·.renumber f) := by
  have entries : (r.renumber f).handlers.entries =
      r.handlers.entries.map fun e => (e.1, e.2.renumber f) := rfl
  unfold matching matchingAmong
  rw [entries, List.filter_map, List.map_map, ← inOrder_renumber increasing, List.map_map]
  rfl

/-- New numbers can be given before or after a handler is taken out. -/
theorem deregisterHandler_renumber (key : String) :
    ((r.renumber f).deregisterHandler key).1 = ((r.deregisterHandler key).1).renumber f := by
  unfold deregisterHandler
  rw [hasHandler_renumber]
  split
  · have erased (list : List (Attachment H)) :
        ((list.map (·.renumber f)).eraseP fun a => a.key == key) =
          (list.eraseP fun a => a.key == key).map (·.renumber f) := List.eraseP_map
    simp only [renumber, detachEverywhere, Table.map_map, Table.map_erase, erased]
  · rfl

/-- New numbers can be given before or after a handler is added to the topics that it accepts. -/
theorem attachEverywhere_renumber (a : Attachment H) (topics : Table (List (Attachment H))) :
    attachEverywhere accepts (a.renumber f) (topics.map fun _ list => list.map (·.renumber f)) =
      (attachEverywhere accepts a topics).map fun _ list => list.map (·.renumber f) := by
  unfold attachEverywhere
  rw [Table.map_map, Table.map_map]
  congr 1
  funext name list
  rw [apply_ite (List.map _), List.map_append, List.map_singleton]
  rfl

/-- New numbers can be given before or after a change. -/
theorem apply_renumber (numbers : Renumbers f r.lastSeq) (c : Change H) :
    (r.renumber f).apply accepts c = (r.apply accepts c).renumber f := by
  cases c with
  | registerTopic name =>
    simp only [apply, registerTopic, hasTopic_renumber, matching_renumber numbers.increasing]
    split
    · rfl
    · simp only [renumber, Table.map_insert]
  | deregisterTopic name => simp only [apply, deregisterTopic, renumber, Table.map_erase]
  | registerHandler key handler =>
    have last : ((r.deregisterHandler key).1).lastSeq = r.lastSeq := lastSeq_deregisterHandler r key
    simp only [apply, registerHandler, deregisterHandler_renumber]
    -- the new number must be the one behind the last new number, and so must the one after it
    generalize (r.deregisterHandler key).1 = s at last ⊢
    have next : f (s.lastSeq + 1) - 1 + 1 = f (s.lastSeq + 1) :=
      Nat.sub_add_cancel (numbers.pos s.lastSeq)
    have later : f (s.lastSeq + 1 + 1) = f (s.lastSeq + 1) + 1 := by
      rw [last]
      exact numbers.evenly _ (Nat.lt_succ_self _)
    simp only [renumber, Table.map_insert, ← attachEverywhere_renumber, next, later,
      Nat.add_sub_cancel]
    rfl
  | deregisterHandler key => exact deregisterHandler_renumber key

/-- Leaving a number out that was not given out leaves all registrations. -/
theorem Coherent.renumber_skip (h : r.Coherent) (numbers : Renumbers f r.lastSeq) :
    r.renumber (skipAfter r.lastSeq f) =
      { r.renumber f with lastSeq := (r.renumber f).lastSeq + 1 } := by
  have last : skipAfter r.lastSeq f (r.lastSeq + 1) - 1 = f (r.lastSeq + 1) - 1 + 1 := by
    have pos := numbers.pos r.lastSeq
    rw [skipAfter, if_neg (Nat.not_succ_le_self _)]
    omega
  have topics : (r.topics.map fun _ list => list.map (·.renumber (skipAfter r.lastSeq f))) =
      r.topics.map fun _ list => list.map (·.renumber f) := by
    refine Table.ext fun topic => ?_
    rw [Table.get?_map, Table.get?_map]
    refine Option.map_congr fun list found => List.map_congr_left fun a ha => ?_
    rw [Attachment.renumber, skipAfter_of_le (h.bounded (h.current found a ha)),
      Attachment.renumber]
  have handlers : (r.handlers.map fun _ reg => reg.renumber (skipAfter r.lastSeq f)) =
      r.handlers.map fun _ reg => reg.renumber f := by
    refine Table.ext fun key => ?_
    rw [Table.get?_map, Table.get?_map]
    refine Option.map_congr fun reg found => ?_
    rw [Registration.renumber, skipAfter_of_le (h.bounded found), Registration.renumber]
  rw [renumber, topics, handlers, last, renumber]

end Registry

namespace Table

variable {α : Type} (t : Table α) (name : String)

/-- Taking a name out leaves the other names. -/
theorem names_erase : (t.erase name).names = t.names.filter (· != name) := by
  unfold names erase
  rw [List.filter_map]
  rfl

/-- Taking a name out takes out one entry, if the name has one. -/
theorem size_erase : t.size = (t.erase name).size + if t.contains name then 1 else 0 := by
  have listed (u : Table α) : u.size = u.names.length := (List.length_map _).symm
  have once : (t.names.filter (· == name)).length = if t.contains name then 1 else 0 := by
    rw [← List.count_eq_length_filter, t.names_nodup.count]
    simp only [mem_names]
  rw [listed, listed, names_erase, ← once, Nat.add_comm]
  exact List.length_eq_length_filter_add _

/-- Two names can be taken out in any order. -/
theorem erase_comm (other : String) : (t.erase name).erase other = (t.erase other).erase name := by
  refine ext fun key => ?_
  simp only [get?_erase]
  split <;> split <;> rfl

/-- A name can be taken out before another one gets a value, or after that. -/
theorem erase_insert_of_ne {other : String} (ne : other ≠ name) (value : α) :
    (t.insert other value).erase name = (t.erase name).insert other value := by
  refine ext fun key => ?_
  simp only [get?_erase, get?_insert]
  by_cases same : key = name
  · simp [same, ne.symm]
  · simp [same]

/-- What value a name has does not matter if it is taken out. -/
theorem erase_insert (value : α) : (t.insert name value).erase name = t.erase name := by
  refine ext fun key => ?_
  simp only [get?_erase, get?_insert]
  split <;> rfl

/-- A name is taken out once. -/
theorem erase_erase : (t.erase name).erase name = t.erase name := by
  refine ext fun key => ?_
  simp only [get?_erase]
  split <;> rfl

end Table

namespace Registry

variable {r : Registry H} {accepts : H → String → Bool} {key other : String}

/-- The registry without the entry of a key. The attachments stay. -/
def overlook (key : String) (r : Registry H) : Registry H :=
  { r with handlers := r.handlers.erase key }

/-- Whether the handler of a key, if there is one, does not accept a topic. -/
def Rejects (r : Registry H) (accepts : H → String → Bool) (key topic : String) : Prop :=
  ∀ reg, r.handlers.get? key = some reg → accepts reg.handler topic = false

theorem hasTopic_overlook (name : String) : (r.overlook key).hasTopic name = r.hasTopic name := rfl

theorem hasHandler_overlook (ne : other ≠ key) :
    (r.overlook key).hasHandler other = r.hasHandler other := by
  rw [hasHandler_eq_isSome, overlook, Table.get?_erase, if_neg ne, hasHandler_eq_isSome]

theorem listHandlerKeys_overlook :
    (r.overlook key).listHandlerKeys = r.listHandlerKeys.filter (· != key) :=
  r.handlers.names_erase key

/-- A handler that is overlooked is counted, if it is there. -/
theorem handlerCount_overlook (r : Registry H) (key : String) :
    r.handlerCount = (r.overlook key).handlerCount + if r.hasHandler key then 1 else 0 :=
  r.handlers.size_erase key

theorem subscriptionsOf_overlook (ne : other ≠ key) :
    (r.overlook key).subscriptionsOf accepts other = r.subscriptionsOf accepts other := by
  unfold subscriptionsOf overlook
  rw [Table.get?_erase, if_neg ne]
  rfl

/-- A handler that accepts no registered topic has no subscriptions. -/
theorem subscriptionsOf_of_rejects
    (rejects : ∀ topic, r.hasTopic topic = true → r.Rejects accepts key topic) :
    r.subscriptionsOf accepts key = [] := by
  unfold subscriptionsOf
  split
  · rfl
  · next reg found =>
    refine List.filter_eq_nil_iff.mpr fun topic listed => ?_
    rw [rejects topic (Table.mem_names.mp listed) reg found]
    exact Bool.false_ne_true

/-- A handler that does not accept a topic is not missed when the topic is registered. -/
theorem matching_overlook {topic : String} (rejects : r.Rejects accepts key topic) :
    (r.overlook key).matching accepts topic = r.matching accepts topic := by
  have entries : (r.overlook key).handlers.entries =
      r.handlers.entries.filter fun e => e.1 != key := rfl
  unfold matching matchingAmong
  rw [entries, List.filter_filter]
  congr 2
  refine List.filter_congr fun e he => ?_
  by_cases own : e.1 = key
  · have entry : r.handlers.get? key = some e.2 := Table.get?_eq_some_iff.mpr (own ▸ he)
    rw [rejects e.2 entry, Bool.false_and]
  · simp [own]

/-- A key can be overlooked before or after the handler of another one is taken out. -/
theorem deregisterHandler_overlook (ne : other ≠ key) :
    ((r.overlook key).deregisterHandler other).1 = ((r.deregisterHandler other).1).overlook key := by
  unfold deregisterHandler
  rw [hasHandler_overlook ne]
  split
  · simp only [overlook, Table.erase_comm]
  · rfl

/-- A key can be overlooked before or after a change that is about others. -/
theorem apply_overlook {c : Change H} (others : ¬ c.TakesOut key)
    (rejects : ∀ topic, c = .registerTopic topic → r.Rejects accepts key topic) :
    (r.overlook key).apply accepts c = (r.apply accepts c).overlook key := by
  cases c with
  | registerTopic name =>
    simp only [apply, registerTopic, hasTopic_overlook, matching_overlook (rejects name rfl)]
    split <;> rfl
  | deregisterTopic name => rfl
  | registerHandler other handler =>
    have ne : other ≠ key := fun same => others (.inr ⟨handler, by rw [same]⟩)
    simp only [apply, registerHandler, deregisterHandler_overlook ne]
    simp only [overlook, Table.erase_insert_of_ne _ _ ne]
  | deregisterHandler other =>
    exact deregisterHandler_overlook fun same => others (.inl (by rw [same]))

/-- Where no attachment has a key, none is dropped. -/
theorem detachEverywhere_of_absent
    (absent : ∀ topic list, r.snapshot topic = some list → ∀ a ∈ list, a.key ≠ key) :
    detachEverywhere key r.topics = r.topics := by
  refine Table.ext fun topic => ?_
  rw [detachEverywhere, Table.get?_map]
  cases found : r.topics.get? topic with
  | none => rfl
  | some list =>
    have kept : (list.eraseP fun a => a.key == key) = list :=
      List.eraseP_of_forall_not fun a ha => by simpa using absent topic list found a ha
    rw [Option.map_some, kept]

/-- Where no registered topic is accepted, nothing is attached. -/
theorem attachEverywhere_of_rejects {a : Attachment H} {topics : Table (List (Attachment H))}
    (rejects : ∀ topic, topics.contains topic = true → accepts a.handler topic = false) :
    attachEverywhere accepts a topics = topics := by
  refine Table.ext fun topic => ?_
  rw [attachEverywhere, Table.get?_map]
  cases found : topics.get? topic with
  | none => rfl
  | some list =>
    have known : topics.contains topic = true := by rw [Table.contains, found, Option.isSome_some]
    rw [Option.map_some, rejects topic known, if_neg Bool.false_ne_true]

/-- Where a handler is registered that accepts no topic, and nothing is attached under its key, a
number is given out, and nothing else happens but under the key. -/
theorem registerHandler_overlook {handler : H}
    (absent : ∀ topic list, r.snapshot topic = some list → ∀ a ∈ list, a.key ≠ key)
    (rejects : ∀ topic, r.hasTopic topic = true → accepts handler topic = false) :
    (r.apply accepts (.registerHandler key handler)).overlook key =
      { r.overlook key with lastSeq := r.lastSeq + 1 } := by
  have topics : ((r.deregisterHandler key).1).topics = r.topics := by
    unfold deregisterHandler
    split
    · exact detachEverywhere_of_absent absent
    · rfl
  have handlers : ((r.deregisterHandler key).1).handlers.erase key = r.handlers.erase key := by
    unfold deregisterHandler
    split
    · exact r.handlers.erase_erase key
    · rfl
  have attached : attachEverywhere accepts
      ((⟨r.lastSeq + 1, handler⟩ : Registration H).attachment key) r.topics = r.topics :=
    attachEverywhere_of_rejects rejects
  simp only [apply, registerHandler, lastSeq_deregisterHandler, topics, attached, overlook,
    Table.erase_insert, handlers]

end Registry

end TopicBroker
