import Mathlib.Data.List.Sort
import TopicBroker.Proofs.Registry.Change

/-!
# Coherence of a registry

The lists of attachments are kept up to date piece by piece: a new topic collects the handlers that
accept it, a new handler is put at the end of lists, and taking a handler out drops the first
attachment of its key. All of that is right only because every attachment is the current
registration of its key, and because every list follows the numbers of the registrations. These
facts form one invariant of the registry, which every change keeps, whatever the handlers accept.
-/

namespace TopicBroker.Registry

variable {H : Type}

/-- The handlers that match a topic are the registered ones that accept it. -/
theorem mem_matching {accepts : H → String → Bool} {r : Registry H} {topic : String}
    {a : Attachment H} :
    a ∈ r.matching accepts topic ↔
      r.handlers.get? a.key = some ⟨a.seq, a.handler⟩ ∧ accepts a.handler topic = true := by
  simp only [matching, matchingAmong, inOrder, (List.mergeSort_perm _ _).mem_iff, List.mem_map,
    List.mem_filter, Table.get?_eq_some_iff]
  constructor
  · rintro ⟨⟨key, reg⟩, ⟨entry, accepted⟩, rfl⟩
    exact ⟨entry, accepted⟩
  · rintro ⟨entry, accepted⟩
    exact ⟨(a.key, ⟨a.seq, a.handler⟩), ⟨entry, accepted⟩, rfl⟩

/-- Whether an attachment was registered before another one. -/
def Earlier (a b : Attachment H) : Prop := a.seq < b.seq

instance : Std.Irrefl (Earlier (H := H)) := ⟨fun a => Nat.lt_irrefl a.seq⟩

instance : Std.Antisymm (Earlier (H := H)) :=
  ⟨fun _ _ ab ba => absurd (Nat.lt_trans ab ba) (Nat.lt_irrefl _)⟩

/-- Every attachment is the current registration of its key, the lists follow the numbers of the
registrations, and these numbers are different and were all given out. -/
structure Coherent (r : Registry H) : Prop where
  /-- The attachments of a topic stand in the order of their registrations. -/
  increasing : ∀ {topic list}, r.snapshot topic = some list → list.Pairwise Earlier
  /-- An attachment has the number and the handler that its key has now. -/
  current : ∀ {topic list}, r.snapshot topic = some list → ∀ a ∈ list,
    r.handlers.get? a.key = some ⟨a.seq, a.handler⟩
  /-- Handlers of different keys have different numbers. -/
  distinct : ∀ {key other g g'}, r.handlers.get? key = some g → r.handlers.get? other = some g' →
    g.seq = g'.seq → key = other
  /-- No number is above the last one. -/
  bounded : ∀ {key g}, r.handlers.get? key = some g → g.seq ≤ r.lastSeq

/-- A registry without topics and handlers is coherent. -/
theorem coherent_empty : Coherent (empty : Registry H) where
  increasing found := by simp at found
  current found := by simp at found
  distinct found := by simp [empty] at found
  bounded found := by simp [empty] at found

namespace Coherent

variable {r : Registry H}

/-- The handlers that match a topic stand in the order of their registrations. -/
theorem pairwise_matching (h : r.Coherent) (accepts : H → String → Bool) (topic : String) :
    (r.matching accepts topic).Pairwise Earlier := by
  have ordered : (r.matching accepts topic).Pairwise fun a b => decide (a.seq ≤ b.seq) = true :=
    List.pairwise_mergeSort (fun a b c ab bc => by simp only [decide_eq_true_eq] at *; omega)
      (fun a b => by simp only [Bool.or_eq_true, decide_eq_true_eq]; omega) _
  have different : (r.matching accepts topic).Pairwise fun a b => a.key ≠ b.key := by
    refine (List.mergeSort_perm _ _).symm.pairwise ?_ fun {_ _} => Ne.symm
    rw [List.pairwise_map]
    refine (r.handlers.sorted.filter _).imp ?_
    intro a b lt same
    have eq : a.1 = b.1 := same
    exact String.lt_irrefl b.1 (eq ▸ lt)
  refine (ordered.and different).imp_of_mem ?_
  intro a b ha hb ⟨le, ne⟩
  have apart : a.seq ≠ b.seq := fun same =>
    ne (h.distinct (mem_matching.mp ha).1 (mem_matching.mp hb).1 same)
  have le' : a.seq ≤ b.seq := of_decide_eq_true le
  exact Nat.lt_of_le_of_ne le' apart

/-- The keys in a list of attachments are different. -/
theorem keys_differ (h : r.Coherent) {topic : String} {list : List (Attachment H)}
    (found : r.snapshot topic = some list) : list.Pairwise fun a b => a.key ≠ b.key := by
  refine (h.increasing found).imp_of_mem ?_
  intro a b ha hb earlier same
  have entry := h.current found a ha
  rw [same, h.current found b hb] at entry
  have seq : b.seq = a.seq := congrArg Registration.seq (Option.some.inj entry)
  exact absurd earlier (by simp [Earlier, seq])

/-- No key occurs twice in a list of attachments. -/
theorem nodup_keys (h : r.Coherent) {topic : String} {list : List (Attachment H)}
    (found : r.snapshot topic = some list) : (list.map (·.key)).Nodup :=
  List.pairwise_map.mpr (h.keys_differ found)

/-- A key without a handler is attached nowhere. -/
theorem key_ne_of_absent (h : r.Coherent) {key topic : String} {list : List (Attachment H)}
    (absent : r.hasHandler key = false) (found : r.snapshot topic = some list) :
    ∀ a ∈ list, a.key ≠ key := by
  intro a ha same
  have entry := h.current found a ha
  simp [hasHandler_eq_isSome, ← same, entry] at absent

end Coherent

/-- Where the keys are different, dropping the first attachment of a key drops all of them. -/
theorem eraseP_key_eq_filter {list : List (Attachment H)} (key : String)
    (differ : list.Pairwise fun a b => a.key ≠ b.key) :
    (list.eraseP fun a => a.key == key) = list.filter fun a => a.key != key := by
  induction list with
  | nil => rfl
  | cons a rest ih =>
    obtain ⟨apart, differ'⟩ := List.pairwise_cons.mp differ
    by_cases same : a.key = key
    · have others : ∀ b ∈ rest, (b.key != key) = true := by
        intro b hb
        simpa [same] using (apart b hb).symm
      simp [same, List.filter_eq_self.mpr others]
    · simp [same, ih differ']

namespace Coherent

variable {r : Registry H}

/-- Taking a handler out drops every attachment of its key, whether it was registered or not. -/
theorem snapshot_deregisterHandler (h : r.Coherent) (key topic : String) :
    (r.deregisterHandler key).1.snapshot topic =
      (r.snapshot topic).map (·.filter fun a => a.key != key) := by
  rw [Registry.snapshot_deregisterHandler]
  cases found : r.snapshot topic with
  | none => simp
  | some list =>
    by_cases known : r.hasHandler key = true
    · simp only [known, if_true, Option.map_some, eraseP_key_eq_filter key (h.keys_differ found)]
    · have absent : r.hasHandler key = false := by simpa using known
      have kept : list.filter (fun a => a.key != key) = list :=
        List.filter_eq_self.mpr fun a ha => by
          simpa using h.key_ne_of_absent absent found a ha
      simp [absent, kept]

/-- Registering a topic keeps a registry coherent. -/
theorem registerTopic (h : r.Coherent) (accepts : H → String → Bool) (name : String) :
    (r.registerTopic accepts name).1.Coherent := by
  have cases_of {topic : String} {list : List (Attachment H)}
      (found : (r.registerTopic accepts name).1.snapshot topic = some list) :
      r.snapshot topic = some list ∨ list = r.matching accepts name := by
    rw [snapshot_registerTopic] at found
    split at found
    · next same =>
      subst same
      cases old : r.snapshot topic with
      | none => exact .inr (by simpa [old] using found.symm)
      | some known => exact .inl (by simpa [old] using found)
    · exact .inl found
  refine ⟨?_, ?_, ?_, ?_⟩
  · intro topic list found
    rcases cases_of found with old | rfl
    · exact h.increasing old
    · exact h.pairwise_matching accepts name
  · intro topic list found a ha
    rw [handlers_registerTopic]
    rcases cases_of found with old | rfl
    · exact h.current old a ha
    · exact (mem_matching.mp ha).1
  · intro key other g g' hg hg'
    rw [handlers_registerTopic] at hg hg'
    exact h.distinct hg hg'
  · intro key g hg
    rw [handlers_registerTopic] at hg
    rw [lastSeq_registerTopic]
    exact h.bounded hg

/-- Taking a topic out keeps a registry coherent. -/
theorem deregisterTopic (h : r.Coherent) (name : String) :
    (r.deregisterTopic name).1.Coherent := by
  have old {topic : String} {list : List (Attachment H)}
      (found : (r.deregisterTopic name).1.snapshot topic = some list) :
      r.snapshot topic = some list := by
    rw [snapshot_deregisterTopic] at found
    split at found
    · simp at found
    · exact found
  exact ⟨fun found => h.increasing (old found), fun found => h.current (old found),
    fun hg hg' => h.distinct hg hg', fun hg => h.bounded hg⟩

/-- Taking a handler out keeps a registry coherent. -/
theorem deregisterHandler (h : r.Coherent) (key : String) :
    (r.deregisterHandler key).1.Coherent := by
  have look {other : String} {g : Registration H}
      (hg : (r.deregisterHandler key).1.handlers.get? other = some g) :
      other ≠ key ∧ r.handlers.get? other = some g := by
    rw [get?_handlers_deregisterHandler] at hg
    split at hg
    · simp at hg
    · next ne => exact ⟨ne, hg⟩
  refine ⟨?_, ?_, ?_, ?_⟩
  · intro topic list found
    rw [h.snapshot_deregisterHandler] at found
    obtain ⟨before, old, rfl⟩ := Option.map_eq_some_iff.mp found
    exact (h.increasing old).filter _
  · intro topic list found a ha
    rw [h.snapshot_deregisterHandler] at found
    obtain ⟨before, old, rfl⟩ := Option.map_eq_some_iff.mp found
    obtain ⟨mem, ne⟩ := List.mem_filter.mp ha
    rw [get?_handlers_deregisterHandler, if_neg (by simpa using ne)]
    exact h.current old a mem
  · intro other other' g g' hg hg'
    exact h.distinct (look hg).2 (look hg').2
  · intro other g hg
    rw [lastSeq_deregisterHandler]
    exact h.bounded (look hg).2

/-- Registering a handler keeps a registry coherent: its number is above all others, so it may stand
last. -/
theorem registerHandler (h : r.Coherent) (accepts : H → String → Bool) (key : String)
    (handler : H) : (r.registerHandler accepts key handler).1.Coherent := by
  have detached := h.deregisterHandler key
  have entry {other : String} {g : Registration H}
      (hg : (r.registerHandler accepts key handler).1.handlers.get? other = some g) :
      other = key ∧ g = ⟨r.lastSeq + 1, handler⟩ ∨
        other ≠ key ∧ r.handlers.get? other = some g := by
    rw [get?_handlers_registerHandler] at hg
    split at hg
    · next same => exact .inl ⟨same, (Option.some.inj hg).symm⟩
    · next ne => exact .inr ⟨ne, hg⟩
  have listed {topic : String} {list : List (Attachment H)}
      (found : (r.registerHandler accepts key handler).1.snapshot topic = some list) :
      ∃ before, (r.deregisterHandler key).1.snapshot topic = some before ∧
        (list = before ∨ list = before ++ [r.nextAttachment key handler]) := by
    rw [snapshot_registerHandler] at found
    obtain ⟨before, old, rfl⟩ := Option.map_eq_some_iff.mp found
    refine ⟨before, old, ?_⟩
    split
    · exact .inr rfl
    · exact .inl rfl
  refine ⟨?_, ?_, ?_, ?_⟩
  · intro topic list found
    obtain ⟨before, old, rfl | rfl⟩ := listed found
    · exact detached.increasing old
    · refine List.pairwise_append.mpr ⟨detached.increasing old, by simp, ?_⟩
      intro a ha b hb
      have below : a.seq ≤ r.lastSeq := by
        simpa using detached.bounded (detached.current old a ha)
      obtain rfl := List.mem_singleton.mp hb
      exact Nat.lt_succ_of_le below
  · intro topic list found a ha
    obtain ⟨before, old, eq⟩ := listed found
    have known : a ∈ before ∨ a = r.nextAttachment key handler := by
      rcases eq with rfl | rfl
      · exact .inl ha
      · simpa using ha
    rw [get?_handlers_registerHandler]
    rcases known with mem | rfl
    · have kept := detached.current old a mem
      rw [get?_handlers_deregisterHandler] at kept
      split at kept
      · simp at kept
      · next ne => rw [if_neg ne, kept]
    · exact if_pos rfl
  · intro other other' g g' hg hg' same
    -- the new number is above all old ones, so it cannot be shared
    rcases entry hg with ⟨rfl, rfl⟩ | ⟨_, old⟩ <;> rcases entry hg' with ⟨rfl, rfl⟩ | ⟨_, old'⟩
    · rfl
    · have := h.bounded old'
      simp only at same
      omega
    · have := h.bounded old
      simp only at same
      omega
    · exact h.distinct old old' same
  · intro other g hg
    rw [lastSeq_registerHandler]
    rcases entry hg with ⟨_, rfl⟩ | ⟨_, old⟩
    · exact Nat.le_refl _
    · exact Nat.le_succ_of_le (h.bounded old)

/-- Every change keeps a registry coherent. -/
theorem apply (h : r.Coherent) (accepts : H → String → Bool) (c : Change H) :
    (r.apply accepts c).Coherent := by
  cases c with
  | registerTopic name => exact h.registerTopic accepts name
  | deregisterTopic name => exact h.deregisterTopic name
  | registerHandler key handler => exact h.registerHandler accepts key handler
  | deregisterHandler key => exact h.deregisterHandler key

end Coherent

/-- The registry after any log of changes is coherent. -/
theorem coherent_replay (log : List (MadeChange H)) : (replay log).Coherent := by
  induction log using List.reverseRecOn with
  | nil => exact coherent_empty
  | append_singleton log m ih =>
    rw [replay_append_singleton]
    exact ih.apply m.accepts m.change

/-- What the lists of a registry show about its handlers: nothing in them is out of date, now or
after a handler is taken out or replaced. -/
structure NoStaleAttachment (r : Registry H) : Prop where
  /-- The numbers in a list increase strictly. -/
  increasing : ∀ topic list, r.snapshot topic = some list → (list.map (·.seq)).Pairwise (· < ·)
  /-- No key occurs twice in a list. -/
  nodup : ∀ topic list, r.snapshot topic = some list → (list.map (·.key)).Nodup
  /-- An attachment has the number and the handler that its key has now. -/
  current : ∀ topic list, r.snapshot topic = some list → ∀ a ∈ list,
    r.handlers.get? a.key = some ⟨a.seq, a.handler⟩
  /-- The handlers of different keys have different numbers. -/
  distinct : ∀ key other g g', r.handlers.get? key = some g → r.handlers.get? other = some g' →
    key ≠ other → g.seq ≠ g'.seq
  /-- No number is above the last one. -/
  bounded : ∀ key g, r.handlers.get? key = some g → g.seq ≤ r.lastSeq
  /-- Dropping the first attachment of a key from every list drops all attachments of the key. -/
  detached : ∀ key topic, (detachEverywhere key r.topics).get? topic =
    (r.snapshot topic).map (·.filter fun a => a.key != key)
  /-- A handler that is taken out leaves no attachment behind. -/
  removed : ∀ key topic list, (r.deregisterHandler key).1.snapshot topic = some list →
    ∀ a ∈ list, a.key ≠ key
  /-- A handler that is replaced leaves no attachment behind. -/
  replaced : ∀ (accepts : H → String → Bool) key handler topic list,
    (r.registerHandler accepts key handler).1.snapshot topic = some list →
    ∀ a ∈ list, a.key = key → a.seq = r.lastSeq + 1 ∧ a.handler = handler

/-- In a coherent registry no attachment is stale. -/
theorem Coherent.noStaleAttachment {r : Registry H} (h : r.Coherent) : r.NoStaleAttachment where
  increasing topic list found := List.pairwise_map.mpr (h.increasing found)
  nodup topic list found := h.nodup_keys found
  current topic list found := h.current found
  distinct key other g g' hg hg' ne same := ne (h.distinct hg hg' same)
  bounded key g hg := h.bounded hg
  detached key topic := by
    rw [detachEverywhere, Table.get?_map]
    cases found : r.snapshot topic with
    | none =>
      have look : r.topics.get? topic = none := found
      simp [look]
    | some list =>
      have look : r.topics.get? topic = some list := found
      simp [look, eraseP_key_eq_filter key (h.keys_differ found)]
  removed key topic list found a ha := by
    rw [h.snapshot_deregisterHandler] at found
    obtain ⟨before, -, rfl⟩ := Option.map_eq_some_iff.mp found
    simpa using (List.mem_filter.mp ha).2
  replaced accepts key handler topic list found a ha same := by
    have entry := (h.registerHandler accepts key handler).current found a ha
    rw [get?_handlers_registerHandler, if_pos same] at entry
    have eq := Option.some.inj entry
    exact ⟨(congrArg Registration.seq eq).symm, (congrArg Registration.handler eq).symm⟩

/-- After any log of changes that registers fewer handlers than a word of 64 bits can count, no
attachment is stale, and every number fits into such a word. -/
theorem noStaleAttachment_replay (log : List (MadeChange H))
    (few : (log.countP fun m => m.change.takesNumber) < UInt64.size) :
    (replay log).NoStaleAttachment ∧ (replay log).lastSeq < UInt64.size := by
  have numbered := lastSeq_replay log
  exact ⟨(coherent_replay log).noStaleAttachment, by omega⟩

/-- A log in which matchers change their minds: a handler accepts a topic, its successor does not,
but accepts a topic that is registered later. -/
def changeOfMind : List (MadeChange Nat) :=
  [⟨fun _ _ => true, .registerTopic "a"⟩, ⟨fun _ _ => true, .registerHandler "k" 1⟩,
    ⟨fun _ _ => false, .registerHandler "k" 2⟩, ⟨fun _ _ => true, .registerTopic "b"⟩]

/-- The successor is attached to the later topic only, and no attachment is stale. -/
theorem noStaleAttachment_changeOfMind :
    (changeOfMind.countP fun m => m.change.takesNumber) < UInt64.size ∧
      (replay changeOfMind).attachedKeys "a" = [] ∧
      (replay changeOfMind).attachedKeys "b" = ["k"] ∧
      (replay changeOfMind).NoStaleAttachment ∧ (replay changeOfMind).lastSeq < UInt64.size :=
  ⟨by decide, by decide +kernel, by decide +kernel,
    noStaleAttachment_replay changeOfMind (by decide)⟩

end TopicBroker.Registry
