import TopicBroker.Proofs.Registry.Coherence

/-!
# What lasts in a registry

A number that was given out and belongs to no handler any more never belongs to one again. An
attachment stays where it is until its handler is taken out or replaced or its topic is taken out,
even if the matcher has changed its mind.
-/

namespace TopicBroker

variable {H : Type}

namespace Change

/-- Whether a change takes the handler of a key out, be it to put another one in its place. -/
def TakesOut (key : String) (c : Change H) : Prop :=
  c = .deregisterHandler key ∨ ∃ handler, c = .registerHandler key handler

/-- Whether a change may end the attachment of a key to a topic. -/
def Touches (key topic : String) (c : Change H) : Prop :=
  c.TakesOut key ∨ c = .deregisterTopic topic

end Change

namespace Registry

variable {r : Registry H} {accepts : H → String → Bool}

/-- Whether a number was given out and belongs to no handler any more. -/
def Retired (r : Registry H) (seq : Nat) : Prop :=
  seq ≤ r.lastSeq ∧ ∀ key g, r.handlers.get? key = some g → g.seq ≠ seq

/-- A retired number stays retired. -/
theorem Retired.apply {seq : Nat} (h : r.Retired seq) (accepts : H → String → Bool)
    (c : Change H) : (r.apply accepts c).Retired seq := by
  obtain ⟨given, unused⟩ := h
  refine ⟨?_, ?_⟩
  · rw [lastSeq_apply]
    omega
  · intro key g entry
    cases c with
    | registerTopic name =>
      rw [Registry.apply, handlers_registerTopic] at entry
      exact unused key g entry
    | deregisterTopic name =>
      rw [Registry.apply, handlers_deregisterTopic] at entry
      exact unused key g entry
    | registerHandler other handler =>
      rw [Registry.apply, get?_handlers_registerHandler] at entry
      split at entry
      · cases entry
        exact Nat.ne_of_gt (Nat.lt_succ_of_le given)
      · exact unused key g entry
    | deregisterHandler other =>
      rw [Registry.apply, get?_handlers_deregisterHandler] at entry
      split at entry
      · cases entry
      · exact unused key g entry

/-- Taking a handler out or replacing it retires its number. -/
theorem Coherent.retired (h : r.Coherent) (accepts : H → String → Bool) {c : Change H}
    {key : String} (out : c.TakesOut key) {g : Registration H}
    (entry : r.handlers.get? key = some g) : (r.apply accepts c).Retired g.seq := by
  have given := h.bounded entry
  refine ⟨?_, ?_⟩
  · rw [lastSeq_apply]
    omega
  · intro other g' entry' same
    rcases out with rfl | ⟨handler, rfl⟩
    · rw [Registry.apply, get?_handlers_deregisterHandler] at entry'
      split at entry'
      · cases entry'
      · next ne => exact ne (h.distinct entry' entry same)
    · rw [Registry.apply, get?_handlers_registerHandler] at entry'
      split at entry'
      · cases entry'
        simp only at same
        omega
      · next ne => exact ne (h.distinct entry' entry same)

/-- A retired number is attached nowhere. -/
theorem Coherent.seq_ne_of_retired (h : r.Coherent) {seq : Nat} (retired : r.Retired seq)
    {topic : String} {list : List (Attachment H)} (found : r.snapshot topic = some list) :
    ∀ a ∈ list, a.seq ≠ seq :=
  fun a ha => retired.2 a.key ⟨a.seq, a.handler⟩ (h.current found a ha)

/-- Whether an attachment stands in the list of a topic. -/
def Attached (r : Registry H) (topic : String) (a : Attachment H) : Prop :=
  ∃ list, r.snapshot topic = some list ∧ a ∈ list

/-- An attachment of a topic stands in its list. -/
theorem Attached.mem {topic : String} {a : Attachment H} (h : r.Attached topic a)
    {list : List (Attachment H)} (found : r.snapshot topic = some list) : a ∈ list := by
  obtain ⟨list', here, mem⟩ := h
  rw [found] at here
  cases here
  exact mem

/-- Taking out a handler of another key leaves an attachment. -/
theorem Attached.deregisterHandler {topic : String} {a : Attachment H} (h : r.Attached topic a)
    {key : String} (other : key ≠ a.key) : (r.deregisterHandler key).1.Attached topic a := by
  obtain ⟨list, found, mem⟩ := h
  unfold Attached
  rw [snapshot_deregisterHandler, found]
  split
  · refine ⟨_, rfl, (List.mem_eraseP_of_neg ?_).mpr mem⟩
    simpa using other.symm
  · exact ⟨list, rfl, mem⟩

/-- A change that does not touch an attachment leaves it. -/
theorem Attached.apply {topic : String} {a : Attachment H} (h : r.Attached topic a)
    (accepts : H → String → Bool) {c : Change H} (untouched : ¬ c.Touches a.key topic) :
    (r.apply accepts c).Attached topic a := by
  cases c with
  | registerTopic name =>
    obtain ⟨list, found, mem⟩ := h
    refine ⟨list, ?_, mem⟩
    rw [Registry.apply, snapshot_registerTopic]
    split
    · next same => rw [← same, found, Option.getD_some]
    · exact found
  | deregisterTopic name =>
    obtain ⟨list, found, mem⟩ := h
    have other : topic ≠ name := fun same => untouched (.inr (by rw [same]))
    refine ⟨list, ?_, mem⟩
    rw [Registry.apply, snapshot_deregisterTopic, if_neg other, found]
  | registerHandler key handler =>
    have other : key ≠ a.key := fun same => untouched (.inl (.inr ⟨handler, by rw [same]⟩))
    obtain ⟨list, found, mem⟩ := h.deregisterHandler other
    refine ⟨_, by rw [Registry.apply, snapshot_registerHandler, found, Option.map_some], ?_⟩
    split
    · exact List.mem_append_left _ mem
    · exact mem
  | deregisterHandler key =>
    have other : key ≠ a.key := fun same => untouched (.inl (.inl (by rw [same])))
    exact h.deregisterHandler other

/-- A handler that is registered is attached to every topic that it accepts. -/
theorem attached_registerHandler (key : String) {handler : H} {topic : String}
    (present : r.hasTopic topic = true) (accepted : accepts handler topic = true) :
    (r.registerHandler accepts key handler).1.Attached topic (r.nextAttachment key handler) := by
  have present' : ((r.deregisterHandler key).1.snapshot topic).isSome = true := by
    rw [snapshot_deregisterHandler]
    rw [hasTopic_eq_isSome] at present
    split
    · rw [Option.isSome_map]
      exact present
    · exact present
  obtain ⟨list, found⟩ := Option.isSome_iff_exists.mp present'
  refine ⟨list ++ [r.nextAttachment key handler], ?_, by simp⟩
  rw [snapshot_registerHandler, found, Option.map_some, if_pos accepted]

/-- A topic that is new attaches every handler that accepts it. -/
theorem attached_registerTopic {topic : String} (absent : r.hasTopic topic = false)
    {a : Attachment H} (entry : r.handlers.get? a.key = some ⟨a.seq, a.handler⟩)
    (accepted : accepts a.handler topic = true) :
    (r.registerTopic accepts topic).1.Attached topic a := by
  have unknown : r.snapshot topic = none := by simpa [hasTopic_eq_isSome] using absent
  refine ⟨r.matching accepts topic, ?_, mem_matching.mpr ⟨entry, accepted⟩⟩
  rw [snapshot_registerTopic, if_pos rfl, unknown, Option.getD_none]

end Registry

end TopicBroker
