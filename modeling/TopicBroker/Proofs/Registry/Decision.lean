import TopicBroker.Proofs.Registry.Lasting

/-!
# What decides an attachment

Whether a handler is attached to a topic is decided by the change that registers the later one of the
two: it asks the matcher, and attaches the handler or does not. The changes that follow leave that as
it is until one of them takes the handler or the topic out.
-/

namespace TopicBroker.Registry

variable {H : Type} {r : Registry H} {accepts : H → String → Bool} {c : Change H}
  {key topic : String}

/-- After a change a topic is registered if it was and is not taken out, or if it was registered just
now. -/
theorem hasTopic_apply : (r.apply accepts c).hasTopic topic = true ↔
    r.hasTopic topic = true ∧ c ≠ .deregisterTopic topic ∨ c = .registerTopic topic := by
  cases c with
  | registerTopic name =>
    rw [apply, hasTopic_eq_isSome, snapshot_registerTopic]
    by_cases same : topic = name
    · simp [same]
    · simp [same, Ne.symm same, hasTopic_eq_isSome]
  | deregisterTopic name =>
    rw [apply, hasTopic_eq_isSome, snapshot_deregisterTopic]
    by_cases same : topic = name
    · simp [same]
    · simp [same, Ne.symm same, hasTopic_eq_isSome]
  | registerHandler other handler =>
    rw [apply, hasTopic_eq_isSome, snapshot_registerHandler, Option.isSome_map,
      snapshot_deregisterHandler]
    split <;> simp [hasTopic_eq_isSome]
  | deregisterHandler other =>
    rw [apply, hasTopic_eq_isSome, snapshot_deregisterHandler]
    split <;> simp [hasTopic_eq_isSome]

/-- After a change a key has the registration it had, if that is not taken out, or the one that was
made just now. -/
theorem get?_handlers_apply {g : Registration H} :
    (r.apply accepts c).handlers.get? key = some g ↔
      r.handlers.get? key = some g ∧ ¬ c.TakesOut key ∨
        c = .registerHandler key g.handler ∧ g.seq = r.lastSeq + 1 := by
  cases c with
  | registerTopic name => simp [apply, Change.TakesOut]
  | deregisterTopic name => simp [apply, Change.TakesOut]
  | registerHandler other handler =>
    rw [apply, get?_handlers_registerHandler]
    by_cases same : key = other
    · obtain ⟨seq, own⟩ := g
      simp only [same, Change.TakesOut, if_true, Option.some.injEq, Registration.mk.injEq,
        Change.registerHandler.injEq, true_and]
      grind
    · simp [same, Ne.symm same, Change.TakesOut]
  | deregisterHandler other =>
    rw [apply, get?_handlers_deregisterHandler]
    by_cases same : key = other
    · simp [same, Change.TakesOut]
    · simp [same, Ne.symm same, Change.TakesOut]

/-- A change that does not take a handler out leaves it registered, or not. -/
theorem hasHandler_apply (others : ¬ c.TakesOut key) :
    (r.apply accepts c).hasHandler key = r.hasHandler key := by
  rw [Bool.eq_iff_iff, hasHandler_eq_isSome, hasHandler_eq_isSome, Option.isSome_iff_exists,
    Option.isSome_iff_exists]
  refine exists_congr fun g => ?_
  rw [get?_handlers_apply, and_iff_left others]
  exact or_iff_left fun made => others (.inr ⟨g.handler, made.1⟩)

/-- A handler that is registered is there. -/
theorem hasHandler_registerHandler (handler : H) :
    (r.apply accepts (.registerHandler key handler)).hasHandler key = true := by
  rw [apply, hasHandler_eq_isSome, get?_handlers_registerHandler, if_pos rfl, Option.isSome_some]

/-- A key is attached to a topic exactly if an attachment of the key stands in the list of the topic.
-/
theorem mem_attachedKeys :
    key ∈ r.attachedKeys topic ↔ ∃ list, r.snapshot topic = some list ∧ ∃ a ∈ list, a.key = key := by
  unfold attachedKeys
  cases r.snapshot topic <;> simp

/-- A key that is attached to a topic stays attached, and one that is not attached stays away, unless
a change touches the two. -/
theorem mem_attachedKeys_apply (present : r.hasTopic topic = true)
    (untouched : ¬ c.Touches key topic) :
    key ∈ (r.apply accepts c).attachedKeys topic ↔ key ∈ r.attachedKeys topic := by
  obtain ⟨list, found⟩ := Option.isSome_iff_exists.mp present
  replace found : r.snapshot topic = some list := found
  have detached {other : String} (ne : other ≠ key) :
      (∃ a ∈ list.eraseP fun a => a.key == other, a.key = key) ↔ ∃ a ∈ list, a.key = key := by
    refine exists_congr fun a => and_congr_left fun own => ?_
    exact List.mem_eraseP_of_neg (by simpa [own] using ne.symm)
  have without {other : String} (ne : other ≠ key) :
      ∃ rest, (r.deregisterHandler other).1.snapshot topic = some rest ∧
        ((∃ a ∈ rest, a.key = key) ↔ ∃ a ∈ list, a.key = key) := by
    rw [snapshot_deregisterHandler, found]
    split
    · exact ⟨_, rfl, detached ne⟩
    · exact ⟨list, rfl, Iff.rfl⟩
  have before : key ∈ r.attachedKeys topic ↔ ∃ a ∈ list, a.key = key := by
    simp [mem_attachedKeys, found]
  rw [before, mem_attachedKeys]
  cases c with
  | registerTopic name =>
    rw [apply, snapshot_registerTopic]
    by_cases same : topic = name
    · simp [← same, found]
    · simp [same, found]
  | deregisterTopic name =>
    have other : topic ≠ name := fun same => untouched (.inr (by rw [same]))
    simp [apply, snapshot_deregisterTopic, other, found]
  | registerHandler other handler =>
    have ne : other ≠ key := fun same => untouched (.inl (.inr ⟨handler, by rw [same]⟩))
    obtain ⟨rest, found', same⟩ := without ne
    rw [apply, snapshot_registerHandler, found', ← same]
    by_cases accepted : accepts handler topic = true
    · simp [accepted, nextAttachment, or_and_right, exists_or, ne]
    · simp [accepted]
  | deregisterHandler other =>
    have ne : other ≠ key := fun same => untouched (.inl (.inl (by rw [same])))
    obtain ⟨rest, found', same⟩ := without ne
    simp [apply, found', same]

/-- A handler that is registered is attached to a registered topic exactly if it accepts it. -/
theorem Coherent.mem_attachedKeys_registerHandler (h : r.Coherent)
    (present : r.hasTopic topic = true) {handler : H} :
    key ∈ (r.registerHandler accepts key handler).1.attachedKeys topic ↔
      accepts handler topic = true := by
  obtain ⟨list, found⟩ := Option.isSome_iff_exists.mp present
  replace found : r.snapshot topic = some list := found
  rw [mem_attachedKeys, snapshot_registerHandler, h.snapshot_deregisterHandler, found]
  by_cases accepted : accepts handler topic = true
  · simp [accepted, nextAttachment]
  · simp [accepted]

/-- To a topic that is new a registered handler is attached exactly if it accepts the topic. -/
theorem mem_attachedKeys_registerTopic (absent : r.hasTopic topic = false) {g : Registration H}
    (entry : r.handlers.get? key = some g) :
    key ∈ (r.registerTopic accepts topic).1.attachedKeys topic ↔
      accepts g.handler topic = true := by
  have unknown : r.snapshot topic = none := by simpa [hasTopic_eq_isSome] using absent
  rw [mem_attachedKeys, snapshot_registerTopic, if_pos rfl, unknown, Option.getD_none]
  constructor
  · rintro ⟨list, found, a, ha, rfl⟩
    obtain rfl := Option.some.inj found
    obtain ⟨own, accepted⟩ := mem_matching.mp ha
    rw [entry, Option.some.injEq] at own
    rwa [own]
  · intro accepted
    exact ⟨_, rfl, g.attachment key, mem_matching.mpr ⟨entry, accepted⟩, rfl⟩

end TopicBroker.Registry
