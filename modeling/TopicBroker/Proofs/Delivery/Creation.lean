import TopicBroker.Delivery.Creation
import TopicBroker.Proofs.Delivery.Effect
import TopicBroker.Proofs.Registry.Commutation
import TopicBroker.Proofs.Text.ByteOrder

/-!
# New brokers

A broker that is built from settings has the topics of the settings, without the blanks around their
names, and nothing else: no handlers, nothing counted, no ids drawn. A registry without handlers is
determined by the set of its topics, so neither the order of the topics nor their repetition
matters, also not where two of them differ in blanks only. There is one reason to give a broker up,
a topic of which nothing is left without blanks.
-/

namespace TopicBroker

namespace Registry

variable {H : Type} {names names' : List String} {name topic : String}

/-- The registry of the given topics, without handlers. -/
def bare (names : List String) : Registry H :=
  { topics := .ofList (names.map fun name => (name, [])), handlers := .empty, lastSeq := 0 }

/-- Its topics have empty lists. -/
theorem snapshot_bare (names : List String) (topic : String) :
    (bare names : Registry H).snapshot topic = if topic ∈ names then some [] else none := by
  rw [snapshot, bare]
  dsimp only
  induction names using List.reverseRecOn with
  | nil => rfl
  | append_singleton names name ih =>
    rw [Table.ofList] at ih ⊢
    rw [List.map_append, List.foldl_append, List.map_singleton, List.foldl_cons, List.foldl_nil,
      Table.get?_insert, ih]
    by_cases same : topic = name
    · simp [same]
    · simp [same]

/-- It has just the given topics. -/
theorem mem_listTopics_bare : topic ∈ (bare names : Registry H).listTopics ↔ topic ∈ names := by
  rw [listTopics, Table.mem_names]
  change (snapshot (bare names : Registry H) topic).isSome = true ↔ _
  rw [snapshot_bare]
  split <;> simp_all

/-- It is determined by which topics there are. -/
theorem bare_congr (same : ∀ name, name ∈ names ↔ name ∈ names') :
    (bare names : Registry H) = bare names' := by
  refine eq_of_lookups (fun topic => ?_) (fun _ => rfl) rfl
  rw [snapshot_bare, snapshot_bare]
  simp only [same]

/-- Nothing matches a further topic, so registering it is having one more. -/
theorem registerTopic_bare (accepts : H → String → Bool) (names : List String) (name : String) :
    ((bare names).registerTopic accepts name).1 = bare (names ++ [name]) := by
  refine eq_of_lookups (fun topic => ?_) (fun key => ?_) ?_
  · have none : (bare names).matching accepts name = [] := by
      simp [matching, matchingAmong, inOrder, bare, Table.empty]
    rw [snapshot_registerTopic, none, snapshot_bare, snapshot_bare, snapshot_bare]
    by_cases same : topic = name
    · subst same
      by_cases known : topic ∈ names <;> simp [known]
    · simp [same]
  · rw [handlers_registerTopic]
    rfl
  · rw [lastSeq_registerTopic]
    rfl

end Registry

namespace Broker

variable {w w' : World} {names topics : List String} {u : UnfinishedBroker}

/-- Registering a topic changes nothing of a broker but its registry. -/
theorem broker_registerTopic (w : World) (name : String) :
    (w.registerTopic name).1.broker =
      { w.broker with registry := (w.broker.registry.registerTopic w.accepts name).1 } := by
  have asks : World.change? (.registerTopic name) = some (.registerTopic name) := rfl
  obtain ⟨history, eq⟩ := w.perform_eq_apply asks
  exact congrArg World.broker eq

/-- A topic of which only blanks are there is one of which nothing is left without them. -/
theorem isBlankText_iff {t : String} : Text.isBlankText t = true ↔ Text.trim t = "" :=
  String.isEmpty_iff

/-- Where no handler is registered, the topics are registered that have names, without the blanks
around them. -/
theorem broker_registerNamed (bare : w.broker.registry = .bare names)
    (made : registerNamed w topics = .ok w') :
    w'.broker = { w.broker with registry := .bare (names ++ topics.map Text.trim) } := by
  induction topics generalizing w names with
  | nil =>
    cases made
    rw [List.map_nil, List.append_nil, ← bare]
  | cons t rest ih =>
    unfold registerNamed at made
    split at made
    · cases made
    · have first := broker_registerTopic w (Text.trim t)
      rw [bare, Registry.registerTopic_bare] at first
      rw [ih (congrArg Broker.registry first) made, first, List.map_cons, List.append_assoc]
      rfl

/-- A broker is given up for one reason only, and nothing is added to it. -/
theorem report_registerNamed (given : registerNamed w topics = .error u) :
    u.report = { cause := namelessTopic } := by
  induction topics generalizing w with
  | nil => cases given
  | cons t rest ih =>
    unfold registerNamed Outcome.ensure at given
    split at given
    · next report refused =>
      split at refused
      · cases refused
      · cases refused
        cases given
        rfl
    · exact ih given

/-- A broker is built unless nothing is left of the name of a topic without the blanks around it. -/
theorem isOk_fromSettings (s : Settings) (seed : UInt64) :
    (fromSettings s seed).isOk = true ↔ "" ∉ s.topics.map Text.trim := by
  rw [fromSettings, isOk_registerNamed, List.all_eq_true, List.mem_map, not_exists]
  simp only [Bool.not_eq_true', ← Bool.not_eq_true, isBlankText_iff, not_and]

/-- The broker that is built from settings. -/
theorem broker_fromSettings {s : Settings} {seed : UInt64} (made : fromSettings s seed = .ok w) :
    w.broker = { strategy := s.matchStrategy, ids := s.ids seed,
                 registry := .bare (s.topics.map Text.trim) } := by
  have noTopics : (world { strategy := s.matchStrategy, ids := s.ids seed }).broker.registry =
      .bare [] := rfl
  exact broker_registerNamed noTopics made

/-- What becomes of settings: a broker, or the reason why there is none. -/
def ofSettings (s : Settings) (seed : UInt64) : Except Report Broker :=
  ((fromSettings s seed).map World.broker).mapError UnfinishedBroker.report

/-- Of the topics nothing counts but which names they are without blanks. -/
theorem ofSettings_eq (s : Settings) (seed : UInt64) :
    ofSettings s seed =
      if "" ∈ s.topics.map Text.trim then .error { cause := namelessTopic }
      else .ok { strategy := s.matchStrategy, ids := s.ids seed,
                 registry := .bare (s.topics.map Text.trim) } := by
  have isOk := isOk_fromSettings s seed
  unfold ofSettings
  cases made : fromSettings s seed with
  | ok w =>
    rw [made] at isOk
    rw [if_neg (isOk.mp rfl), ← broker_fromSettings made]
    rfl
  | error u =>
    rw [made] at isOk
    have nameless : "" ∈ s.topics.map Text.trim := by
      by_contra named
      exact Bool.false_ne_true (isOk.mpr named)
    rw [if_pos nameless, ← report_registerNamed made]
    rfl

/-- Topics with the same names make no difference. -/
theorem ofSettings_congr (s : Settings) (seed : UInt64) {topics : List String}
    (same : ∀ name, name ∈ topics.map Text.trim ↔ name ∈ s.topics.map Text.trim) :
    ofSettings { s with topics } seed = ofSettings s seed := by
  rw [ofSettings_eq, ofSettings_eq]
  simp only [same, Registry.bare_congr same]
  rfl

/-- A broker as it is built from settings. -/
structure IsNew (b : Broker) (s : Settings) (seed : UInt64) : Prop where
  /-- Its topics are listed in the order of their bytes, each of them once. -/
  ascending : Text.Ascending b.registry.listTopics
  /-- They are those of the settings, without the blanks around their names. -/
  listed : ∀ topic, topic ∈ b.registry.listTopics ↔ topic ∈ s.topics.map Text.trim
  /-- No handler is registered. -/
  handlers : b.registry.listHandlerKeys = [] ∧ b.registry.handlerCount = 0
  /-- No handler is attached to a topic. -/
  attachments : ∀ topic ∈ b.registry.listTopics, b.registry.snapshot topic = some []
  /-- Nothing was counted. -/
  stats : b.stats = { emitted := 0, delivered := 0, topicMisses := 0 }
  /-- Patterns are read as the settings say. -/
  strategy : b.strategy = s.matchStrategy
  /-- Ids are made as the settings say. -/
  ids : b.ids = s.ids seed
  /-- None of them was drawn. -/
  drawn : b.ids.drawn = 0

/-- If all topics have names, such a broker is built. -/
theorem exists_isNew {s : Settings} (named : ∀ t ∈ s.topics, Text.trim t ≠ "") (seed : UInt64) :
    ∃ w, fromSettings s seed = .ok w ∧ w.broker.IsNew s seed := by
  have isOk : (fromSettings s seed).isOk = true := by
    rw [isOk_fromSettings, List.mem_map]
    rintro ⟨t, mem, nameless⟩
    exact named t mem nameless
  have drawn : (s.ids seed).drawn = 0 := by
    unfold Settings.ids
    cases s.idGenerator <;> rfl
  cases made : fromSettings s seed with
  | error u =>
    rw [made] at isOk
    cases isOk
  | ok w =>
    refine ⟨w, rfl, ?_⟩
    rw [broker_fromSettings made]
    exact
      { ascending := Text.ascending_of_pairwise_lt (Table.names_sorted _)
        listed := fun topic => Registry.mem_listTopics_bare
        handlers := ⟨rfl, rfl⟩
        attachments := fun topic mem => by
          rw [Registry.snapshot_bare, if_pos (Registry.mem_listTopics_bare.mp mem)]
        stats := rfl
        strategy := rfl
        ids := rfl
        drawn := drawn }

/-- What comes of building a broker from settings. -/
structure Building (s : Settings) (seed : UInt64) : Prop where
  /-- It fails if and only if one of the topics has no name, wherever it stands. -/
  fails_iff : (∃ u, fromSettings s seed = .error u) ↔ ∃ t ∈ s.topics, Text.trim t = ""
  /-- Then the topics are said to be invalid, and nothing is added to that. -/
  failure : ∀ u, fromSettings s seed = .error u →
    u.report.status = .invalidArgs ∧ u.report.contexts = []
  /-- Otherwise there is a new broker. -/
  success : (∀ t ∈ s.topics, Text.trim t ≠ "") →
    ∃ w, fromSettings s seed = .ok w ∧ w.broker.IsNew s seed
  /-- The order of the topics does not matter. -/
  order : ∀ topics, topics.Perm s.topics → ofSettings { s with topics } seed = ofSettings s seed
  /-- Neither does it matter how often they occur and which blanks are around their names. -/
  spelling : ∀ topics, (∀ name, name ∈ topics.map Text.trim ↔ name ∈ s.topics.map Text.trim) →
    ofSettings { s with topics } seed = ofSettings s seed

/-- A broker is built from settings unless one of the topics has no name, and it has the topics of
the settings and nothing else. -/
theorem building (s : Settings) (seed : UInt64) : Building s seed := by
  refine ⟨?_, fun u given => ?_, fun named => ?_, fun topics perm => ?_, fun topics same => ?_⟩
  · rw [← List.mem_map, ← not_iff_not, ← isOk_fromSettings s seed]
    cases fromSettings s seed <;> simp [Except.isOk, Except.toBool]
  · rw [report_registerNamed given]
    exact ⟨rfl, rfl⟩
  · exact exists_isNew named seed
  · exact ofSettings_congr s seed fun name => (perm.map Text.trim).mem_iff
  · exact ofSettings_congr s seed same

example : ((ofSettings { topics := ["b ", "a", "\tb"] } 0).map fun b => b.registry.listTopics) =
    .ok ["a", "b"] := by decide +kernel

end Broker

end TopicBroker
