import TopicBroker.Proofs.Delivery.Act

/-!
# What becomes of the world

The parts of the world that an act changes, and how. The registry changes by the changes that are
asked for, publications are numbered when they find their topic, and the contexts that are kept
under names change only when one is kept. Nothing else touches them; in particular no delivery does.
-/

namespace TopicBroker

namespace World

/-- Registering a topic changes the registry as the registry says. -/
theorem registry_registerTopic (w : World) (name : String) :
    (w.registerTopic name).1.broker.registry =
      (w.broker.registry.registerTopic w.accepts name).1 := by
  by_cases known : w.broker.registry.hasTopic name = true
  · simp [registerTopic, Registry.registerTopic, known]
  · simp [registerTopic, Registry.registerTopic, known, record, withRegistry]

/-- The answer says whether the topic is new. -/
theorem snd_registerTopic (w : World) (name : String) :
    (w.registerTopic name).2 = !w.broker.registry.hasTopic name := by
  by_cases known : w.broker.registry.hasTopic name = true
  · simp [registerTopic, Registry.registerTopic, known]
  · simp [registerTopic, Registry.registerTopic, known]

/-- Taking a topic out changes the registry as the registry says. -/
theorem registry_deregisterTopic (w : World) (name : String) :
    (w.deregisterTopic name).1.broker.registry =
      (w.broker.registry.deregisterTopic name).1 := by
  by_cases known : w.broker.registry.hasTopic name = true
  · simp [deregisterTopic, Registry.deregisterTopic, known, record, withRegistry]
  · have absent : w.broker.registry.topics.get? name = none := by
      simpa [Registry.hasTopic, Table.contains] using known
    simp [deregisterTopic, Registry.deregisterTopic, known, Table.erase_of_get?_eq_none absent]

/-- The answer says whether the topic was registered. -/
theorem snd_deregisterTopic (w : World) (name : String) :
    (w.deregisterTopic name).2 = w.broker.registry.hasTopic name := by
  by_cases known : w.broker.registry.hasTopic name = true
  · simp [deregisterTopic, Registry.deregisterTopic, known]
  · simp [deregisterTopic, Registry.deregisterTopic, known]

/-- Taking a handler out changes the registry as the registry says. -/
theorem registry_deregisterHandler (w : World) (key : String) :
    (w.deregisterHandler key).1.broker.registry =
      (w.broker.registry.deregisterHandler key).1 := by
  by_cases known : w.broker.registry.hasHandler key = true
  · simp [deregisterHandler, Registry.deregisterHandler, known, record, withRegistry]
  · simp [deregisterHandler, Registry.deregisterHandler, known]

/-- The answer says whether the handler was registered. -/
theorem snd_deregisterHandler (w : World) (key : String) :
    (w.deregisterHandler key).2 = w.broker.registry.hasHandler key := by
  by_cases known : w.broker.registry.hasHandler key = true
  · simp [deregisterHandler, Registry.deregisterHandler, known]
  · simp [deregisterHandler, Registry.deregisterHandler, known]

/-- What registering a handler writes into the history leaves all else. -/
theorem registerHandler_eq (w : World) (key : String) (h : Handler) :
    ∃ history, w.registerHandler key h =
      { w.withRegistry (w.broker.registry.registerHandler w.accepts key h).1 with history } := by
  unfold registerHandler noteInvalid
  dsimp only
  split <;> cases (w.broker.registry.registerHandler w.accepts key h).2.detached <;>
    exact ⟨_, rfl⟩

/-- Registering a handler changes the registry as the registry says. -/
theorem registry_registerHandler (w : World) (key : String) (h : Handler) :
    (w.registerHandler key h).broker.registry =
      (w.broker.registry.registerHandler w.accepts key h).1 := by
  obtain ⟨history, eq⟩ := w.registerHandler_eq key h
  rw [eq]
  rfl

/-- The change of the registry that an operation asks for. -/
def change? : Operation → Option (Change Handler)
  | .registerTopic name => some (.registerTopic name)
  | .deregisterTopic name => some (.deregisterTopic name)
  | .deregisterHandler key => some (.deregisterHandler key)
  | _ => none

/-- Changing topics and handlers changes the registry and the history, and leaves all else. -/
theorem perform_eq (w : World) {op : Operation} {c : Change Handler} (h : change? op = some c) :
    ∃ registry history, (w.perform op).1 = { w.withRegistry registry with history } := by
  cases op with
  | registerTopic name =>
    by_cases known : w.broker.registry.hasTopic name = true
    · refine ⟨w.broker.registry, w.history, ?_⟩
      simp [perform, registerTopic, Registry.registerTopic, known, withRegistry]
    · simp only [perform, registerTopic, Registry.registerTopic, known]
      exact ⟨_, _, rfl⟩
  | deregisterTopic name =>
    by_cases known : w.broker.registry.hasTopic name = true
    · simp only [perform, deregisterTopic, Registry.deregisterTopic, known]
      exact ⟨_, _, rfl⟩
    · refine ⟨w.broker.registry, w.history, ?_⟩
      simp [perform, deregisterTopic, Registry.deregisterTopic, known, withRegistry]
  | deregisterHandler key =>
    by_cases known : w.broker.registry.hasHandler key = true
    · simp only [perform, deregisterHandler, Registry.deregisterHandler, known]
      exact ⟨_, _, rfl⟩
    · refine ⟨w.broker.registry, w.history, ?_⟩
      simp [perform, deregisterHandler, Registry.deregisterHandler, known, withRegistry]
  | _ => simp [change?] at h

/-- An operation changes the registry by the change that it asks for. -/
theorem registry_perform (w : World) (op : Operation) :
    (w.perform op).1.broker.registry =
      ((change? op).map (w.broker.registry.apply w.accepts)).getD w.broker.registry := by
  cases op with
  | registerTopic name => exact w.registry_registerTopic name
  | deregisterTopic name => exact w.registry_deregisterTopic name
  | deregisterHandler key => exact w.registry_deregisterHandler key
  | _ => rfl

/-- An operation that asks for a change of the registry makes it, writes into the history, and
leaves all else. -/
theorem perform_eq_apply (w : World) {op : Operation} {c : Change Handler}
    (asks : change? op = some c) : ∃ history,
      (w.perform op).1 = { w.withRegistry (w.broker.registry.apply w.accepts c) with history } := by
  obtain ⟨registry, history, eq⟩ := w.perform_eq asks
  have same : (w.perform op).1.broker.registry = w.broker.registry.apply w.accepts c := by
    rw [registry_perform, asks, Option.map_some, Option.getD_some]
  have own : registry = w.broker.registry.apply w.accepts c := by
    rw [← same, eq]
    rfl
  exact ⟨history, own ▸ eq⟩

/-- No operation is a publication: none is counted, and no id is drawn. -/
theorem perform_frame (w : World) (op : Operation) :
    (w.perform op).1.publications = w.publications ∧
      (w.perform op).1.broker.ids = w.broker.ids ∧
      (w.perform op).1.broker.stats = w.broker.stats := by
  cases changes : change? op with
  | some c =>
    obtain ⟨registry, history, eq⟩ := w.perform_eq changes
    rw [eq]
    exact ⟨rfl, rfl, rfl⟩
  | none =>
    cases op with
    | registerTopic => cases changes
    | deregisterTopic => cases changes
    | deregisterHandler => cases changes
    | _ => exact ⟨rfl, rfl, rfl⟩

/-- Registering a handler is no publication either. -/
theorem registerHandler_frame (w : World) (key : String) (h : Handler) :
    (w.registerHandler key h).publications = w.publications ∧
      (w.registerHandler key h).broker.ids = w.broker.ids ∧
      (w.registerHandler key h).broker.stats = w.broker.stats := by
  obtain ⟨history, eq⟩ := w.registerHandler_eq key h
  rw [eq]
  exact ⟨rfl, rfl, rfl⟩

/-- Whether an operation keeps a context under a name. -/
def Keeps (name : String) : Operation → Prop
  | .keepContext other _ => other = name
  | _ => False

/-- Changing topics and handlers leaves all contexts. -/
theorem contexts_perform (w : World) {op : Operation} {c : Change Handler}
    (asks : change? op = some c) : (w.perform op).1.contexts = w.contexts := by
  obtain ⟨registry, history, eq⟩ := w.perform_eq asks
  rw [eq]
  rfl

/-- The context of a name stays unless one is kept under it. -/
theorem named_perform (w : World) {op : Operation} {name : String} (other : ¬ Keeps name op) :
    (w.perform op).1.contexts.named.get? name = w.contexts.named.get? name := by
  cases op with
  | registerTopic name => rw [w.contexts_perform rfl]
  | deregisterTopic name => rw [w.contexts_perform rfl]
  | deregisterHandler key => rw [w.contexts_perform rfl]
  | fetchContext kept =>
    simp only [perform, ContextStore.fetch]
    split <;> rfl
  | keepContext kept c =>
    have ne : name ≠ kept := fun eq => other eq.symm
    simp [perform, ContextStore.keep, Table.get?_insert, ne]
  | _ => rfl

end World

namespace Act

/-- The change of the registry that an act makes. -/
def change? : Act → Option (Change Handler)
  | .perform op => World.change? op
  | .subscribe key handler => some (.registerHandler key handler)
  | _ => none

/-- Whether an act keeps a context under a name. -/
def Keeps (name : String) : Act → Prop
  | .perform op => World.Keeps name op
  | _ => False

/-- The publication that an act finds a topic for. -/
def lookup? : Act → Option Lookup
  | .publish l => some l
  | _ => none

theorem lookup?_eq_some_iff {a : Act} {l : Lookup} : a.lookup? = some l ↔ a = .publish l := by
  cases a <;> simp [lookup?]

/-- Whether a publication does not find its topic. -/
def isMiss : Act → Bool
  | .miss _ => true
  | _ => false

/-- The counts of a broker after an act. -/
def tally (s : Stats) : Act → Stats
  | .miss _ => { s with topicMisses := s.topicMisses + 1 }
  | .publish _ => { s with emitted := s.emitted + 1 }
  | .returns _ => { s with delivered := s.delivered + 1 }
  | _ => s

end Act

namespace Execution

/-- The publication that the program asks for now. -/
def attempt? (e : Execution) : Option Publication :=
  match e.control with
  | .running (.publish p _ _) => some p
  | _ => none

/-- Whether the program publishes now, and the topic is registered. -/
def finds (e : Execution) : Bool :=
  e.attempt?.any fun p => e.world.broker.registry.hasTopic p.topic

/-- Whether the program publishes now, and the topic is not registered. -/
def misses (e : Execution) : Bool :=
  e.attempt?.any fun p => !e.world.broker.registry.hasTopic p.topic

/-- What a publication finds is its act. -/
theorem attempt_cases (e : Execution) :
    (e.attempt? = none ∧ e.act.lookup? = none ∧ e.act.isMiss = false) ∨
      ∃ p, e.attempt? = some p ∧
        ((e.world.broker.registry.snapshot p.topic = none ∧ e.act = .miss p.topic) ∨
          ∃ l, l.publication = p ∧
            e.world.broker.registry.snapshot p.topic = some l.attachments ∧ e.act = .publish l) := by
  have m := move e
  generalize e.act = a at m ⊢
  generalize e.step = e' at m
  cases m with
  | miss absent => exact .inr ⟨_, rfl, .inl ⟨absent, rfl⟩⟩
  | @publish frames l found => exact .inr ⟨_, rfl, .inr ⟨l, rfl, found, rfl⟩⟩
  | stay ended =>
    refine .inl ⟨?_, rfl, rfl⟩
    unfold isOver at ended
    unfold attempt?
    split at ended
    · next eq => simp [eq]
    · next eq => simp [eq]
    · cases ended
  | _ => exact .inl ⟨rfl, rfl, rfl⟩

variable (e : Execution)

/-- A publication finds its topic exactly if the topic is registered. -/
theorem finds_eq : e.finds = e.act.lookup?.isSome := by
  obtain ⟨asks, act, -⟩ | ⟨p, asks, ⟨found, act⟩ | ⟨l, -, found, act⟩⟩ := e.attempt_cases
  · simp [finds, asks, act]
  · simp [finds, asks, act, Act.lookup?, Registry.hasTopic_eq_isSome, found]
  · simp [finds, asks, act, Act.lookup?, Registry.hasTopic_eq_isSome, found]

/-- A publication misses its topic exactly if the topic is not registered. -/
theorem misses_eq : e.misses = e.act.isMiss := by
  obtain ⟨asks, -, act⟩ | ⟨p, asks, ⟨found, act⟩ | ⟨l, -, found, act⟩⟩ := e.attempt_cases
  · simp [misses, asks, act]
  · simp [misses, asks, act, Act.isMiss, Registry.hasTopic_eq_isSome, found]
  · simp [misses, asks, act, Act.isMiss, Registry.hasTopic_eq_isSome, found]

namespace Move

variable {e e' : Execution} {a : Act}

/-- The registry changes by the change that an act makes, and by nothing else. -/
theorem registry (m : Move e a e') :
    e'.world.broker.registry =
      (a.change?.map (e.world.broker.registry.apply e.world.accepts)).getD
        e.world.broker.registry := by
  cases m with
  | perform => exact World.registry_perform _ _
  | subscribe => exact World.registry_registerHandler _ _ _
  | call waiting called =>
    obtain ⟨-, rfl⟩ := Prod.mk.inj called
    rfl
  | _ => rfl

/-- A publication takes the next number when it finds its topic. -/
theorem publications (m : Move e a e') :
    e'.world.publications = e.world.publications + a.lookup?.toList.length := by
  cases m with
  | perform => exact (World.perform_frame _ _).1
  | subscribe => exact (World.registerHandler_frame _ _ _).1
  | call waiting called =>
    obtain ⟨-, rfl⟩ := Prod.mk.inj called
    rfl
  | _ => rfl

/-- Ids are drawn for the messages of publications, and for nothing else. -/
theorem ids (m : Move e a e') :
    e'.world.broker.ids =
      (a.lookup?.map fun l => (World.parcel e.world.broker.ids l.publication).2).getD
        e.world.broker.ids := by
  cases m with
  | perform => exact (World.perform_frame _ _).2.1
  | subscribe => exact (World.registerHandler_frame _ _ _).2.1
  | call waiting called =>
    obtain ⟨-, rfl⟩ := Prod.mk.inj called
    rfl
  | _ => rfl

/-- Publications are counted when they find a topic or find none, and calls when they return. Nothing
else is counted. -/
theorem stats (m : Move e a e') : e'.world.broker.stats = a.tally e.world.broker.stats := by
  cases m with
  | perform => exact (World.perform_frame _ _).2.2
  | subscribe => exact (World.registerHandler_frame _ _ _).2.2
  | call waiting called =>
    obtain ⟨-, rfl⟩ := Prod.mk.inj called
    rfl
  | _ => rfl

/-- Deliveries leave all contexts as they are. -/
theorem contexts (m : Move e a e') (passive : ∀ op, a ≠ .perform op) :
    e'.world.contexts = e.world.contexts := by
  cases m with
  | perform => exact absurd rfl (passive _)
  | subscribe =>
    obtain ⟨history, eq⟩ := World.registerHandler_eq _ _ _
    rw [eq]
    rfl
  | call waiting called =>
    obtain ⟨-, rfl⟩ := Prod.mk.inj called
    rfl
  | _ => rfl

/-- The context of a name stays unless an act keeps one under it. -/
theorem named (m : Move e a e') {name : String} (other : ¬ a.Keeps name) :
    e'.world.contexts.named.get? name = e.world.contexts.named.get? name := by
  cases a with
  | perform op =>
    cases m
    exact World.named_perform _ other
  | _ => rw [m.contexts fun op => by simp]

end Move

end Execution

end TopicBroker
