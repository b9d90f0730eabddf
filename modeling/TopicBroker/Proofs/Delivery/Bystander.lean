import TopicBroker.Proofs.Delivery.Effect
import TopicBroker.Proofs.Registry.Decision
import TopicBroker.Proofs.Registry.Renumbering

/-!
# Worlds with a bystander

A handler that accepts no topic stands by: it has a key and a number, and no delivery ever reaches it.
Two programs are padded if the second one registers such handlers in between, always under the same
key, which neither of them uses otherwise. Two worlds lie beside each other if they are the same but
for the entry of that key and the numbers of registrations, which have moved on where an entry was
made. What an operation answers is then the same, unless it lists or counts handlers, and the worlds
that it leaves lie beside each other again.
-/

namespace TopicBroker

/-- The call without the number of the registration. -/
def CallId.unnumbered (c : CallId) : CallId := { c with seq := 0 }

/-- The call without the number of the registration. -/
def Call.unnumbered (c : Call) : Call := { c with id := c.id.unnumbered }

/-- What an answer shows besides the handler of a key. -/
def Operation.besides (key : String) (op : Operation) (a : Answer) : Answer :=
  match op, a with
  | .listHandlerKeys, .names keys => .names (keys.filter (· != key))
  | .hasHandler other, a => if other = key then .nothing else a
  | .handlerCount, _ | .describe, _ => .nothing
  | _, a => a

/-- Whether an operation writes a note. -/
def Operation.isNote : Operation → Bool
  | .note .. => true
  | _ => false

/-- Programs of which the second one registers handlers under a key in between. Neither of them uses
the key otherwise or goes on in another way because of what it sees of its handler or of the numbers
of registrations. What they note is left open. -/
inductive Program.Padded (key : String) : Program → Program → Prop
  /-- Both end. -/
  | done : Padded key .done .done
  /-- Both panic. -/
  | panic (message : String) : Padded key (.panic message) (.panic message)
  /-- Both perform an operation. -/
  | perform {op : Operation} {next next' : Answer → Program} (compared : op.isNote = false)
      (other : op ≠ .deregisterHandler key)
      (goesOn : ∀ a a', op.besides key a = op.besides key a' → Padded key (next a) (next' a')) :
    Padded key (.perform op next) (.perform op next')
  /-- Both register a handler with the same matcher under another key. -/
  | subscribe {other : String} {matcher : Matcher} {body body' : Call → Program}
      {next next' : Program} (ne : other ≠ key)
      (bodies : ∀ c c', c.unnumbered = c'.unnumbered → Padded key (body c) (body' c'))
      (goesOn : Padded key next next') :
    Padded key (.subscribe other matcher body next) (.subscribe other matcher body' next')
  /-- Both publish the same. -/
  | publish {p : Publication} {guarded : Bool} {next next' : Answer → Program}
      (goesOn : ∀ a, Padded key (next a) (next' a)) :
    Padded key (.publish p guarded next) (.publish p guarded next')
  /-- Only the second one registers a handler under the key. -/
  | insert {p next : Program} {matcher : Matcher} {body : Call → Program}
      (goesOn : Padded key p next) : Padded key p (.subscribe key matcher body next)
  /-- Only the first one writes a note. -/
  | noteLeft {call : Option CallId} {action : String} {answer : Answer} {next : Answer → Program}
      {p : Program} (goesOn : Padded key (next .nothing) p) :
    Padded key (.perform (.note call action answer) next) p
  /-- Only the second one writes a note. -/
  | noteRight {call : Option CallId} {action : String} {answer : Answer} {next : Answer → Program}
      {p : Program} (goesOn : Padded key p (next .nothing)) :
    Padded key p (.perform (.note call action answer) next)

namespace Program.Padded

variable {key : String}

/-- A note of the first program can be written before anything else. -/
theorem of_noteLeft {op : Operation} {next : Answer → Program} {p' : Program}
    (h : (Program.perform op next).Padded key p') (notes : op.isNote = true) :
    (next .nothing).Padded key p' := by
  -- steps that the second program makes alone may come before the note
  generalize eq : Program.perform op next = p at h
  induction h with
  | noteLeft goesOn => cases eq; exact goesOn
  | noteRight goesOn ih => exact .noteRight (ih eq)
  | insert goesOn ih => exact .insert (ih eq)
  | perform compared other goesOn =>
    cases eq
    rw [notes] at compared
    cases compared
  | _ => cases eq

/-- A note of the second program can be written before anything else. -/
theorem of_noteRight {op : Operation} {next : Answer → Program} {p : Program}
    (h : p.Padded key (.perform op next)) (notes : op.isNote = true) :
    p.Padded key (next .nothing) := by
  generalize eq : Program.perform op next = p' at h
  induction h with
  | noteLeft goesOn ih => exact .noteLeft (ih eq)
  | noteRight goesOn => cases eq; exact goesOn
  | perform compared other goesOn =>
    cases eq
    rw [notes] at compared
    cases compared
  | _ => cases eq

/-- A handler can be registered under the key before anything else. -/
theorem of_insert {matcher : Matcher} {body : Call → Program} {p next : Program}
    (h : p.Padded key (.subscribe key matcher body next)) : p.Padded key next := by
  generalize eq : Program.subscribe key matcher body next = p' at h
  induction h with
  | noteLeft goesOn ih => exact .noteLeft (ih eq)
  | insert goesOn => cases eq; exact goesOn
  | subscribe ne =>
    cases eq
    exact absurd rfl ne
  | _ => cases eq

/-- The second program does not take the handler of the key out. -/
theorem ne_deregisterHandler {p p' : Program} (h : p.Padded key p') (next : Answer → Program) :
    p' ≠ .perform (.deregisterHandler key) next := by
  induction h with
  | noteLeft goesOn ih => exact ih
  | perform compared other goesOn =>
    intro same
    cases same
    exact other rfl
  | _ => simp

end Program.Padded

/-- Handlers with the same matcher, of which the second one is padded. -/
structure PaddedHandler (key : String) where
  /-- The handler of the one world. -/
  plain : Handler
  /-- The handler of the other world. -/
  padded : Handler
  /-- They accept the same topics. -/
  matcher : plain.matcher = padded.matcher
  /-- They do the same but for bystanders. -/
  bodies : ∀ c c', c.unnumbered = c'.unnumbered → (plain.body c).Padded key (padded.body c')

/-- A change takes the same handler out whatever it puts in its place. -/
theorem Change.takesOut_map {H K : Type} (g : H → K) (c : Change H) (key : String) :
    (c.map g).TakesOut key ↔ c.TakesOut key := by
  cases c <;> simp [Change.map, TakesOut]

namespace World

variable {key : String} {f : Nat → Nat} {pairs : Registry (PaddedHandler key)} {w w' : World}

/-- Worlds that are the same but for handlers, which are padded, for the handler of a key, which only
the second one may have, for the numbers of registrations, and for the history. -/
structure Beside (key : String) (f : Nat → Nat) (pairs : Registry (PaddedHandler key))
    (w w' : World) : Prop where
  /-- Patterns are read the same. -/
  strategy : w.broker.strategy = w'.broker.strategy
  /-- The same ids are drawn next. -/
  ids : w.broker.ids = w'.broker.ids
  /-- The broker has counted the same. -/
  stats : w.broker.stats = w'.broker.stats
  /-- The switches that matchers may depend on stand the same. -/
  flags : w.flags = w'.flags
  /-- The contexts are the same. -/
  contexts : w.contexts = w'.contexts
  /-- The same number of publications found their topic. -/
  publications : w.publications = w'.publications
  /-- The topics and handlers of the first world. -/
  left : pairs.map (·.plain) = w.broker.registry
  /-- Those of the second world, but for the key, have them under other numbers. -/
  right : (pairs.renumber f).map (·.padded) = w'.broker.registry.overlook key
  /-- They are coherent. -/
  coherent : pairs.Coherent
  /-- The first world has no handler under the key. -/
  absent : pairs.hasHandler key = false
  /-- The other numbers have the same order. -/
  numbers : Renumbers f pairs.lastSeq
  /-- Every registration was called equally often. -/
  calls : ∀ s, w'.calls.count (f s) = w.calls.count s
  /-- No registration was called that is still to come. -/
  uncalled : ∀ s, pairs.lastSeq < s → w.calls.count s = 0

/-- A note is answered with nothing. -/
theorem snd_perform_note (w : World) {op : Operation} (notes : op.isNote = true) :
    (w.perform op).2 = .nothing := by
  cases op with
  | note call action answer => rfl
  | _ => cases notes

/-- Whether no topic that is registered is accepted by the handler of a key. -/
def Ignored (w : World) (key : String) : Prop :=
  ∀ topic, w.broker.registry.hasTopic topic = true →
    w.broker.registry.Rejects w.accepts key topic

namespace Beside

/-- The world of a new broker lies beside itself. -/
theorem fresh (strategy : MatchStrategy) (ids : IdSource) :
    (Broker.world { strategy, ids }).Beside key (fun s => s) .empty
      (Broker.world { strategy, ids }) where
  strategy := rfl
  ids := rfl
  stats := rfl
  flags := rfl
  contexts := rfl
  publications := rfl
  left := rfl
  right := rfl
  coherent := Registry.coherent_empty
  absent := rfl
  numbers := .id 0
  calls _ := rfl
  uncalled _ _ := rfl

/-- Padded handlers accept the same. -/
theorem accepts_eq (h : w.Beside key f pairs w') (p : PaddedHandler key) :
    w'.accepts p.padded = w.accepts p.plain := by
  funext topic
  unfold accepts flag
  rw [p.matcher, h.flags]

theorem snapshot_left (h : w.Beside key f pairs w') (topic : String) :
    w.broker.registry.snapshot topic =
      (pairs.snapshot topic).map fun list => list.map (·.map (·.plain)) := by
  rw [← h.left, Registry.snapshot_map]

theorem snapshot_right (h : w.Beside key f pairs w') (topic : String) :
    w'.broker.registry.snapshot topic =
      (pairs.snapshot topic).map fun list =>
        list.map fun a => (a.renumber f).map (·.padded) := by
  have seen := congrArg (·.snapshot topic) h.right
  simp only [Registry.snapshot_map, Registry.snapshot_renumber, Option.map_map] at seen
  refine Eq.trans seen.symm (Option.map_congr fun list _ => ?_)
  exact List.map_map

theorem hasTopic_eq (h : w.Beside key f pairs w') (name : String) :
    w.broker.registry.hasTopic name = w'.broker.registry.hasTopic name := by
  rw [Registry.hasTopic_eq_isSome, h.snapshot_left, Registry.hasTopic_eq_isSome, h.snapshot_right,
    Option.isSome_map, Option.isSome_map]

theorem listTopics_eq (h : w.Beside key f pairs w') :
    w.broker.registry.listTopics = w'.broker.registry.listTopics := by
  have seen := congrArg Registry.listTopics h.right
  rw [Registry.listTopics_map, Registry.listTopics_renumber] at seen
  rw [← h.left, Registry.listTopics_map]
  exact seen

theorem topicCount_eq (h : w.Beside key f pairs w') :
    w.broker.registry.topicCount = w'.broker.registry.topicCount := by
  have seen := congrArg Registry.topicCount h.right
  rw [Registry.topicCount_map, Registry.topicCount_renumber] at seen
  rw [← h.left, Registry.topicCount_map]
  exact seen

theorem attachedKeys_eq (h : w.Beside key f pairs w') (name : String) :
    w.broker.registry.attachedKeys name = w'.broker.registry.attachedKeys name := by
  have seen := congrArg (·.attachedKeys name) h.right
  simp only [Registry.attachedKeys_map, Registry.attachedKeys_renumber] at seen
  rw [← h.left, Registry.attachedKeys_map]
  exact seen

/-- A handler under another key is in both worlds or in none. -/
theorem hasHandler_eq (h : w.Beside key f pairs w') {other : String} (ne : other ≠ key) :
    w.broker.registry.hasHandler other = w'.broker.registry.hasHandler other := by
  have seen := congrArg (·.hasHandler other) h.right
  simp only [Registry.hasHandler_map, Registry.hasHandler_renumber,
    Registry.hasHandler_overlook ne] at seen
  rw [← h.left, Registry.hasHandler_map, seen]

/-- The first world has no handler under the key. -/
theorem hasHandler_left (h : w.Beside key f pairs w') :
    w.broker.registry.hasHandler key = false := by
  rw [← h.left, Registry.hasHandler_map, h.absent]

/-- The handlers are listed in the same order, but for the key. -/
theorem listHandlerKeys_eq (h : w.Beside key f pairs w') :
    w.broker.registry.listHandlerKeys =
      w'.broker.registry.listHandlerKeys.filter (· != key) := by
  have seen := congrArg Registry.listHandlerKeys h.right
  rw [Registry.listHandlerKeys_map, Registry.listHandlerKeys_renumber,
    Registry.listHandlerKeys_overlook] at seen
  rw [← h.left, Registry.listHandlerKeys_map, seen]

/-- The second world has one handler more if it has one under the key. -/
theorem handlerCount_eq (h : w.Beside key f pairs w') :
    w'.broker.registry.handlerCount =
      w.broker.registry.handlerCount + if w'.broker.registry.hasHandler key then 1 else 0 := by
  have seen := congrArg Registry.handlerCount h.right
  rw [Registry.handlerCount_map, Registry.handlerCount_renumber] at seen
  rw [w'.broker.registry.handlerCount_overlook key, ← seen, ← h.left, Registry.handlerCount_map]

/-- Every handler has the same subscriptions, and the one under the key has none. -/
theorem subscriptionsOf_eq (h : w.Beside key f pairs w') (other : String)
    (ignored : other = key → w'.Ignored key) :
    w.broker.registry.subscriptionsOf w.accepts other =
      w'.broker.registry.subscriptionsOf w'.accepts other := by
  by_cases own : other = key
  · have unknown : w.broker.registry.handlers.get? key = none := by
      simpa [Registry.hasHandler_eq_isSome] using h.hasHandler_left
    rw [own, Registry.subscriptionsOf_of_rejects (ignored own), Registry.subscriptionsOf, unknown]
  · have seen := congrArg (·.subscriptionsOf w'.accepts other) h.right
    simp only [Registry.subscriptionsOf_map h.accepts_eq, Registry.subscriptionsOf_renumber,
      Registry.subscriptionsOf_overlook own] at seen
    rw [← seen, ← h.left]
    exact Registry.subscriptionsOf_map (fun p => rfl) other

/-- Worlds stay beside each other where the same change is made in both, if it is about another key
and the handler of the key does not accept the topic that is registered. -/
theorem withRegistry (h : w.Beside key f pairs w') {c : Change (PaddedHandler key)}
    (others : ¬ c.TakesOut key)
    (rejects : ∀ topic, c = .registerTopic topic → w'.broker.registry.Rejects w'.accepts key topic)
    (history history' : List Event) :
    Beside key f (pairs.apply (fun p => w.accepts p.plain) c)
      { w.withRegistry (w.broker.registry.apply w.accepts (c.map (·.plain))) with history }
      { w'.withRegistry (w'.broker.registry.apply w'.accepts (c.map (·.padded))) with
        history := history' } := by
  have later := Registry.lastSeq_le_apply (fun p => w.accepts p.plain) pairs c
  have left : (pairs.apply (fun p => w.accepts p.plain) c).map (·.plain) =
      w.broker.registry.apply w.accepts (c.map (·.plain)) := by
    rw [← h.left]
    exact (Registry.apply_map (fun p => rfl) c).symm
  have right : ((pairs.apply (fun p => w.accepts p.plain) c).renumber f).map (·.padded) =
      (w'.broker.registry.apply w'.accepts (c.map (·.padded))).overlook key := by
    rw [← Registry.apply_overlook, ← h.right, Registry.apply_map h.accepts_eq,
      Registry.apply_renumber h.numbers]
    · rwa [Change.takesOut_map]
    · intro topic same
      refine rejects topic ?_
      cases c <;> cases same
      rfl
  have absent : (pairs.apply (fun p => w.accepts p.plain) c).hasHandler key = false := by
    rw [Registry.hasHandler_apply others, h.absent]
  exact { h with
    left, right, absent
    coherent := h.coherent.apply _ c
    numbers := h.numbers.of_le later
    uncalled := fun s above => h.uncalled s (Nat.lt_of_le_of_lt later above) }

/-- Worlds stay beside each other where the same operation changes their registries. -/
theorem perform_change (h : w.Beside key f pairs w') {op : Operation}
    {c : Change (PaddedHandler key)} (left : change? op = some (c.map (·.plain)))
    (right : change? op = some (c.map (·.padded))) (others : ¬ c.TakesOut key)
    (rejects : ∀ topic, c = .registerTopic topic →
      w'.broker.registry.Rejects w'.accepts key topic) :
    ∃ pairs', pairs.lastSeq ≤ pairs'.lastSeq ∧
      (w.perform op).1.Beside key f pairs' (w'.perform op).1 := by
  obtain ⟨history, eq⟩ := w.perform_eq_apply left
  obtain ⟨history', eq'⟩ := w'.perform_eq_apply right
  rw [eq, eq']
  exact ⟨_, Registry.lastSeq_le_apply _ _ _, h.withRegistry others rejects history history'⟩

/-- Registering handlers under another key, of which the second one is padded, leaves worlds beside
each other. -/
theorem registerHandler (h : w.Beside key f pairs w') {other : String} (ne : other ≠ key)
    (p : PaddedHandler key) : ∃ pairs', pairs.lastSeq ≤ pairs'.lastSeq ∧
      (w.registerHandler other p.plain).Beside key f pairs' (w'.registerHandler other p.padded) := by
  obtain ⟨history, eq⟩ := w.registerHandler_eq other p.plain
  obtain ⟨history', eq'⟩ := w'.registerHandler_eq other p.padded
  have others : ¬ (Change.registerHandler other p).TakesOut key := by
    simp [Change.TakesOut, ne]
  rw [eq, eq']
  exact ⟨_, Registry.lastSeq_le_apply _ _ _, h.withRegistry others (by simp) history history'⟩

/-- A handler that accepts no registered topic can be registered under the key, now or anew. It takes
a number, and nothing else is different afterwards. -/
theorem insert (h : w.Beside key f pairs w') {handler : Handler}
    (rejects : ∀ topic, w'.broker.registry.hasTopic topic = true →
      w'.accepts handler topic = false) :
    w.Beside key (skipAfter pairs.lastSeq f) pairs (w'.registerHandler key handler) := by
  have absent (topic : String) (list : List (Attachment Handler))
      (found : w'.broker.registry.snapshot topic = some list) : ∀ a ∈ list, a.key ≠ key := by
    rw [h.snapshot_right] at found
    obtain ⟨before, old, rfl⟩ := Option.map_eq_some_iff.mp found
    intro a ha
    obtain ⟨b, hb, rfl⟩ := List.mem_map.mp ha
    exact h.coherent.key_ne_of_absent h.absent old b hb
  have made : (w'.broker.registry.apply w'.accepts (.registerHandler key handler)).overlook key =
      { w'.broker.registry.overlook key with lastSeq := w'.broker.registry.lastSeq + 1 } :=
    Registry.registerHandler_overlook absent rejects
  have right : (pairs.renumber (skipAfter pairs.lastSeq f)).map (·.padded) =
      (w'.broker.registry.apply w'.accepts (.registerHandler key handler)).overlook key := by
    have last : (pairs.renumber f).lastSeq = w'.broker.registry.lastSeq :=
      congrArg Registry.lastSeq h.right
    rw [made, ← h.right, h.coherent.renumber_skip h.numbers, ← last]
    rfl
  -- the numbers that move on are still to be given out, so nothing was counted under them
  have calls (s : Nat) : w'.calls.count (skipAfter pairs.lastSeq f s) = w.calls.count s := by
    by_cases given : s ≤ pairs.lastSeq
    · rw [skipAfter_of_le given, h.calls]
    · have above : pairs.lastSeq < s := Nat.lt_of_not_le given
      rw [h.numbers.skipAfter_of_lt above, h.calls, h.uncalled s above,
        h.uncalled (s + 1) (Nat.lt_succ_of_lt above)]
  obtain ⟨history, eq⟩ := w'.registerHandler_eq key handler
  rw [eq]
  exact { h with right, calls, numbers := h.numbers.skip }

/-- What is written into the histories leaves worlds beside each other. -/
theorem withHistory (h : w.Beside key f pairs w') (history history' : List Event) :
    Beside key f pairs { w with history } { w' with history := history' } := { h with }

/-- Counting the same leaves worlds beside each other. -/
theorem count (h : w.Beside key f pairs w') (g : Stats → Stats) :
    (w.count g).Beside key f pairs (w'.count g) :=
  { h with stats := congrArg g h.stats }

/-- The handlers of a publication are given the same in worlds beside each other. -/
theorem publish (h : w.Beside key f pairs w') (p : Publication) (n n' : Nat) :
    (w.publish p n).1 = (w'.publish p n').1 ∧
      (w.publish p n).2.Beside key f pairs (w'.publish p n').2 := by
  have parcel : (World.parcel w.broker.ids p).1 = (World.parcel w'.broker.ids p).1 := by rw [h.ids]
  have ids : (World.parcel w.broker.ids p).2 = (World.parcel w'.broker.ids p).2 := by rw [h.ids]
  have stats : { w.broker.stats with emitted := w.broker.stats.emitted + 1 } =
      { w'.broker.stats with emitted := w'.broker.stats.emitted + 1 } := by rw [h.stats]
  have publications : w.publications + 1 = w'.publications + 1 := by rw [h.publications]
  exact ⟨parcel, { h with ids, stats, publications }⟩

/-- A registration is given the same in worlds beside each other, under its other number. -/
theorem called (h : w.Beside key f pairs w') (a : Attachment (PaddedHandler key))
    (given : a.seq ≤ pairs.lastSeq) (parcel : World.Parcel) (publication depth : Nat) :
    (w.called (a.map (·.plain)) parcel publication depth).1.unnumbered =
        (w'.called ((a.renumber f).map (·.padded)) parcel publication depth).1.unnumbered ∧
      (w.called (a.map (·.plain)) parcel publication depth).2.Beside key f pairs
        (w'.called ((a.renumber f).map (·.padded)) parcel publication depth).2 := by
  have calls (s : Nat) : (w'.calls.bump (f a.seq)).count (f s) = (w.calls.bump a.seq).count s := by
    rw [Tally.count_bump, Tally.count_bump, h.calls]
    simp only [h.numbers.increasing.injective.eq_iff]
  have uncalled (s : Nat) (above : pairs.lastSeq < s) : (w.calls.bump a.seq).count s = 0 := by
    have ne : s ≠ a.seq := Nat.ne_of_gt (Nat.lt_of_le_of_lt given above)
    rw [Tally.count_bump, h.uncalled s above, if_neg ne]
  refine ⟨?_, { h with calls, uncalled }⟩
  simp only [World.called, Attachment.map, Attachment.renumber, Call.unnumbered,
    CallId.unnumbered, calls]

/-- The same operation is answered the same besides the handler of the key, if it does not take that
handler out. -/
theorem answer_eq (h : w.Beside key f pairs w') {op : Operation}
    (other : op ≠ .deregisterHandler key) (ignored : op = .subscriptionsOf key → w'.Ignored key) :
    op.besides key (w.perform op).2 = op.besides key (w'.perform op).2 := by
  cases op with
  | registerTopic name => simp only [World.perform, snd_registerTopic, h.hasTopic_eq]
  | deregisterTopic name => simp only [World.perform, snd_deregisterTopic, h.hasTopic_eq]
  | deregisterHandler own =>
    have ne : own ≠ key := fun same => other (congrArg _ same)
    simp only [World.perform, snd_deregisterHandler, h.hasHandler_eq ne]
  | hasHandler own =>
    by_cases same : own = key
    · simp only [Operation.besides, same, if_true]
    · simp only [World.perform, ask, h.hasHandler_eq same]
  | listHandlerKeys =>
    simp only [World.perform, ask, Operation.besides, h.listHandlerKeys_eq, List.filter_filter,
      Bool.and_self]
  | subscriptionsOf own =>
    have same := h.subscriptionsOf_eq own fun same => ignored (congrArg _ same)
    simp only [World.perform, ask, same]
  | _ =>
    simp only [World.perform, ask, Operation.besides, h.hasTopic_eq, h.listTopics_eq,
      h.topicCount_eq, h.attachedKeys_eq, h.strategy, h.stats, h.contexts]

/-- The same operation leaves worlds beside each other, if it does not take the handler of the key
out and does not register a topic that this handler accepts. -/
theorem perform (h : w.Beside key f pairs w') {op : Operation}
    (other : op ≠ .deregisterHandler key)
    (rejects : ∀ topic, op = .registerTopic topic →
      w'.broker.registry.Rejects w'.accepts key topic) :
    ∃ pairs', pairs.lastSeq ≤ pairs'.lastSeq ∧
      (w.perform op).1.Beside key f pairs' (w'.perform op).1 := by
  have stays {v v' : World} (beside : v.Beside key f pairs v') :
      ∃ pairs', pairs.lastSeq ≤ pairs'.lastSeq ∧ v.Beside key f pairs' v' :=
    ⟨pairs, Nat.le_refl _, beside⟩
  cases op with
  | registerTopic name =>
    refine h.perform_change (c := .registerTopic name) rfl rfl (by simp [Change.TakesOut]) ?_
    intro topic same
    cases same
    exact rejects name rfl
  | deregisterTopic name =>
    exact h.perform_change (c := .deregisterTopic name) rfl rfl (by simp [Change.TakesOut])
      (by simp)
  | deregisterHandler own =>
    have ne : own ≠ key := fun same => other (congrArg _ same)
    exact h.perform_change (c := .deregisterHandler own) rfl rfl
      (by simp [Change.TakesOut, ne]) (by simp)
  | setFlag name value =>
    have flags : w.flags.insert name value = w'.flags.insert name value := by rw [h.flags]
    exact stays { h with flags }
  | startContext =>
    have contexts : w.contexts.start.2 = w'.contexts.start.2 := by rw [h.contexts]
    exact stays { h with contexts }
  | fetchContext name =>
    have contexts : (w.contexts.fetch name).2 = (w'.contexts.fetch name).2 := by rw [h.contexts]
    exact stays { h with contexts }
  | keepContext name c =>
    have contexts : w.contexts.keep name c = w'.contexts.keep name c := by rw [h.contexts]
    exact stays { h with contexts }
  | cancel c =>
    have contexts : w.contexts.cancel c = w'.contexts.cancel c := by rw [h.contexts]
    exact stays { h with contexts }
  | note call action answer => exact stays (h.withHistory _ _)
  | _ => exact stays h

/-- An operation that only writes a note leaves the world beside what it was beside. -/
theorem noteLeft (h : w.Beside key f pairs w') {op : Operation} (notes : op.isNote = true) :
    (w.perform op).1.Beside key f pairs w' := by
  cases op with
  | note call action answer => exact { h with }
  | _ => cases notes

/-- So it does in the second world. -/
theorem noteRight (h : w.Beside key f pairs w') {op : Operation} (notes : op.isNote = true) :
    w.Beside key f pairs (w'.perform op).1 := by
  cases op with
  | note call action answer => exact { h with }
  | _ => cases notes

end Beside

end World

end TopicBroker
