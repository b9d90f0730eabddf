import TopicBroker.Proofs.Delivery.Effect
import TopicBroker.Proofs.Registry.Naturality

/-!
# Programs and worlds that are alike

Two programs are alike if they differ at most in what they cancel, and if neither goes on in another
way because of what it sees of a switch. Two worlds are alike if their handlers are, and if all else
is the same but for the switches. What an operation answers and what it makes of the world is then
alike again.
-/

namespace TopicBroker

/-- The context without the family, whose switch it shows. -/
def Correlation.bare (c : Correlation) : Correlation := { c with family := 0 }

/-- The answer without what it shows of a switch. -/
def Answer.bare : Answer → Answer
  | .context c => .context c.bare
  | .view v => .view { v with cancelled := false }
  | a => a

/-- The call without the family of its context. -/
def Call.bare (c : Call) : Call := { c with context := c.context.bare }

/-- The publication without the family of its context. -/
def Publication.bare : Publication → Publication
  | .plain c topic data => .plain c.bare topic data
  | .withOptions c topic data options => .withOptions c.bare topic data options

/-- What the handlers are given, without the family of the context. -/
def World.Parcel.bare (p : World.Parcel) : World.Parcel := { p with context := p.context.bare }

/-- What is left of a context is its transaction and its source. -/
theorem Correlation.bare_eq_bare_iff {c d : Correlation} :
    c.bare = d.bare ↔ c.txId = d.txId ∧ c.source = d.source := by
  simp [bare]

@[simp] theorem Publication.topic_bare (p : Publication) : p.bare.topic = p.topic := by
  cases p <;> rfl

/-- No switch has any influence on the parcel of a publication or on what is drawn for it. -/
theorem World.parcel_bare (ids : IdSource) (p : Publication) :
    World.parcel ids p.bare = ((World.parcel ids p).1.bare, (World.parcel ids p).2) := by
  cases p <;> rfl

/-- Operations that are the same but for the switches of contexts. -/
inductive Operation.Alike : Operation → Operation → Prop
  /-- The same operation. -/
  | refl (op : Operation) : Alike op op
  /-- A context is kept under a name. -/
  | keepContext (name : String) {c d : Correlation} (same : c.bare = d.bare) :
    Alike (.keepContext name c) (.keepContext name d)
  /-- A context is looked at. -/
  | viewContext {c d : Correlation} (same : c.bare = d.bare) :
    Alike (.viewContext c) (.viewContext d)

/-- The operation without the family of its context. -/
def Operation.bare : Operation → Operation
  | .keepContext name c => .keepContext name c.bare
  | .viewContext c => .viewContext c.bare
  | op => op

theorem Operation.Alike.bare_eq {op op' : Operation} (h : op.Alike op') : op.bare = op'.bare := by
  cases h with
  | refl => rfl
  | keepContext name same => exact congrArg (Operation.keepContext name) same
  | viewContext same => exact congrArg Operation.viewContext same

/-- Whether an operation cancels a context, gets hold of one, or writes a note. -/
def Operation.isQuiet : Operation → Bool
  | .startContext | .fetchContext _ | .cancel _ | .note .. => true
  | _ => false

theorem Operation.Alike.isQuiet_eq {op op' : Operation} (h : op.Alike op') :
    op.isQuiet = op'.isQuiet := by
  cases h <;> rfl

/-- Whether an operation may have an answer. -/
def Operation.Answers (op : Operation) (a : Answer) : Prop := ∃ w : World, (w.perform op).2 = a

/-- Programs that differ at most in what they cancel, and do not depend on what they see of a
switch. -/
inductive Program.Alike : Program → Program → Prop
  /-- Both end. -/
  | done : Alike .done .done
  /-- Both panic. -/
  | panic (message : String) : Alike (.panic message) (.panic message)
  /-- Both perform an operation, and go on alike whatever they see of a switch. -/
  | perform {op op' : Operation} {next next' : Answer → Program} (alike : op.Alike op')
      (goesOn : ∀ a a', op.Answers a → op'.Answers a' → a.bare = a'.bare →
        Alike (next a) (next' a')) :
    Alike (.perform op next) (.perform op' next')
  /-- Only the first one performs a quiet operation. -/
  | left {op : Operation} {next : Answer → Program} {p : Program} (quiet : op.isQuiet = true)
      (goesOn : ∀ a, op.Answers a → Alike (next a) p) : Alike (.perform op next) p
  /-- Only the second one performs a quiet operation. -/
  | right {op : Operation} {next : Answer → Program} {p : Program} (quiet : op.isQuiet = true)
      (goesOn : ∀ a, op.Answers a → Alike p (next a)) : Alike p (.perform op next)
  /-- Both register a handler with the same matcher and a body that is alike. -/
  | subscribe {key : String} {matcher : Matcher} {body body' : Call → Program}
      {next next' : Program} (bodies : ∀ c c', c.bare = c'.bare → Alike (body c) (body' c'))
      (goesOn : Alike next next') :
    Alike (.subscribe key matcher body next) (.subscribe key matcher body' next')
  /-- Both publish the same. -/
  | publish {p p' : Publication} {guarded : Bool} {next next' : Answer → Program}
      (same : p.bare = p'.bare)
      (goesOn : ∀ a a', a.bare = a'.bare → Alike (next a) (next' a')) :
    Alike (.publish p guarded next) (.publish p' guarded next')

theorem Operation.Alike.symm {op op' : Operation} (h : op.Alike op') : op'.Alike op := by
  cases h with
  | refl => exact .refl op
  | keepContext name same => exact .keepContext name same.symm
  | viewContext same => exact .viewContext same.symm

theorem Program.Alike.symm {p p' : Program} (h : p.Alike p') : p'.Alike p := by
  induction h with
  | done => exact .done
  | panic message => exact .panic message
  | perform alike _ ih =>
    exact .perform alike.symm fun a a' left right same => ih a' a right left same.symm
  | left quiet _ ih => exact .right quiet ih
  | right quiet _ ih => exact .left quiet ih
  | subscribe _ _ bodies ih => exact .subscribe (fun c c' same => bodies c' c same.symm) ih
  | publish same _ ih => exact .publish same.symm fun a a' same => ih a' a same.symm

/-- The program without its cancels, at the top and inside of handlers. -/
def Program.uncancelled : Program → Program
  | .done => .done
  | .panic message => .panic message
  | .perform op next =>
    match op with
    | .cancel _ => (next .nothing).uncancelled
    | op => .perform op fun a => (next a).uncancelled
  | .subscribe key matcher body next =>
    .subscribe key matcher (fun c => (body c).uncancelled) next.uncancelled
  | .publish p guarded next => .publish p guarded fun a => (next a).uncancelled

theorem Program.uncancelled_perform {op : Operation} (other : ∀ c, op ≠ .cancel c)
    (next : Answer → Program) :
    (Program.perform op next).uncancelled = .perform op fun a => (next a).uncancelled := by
  cases op with
  | cancel c => exact absurd rfl (other c)
  | _ => rfl

theorem Operation.answers_cancel (c : Correlation) : (Operation.cancel c).Answers .nothing :=
  ⟨Broker.world { strategy := .exact, ids := .counted "" }, rfl⟩

/-- What is alike to a program is alike to the program without its cancels. -/
theorem Program.Alike.uncancelled {p p' : Program} (h : p.Alike p') : p.Alike p'.uncancelled := by
  induction h with
  | done => exact .done
  | panic message => exact .panic message
  | @perform op op' next next' alike goesOn ih =>
    by_cases cancels : ∃ c, op' = .cancel c
    · obtain ⟨c, rfl⟩ := cancels
      cases alike
      refine .left rfl fun a answers => ?_
      obtain ⟨w, rfl⟩ := answers
      exact ih _ .nothing ⟨w, rfl⟩ ⟨w, rfl⟩ rfl
    · rw [uncancelled_perform fun c same => cancels ⟨c, same⟩]
      exact .perform alike ih
  | left quiet _ ih => exact .left quiet ih
  | @right op next p quiet _ ih =>
    by_cases cancels : ∃ c, op = .cancel c
    · obtain ⟨c, rfl⟩ := cancels
      exact ih .nothing (Operation.answers_cancel c)
    · rw [uncancelled_perform fun c same => cancels ⟨c, same⟩]
      exact .right quiet ih
  | subscribe _ _ bodies ih => exact .subscribe bodies ih
  | publish same _ ih => exact .publish same ih

/-- Handlers with the same matcher and bodies that are alike. -/
structure Handler.Alike (h h' : Handler) : Prop where
  /-- They accept the same topics. -/
  matcher : h.matcher = h'.matcher
  /-- They do the same but for what they cancel. -/
  bodies : ∀ c c', c.bare = c'.bare → (h.body c).Alike (h'.body c')

/-- Two handlers that are alike. -/
structure HandlerPair where
  /-- The handler of the one world. -/
  left : Handler
  /-- The handler of the other world. -/
  right : Handler
  /-- They are alike. -/
  alike : left.Alike right

/-- The pair the other way round. -/
def HandlerPair.swap (p : HandlerPair) : HandlerPair :=
  ⟨p.right, p.left, ⟨p.alike.matcher.symm, fun c c' same => (p.alike.bodies c' c same.symm).symm⟩⟩

/-- Registries that are the same but for handlers, which are alike. -/
def Registry.Alike (r r' : Registry Handler) : Prop :=
  ∃ pairs : Registry HandlerPair, pairs.map (·.left) = r ∧ pairs.map (·.right) = r'

namespace Registry

variable {r r' : Registry Handler}

/-- The same changes of registries that are alike lead to registries that are alike. -/
theorem Alike.apply (h : r.Alike r') {accepts accepts' : Handler → String → Bool}
    (agree : ∀ p : HandlerPair, accepts' p.right = accepts p.left) (c : Change HandlerPair) :
    (r.apply accepts (c.map (·.left))).Alike (r'.apply accepts' (c.map (·.right))) := by
  obtain ⟨pairs, rfl, rfl⟩ := h
  refine ⟨pairs.apply (fun p => accepts p.left) c, ?_, ?_⟩
  · exact (apply_map (fun p => rfl) c).symm
  · exact (apply_map agree c).symm

/-- The handlers of registries that are alike have the same keys, numbers and matchers, and are
attached to the same topics in the same order. -/
theorem Alike.map_matcher (h : r.Alike r') : r.map (·.matcher) = r'.map (·.matcher) := by
  obtain ⟨pairs, rfl, rfl⟩ := h
  rw [map_map, map_map]
  congr 1
  funext p
  exact p.alike.matcher

theorem Alike.symm (h : r.Alike r') : r'.Alike r := by
  obtain ⟨pairs, rfl, rfl⟩ := h
  exact ⟨pairs.map (·.swap), map_map _ _ _, map_map _ _ _⟩

end Registry

namespace World

/-- Worlds that are the same but for the switches of contexts, the handlers, which are alike, and
what was written into the history. -/
structure Alike (w w' : World) : Prop where
  /-- Patterns are read the same. -/
  strategy : w.broker.strategy = w'.broker.strategy
  /-- The same ids are drawn next. -/
  ids : w.broker.ids = w'.broker.ids
  /-- Topics and handlers are alike. -/
  registry : w.broker.registry.Alike w'.broker.registry
  /-- The broker has counted the same. -/
  stats : w.broker.stats = w'.broker.stats
  /-- The switches that matchers may depend on stand the same. -/
  flags : w.flags = w'.flags
  /-- Every registration was called equally often. -/
  calls : w.calls = w'.calls
  /-- The same number of publications found their topic. -/
  publications : w.publications = w'.publications
  /-- The contexts that are kept under names have the same values. -/
  named : (w.contexts.named.map fun _ c => c.bare) = w'.contexts.named.map fun _ c => c.bare

namespace Alike

variable {w w' : World}

theorem symm (h : w.Alike w') : w'.Alike w :=
  ⟨h.strategy.symm, h.ids.symm, h.registry.symm, h.stats.symm, h.flags.symm, h.calls.symm,
    h.publications.symm, h.named.symm⟩

/-- Handlers that are alike accept the same in worlds that are alike. -/
theorem accepts_eq (h : w.Alike w') (p : HandlerPair) : w'.accepts p.right = w.accepts p.left := by
  funext topic
  unfold accepts flag
  rw [p.alike.matcher, h.flags]

/-- Worlds stay alike where the same change of the registry is made in both. -/
theorem withRegistry (h : w.Alike w') (c : Change HandlerPair) (history history' : List Event) :
    Alike
      { w.withRegistry (w.broker.registry.apply w.accepts (c.map (·.left))) with history }
      { w'.withRegistry (w'.broker.registry.apply w'.accepts (c.map (·.right))) with
        history := history' } :=
  { h with registry := h.registry.apply h.accepts_eq c }

/-- Worlds stay alike where the same operation changes their registries. -/
theorem perform_change (h : w.Alike w') {op : Operation} {c : Change HandlerPair}
    (left : change? op = some (c.map (·.left))) (right : change? op = some (c.map (·.right))) :
    (w.perform op).1.Alike (w'.perform op).1 := by
  obtain ⟨history, eq⟩ := w.perform_eq_apply left
  obtain ⟨history', eq'⟩ := w'.perform_eq_apply right
  rw [eq, eq']
  exact h.withRegistry c history history'

/-- A name stands for contexts with the same values, or for none in both worlds. -/
theorem bare_get?_named (h : w.Alike w') (name : String) :
    (w.contexts.named.get? name).map (·.bare) = (w'.contexts.named.get? name).map (·.bare) := by
  have same := congrArg (·.get? name) h.named
  simpa only [Table.get?_map] using same

/-- Getting hold of a context leaves worlds alike. -/
theorem perform_fetchContext (h : w.Alike w') (name : String) :
    (w.perform (.fetchContext name)).1.Alike (w'.perform (.fetchContext name)).1 ∧
      (w.perform (.fetchContext name)).2.bare = (w'.perform (.fetchContext name)).2.bare := by
  have named := h.bare_get?_named name
  simp only [World.perform, ContextStore.fetch]
  cases here : w.contexts.named.get? name with
  | none =>
    cases there : w'.contexts.named.get? name with
    | none => exact ⟨{ h with }, rfl⟩
    | some d =>
      rw [here, there] at named
      cases named
  | some c =>
    cases there : w'.contexts.named.get? name with
    | none =>
      rw [here, there] at named
      cases named
    | some d =>
      rw [here, there] at named
      exact ⟨h, congrArg Answer.context (Option.some.inj named)⟩

/-- Operations that are alike leave worlds alike, and are answered the same but for switches. -/
theorem perform (h : w.Alike w') {op op' : Operation} (alike : op.Alike op') :
    (w.perform op).1.Alike (w'.perform op').1 ∧
      (w.perform op).2.bare = (w'.perform op').2.bare := by
  obtain ⟨pairs, left, right⟩ := h.registry
  cases alike with
  | keepContext name same =>
    refine ⟨{ h with named := ?_ }, rfl⟩
    simp only [World.perform, ContextStore.keep, Table.map_insert, h.named, same]
  | viewContext same =>
    refine ⟨h, ?_⟩
    obtain ⟨txId, source⟩ := Correlation.bare_eq_bare_iff.mp same
    simp only [World.perform, ContextStore.view, Families.view, Answer.bare, txId, source]
  | refl =>
    cases op with
    | registerTopic name =>
      refine ⟨h.perform_change (c := .registerTopic name) rfl rfl, ?_⟩
      simp only [World.perform, snd_registerTopic, ← left, ← right, Registry.hasTopic_map]
    | deregisterTopic name =>
      refine ⟨h.perform_change (c := .deregisterTopic name) rfl rfl, ?_⟩
      simp only [World.perform, snd_deregisterTopic, ← left, ← right, Registry.hasTopic_map]
    | deregisterHandler key =>
      refine ⟨h.perform_change (c := .deregisterHandler key) rfl rfl, ?_⟩
      simp only [World.perform, snd_deregisterHandler, ← left, ← right, Registry.hasHandler_map]
    | setFlag name value =>
      have flags : w.flags.insert name value = w'.flags.insert name value := by rw [h.flags]
      exact ⟨{ h with flags }, rfl⟩
    | startContext => exact ⟨{ h with }, rfl⟩
    | fetchContext name => exact h.perform_fetchContext name
    | keepContext name c =>
      refine ⟨{ h with named := ?_ }, rfl⟩
      simp only [World.perform, ContextStore.keep, Table.map_insert, h.named]
    | cancel c => exact ⟨{ h with }, rfl⟩
    | note call action answer => exact ⟨{ h with }, rfl⟩
    | describe =>
      have text : w.broker.describe = w'.broker.describe := by
        unfold Broker.describe
        rw [h.strategy, h.stats, ← left, ← right, Registry.topicCount_map, Registry.topicCount_map,
          Registry.handlerCount_map, Registry.handlerCount_map]
      exact ⟨h, by simp only [World.perform, text]⟩
    | strategy => exact ⟨h, by simp only [World.perform, h.strategy]⟩
    | stats => exact ⟨h, by simp only [World.perform, h.stats]⟩
    | viewContext c => exact ⟨h, rfl⟩
    | subscriptionsOf key =>
      have asked : (pairs.map (·.left)).subscriptionsOf w.accepts key =
          pairs.subscriptionsOf (fun p => w.accepts p.left) key :=
        Registry.subscriptionsOf_map (fun p => rfl) key
      have asked' : (pairs.map (·.right)).subscriptionsOf w'.accepts key =
          pairs.subscriptionsOf (fun p => w.accepts p.left) key :=
        Registry.subscriptionsOf_map h.accepts_eq key
      refine ⟨h, ?_⟩
      simp only [World.perform, ask, ← left, ← right, asked, asked']
    | _ =>
      refine ⟨h, ?_⟩
      simp only [World.perform, ask, ← left, ← right, Registry.hasTopic_map,
        Registry.listTopics_map, Registry.topicCount_map, Registry.attachedKeys_map,
        Registry.hasHandler_map, Registry.listHandlerKeys_map, Registry.handlerCount_map]

/-- A quiet operation leaves the world alike to what it was alike to. -/
theorem perform_quiet (h : w.Alike w') {op : Operation} (quiet : op.isQuiet = true) :
    (w.perform op).1.Alike w' := by
  cases op with
  | startContext => exact { h with }
  | fetchContext name =>
    simp only [World.perform, ContextStore.fetch]
    cases w.contexts.named.get? name with
    | none => exact { h with }
    | some c => exact h
  | cancel c => exact { h with }
  | note call action answer => exact { h with }
  | _ => cases quiet

/-- Registering handlers that are alike leaves worlds alike. -/
theorem registerHandler (h : w.Alike w') (key : String) (p : HandlerPair) :
    (w.registerHandler key p.left).Alike (w'.registerHandler key p.right) := by
  obtain ⟨history, eq⟩ := w.registerHandler_eq key p.left
  obtain ⟨history', eq'⟩ := w'.registerHandler_eq key p.right
  rw [eq, eq']
  exact h.withRegistry (.registerHandler key p) history history'

/-- What is written into the history leaves worlds alike. -/
theorem record (h : w.Alike w') (e e' : Event) : (w.record e).Alike (w'.record e') := { h with }

/-- Counting the same leaves worlds alike. -/
theorem count (h : w.Alike w') (f : Stats → Stats) : (w.count f).Alike (w'.count f) :=
  { h with stats := congrArg f h.stats }

/-- The handlers of a publication are given the same in worlds that are alike, but for switches. -/
theorem publish (h : w.Alike w') {p p' : Publication} (same : p.bare = p'.bare) (n n' : Nat) :
    (w.publish p n).1.bare = (w'.publish p' n').1.bare ∧
      (w.publish p n).2.Alike (w'.publish p' n').2 := by
  have parcels : ((World.parcel w.broker.ids p).1.bare, (World.parcel w.broker.ids p).2) =
      ((World.parcel w'.broker.ids p').1.bare, (World.parcel w'.broker.ids p').2) := by
    rw [← World.parcel_bare, ← World.parcel_bare, same, h.ids]
  obtain ⟨parcel, ids⟩ := Prod.mk.inj parcels
  have counted := h.count fun s => { s with emitted := s.emitted + 1 }
  have publications : w.publications + 1 = w'.publications + 1 := by rw [h.publications]
  exact ⟨parcel, { counted with ids, publications }⟩

/-- The same registration is given the same in worlds that are alike, but for switches. -/
theorem called (h : w.Alike w') (a : Attachment HandlerPair) {parcel parcel' : World.Parcel}
    (same : parcel.bare = parcel'.bare) (publication depth : Nat) :
    (w.called (a.map (·.left)) parcel publication depth).1.bare =
        (w'.called (a.map (·.right)) parcel' publication depth).1.bare ∧
      (w.called (a.map (·.left)) parcel publication depth).2.Alike
        (w'.called (a.map (·.right)) parcel' publication depth).2 := by
  obtain ⟨context, message⟩ := (World.Parcel.mk.injEq ..).mp same
  have calls : w.calls.bump a.seq = w'.calls.bump a.seq := by rw [h.calls]
  refine ⟨?_, { h with calls }⟩
  simp only [World.called, Attachment.map, Call.bare, context, message, calls]

end Alike

end World

end TopicBroker
