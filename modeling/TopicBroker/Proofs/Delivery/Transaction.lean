import TopicBroker.Proofs.Delivery.Calls

/-!
# Transactions

A plain publication carries its transaction into every context that its handlers are given, and
takes it from the context of the publisher if that has one. A publication with options hands the
context on as it is, whatever its own message says. So the messages of plain publications carry the
same transaction all the way down, as long as every publication uses a context that a handler above
it was given.
-/

namespace TopicBroker

/-- The context of a publication. -/
def Publication.context : Publication → Correlation
  | .plain context _ _ => context
  | .withOptions context _ _ _ => context

/-- Whether a publication makes its message from its context. -/
def Publication.isPlain : Publication → Bool
  | .plain .. => true
  | .withOptions .. => false

/-- The contexts that come from a context by giving them other sources. -/
inductive Correlation.Derived (c : Correlation) : Correlation → Prop
  /-- The context itself, or a copy of it. -/
  | refl : Derived c c
  /-- A derived context with another source. -/
  | withSource {d : Correlation} (h : Derived c d) (source : String) :
    Derived c (d.withSource source)

/-- Derived contexts have the same transaction. -/
theorem Correlation.Derived.txId {c d : Correlation} (h : c.Derived d) : d.txId = c.txId := by
  induction h with
  | refl => rfl
  | withSource h source ih => exact ih

namespace IdSource

/-- Whether a source is the same as another one after some ids were drawn. -/
structure Before (s t : IdSource) : Prop where
  /-- The sequence is the same. -/
  ids : t.ids = s.ids
  /-- As many ids were drawn, or more. -/
  drawn : s.drawn ≤ t.drawn

/-- Drawing can go on. -/
theorem Before.trans {s t u : IdSource} (st : s.Before t) (tu : t.Before u) : s.Before u :=
  ⟨tu.ids.trans st.ids, Nat.le_trans st.drawn tu.drawn⟩

/-- A source before an id is filled in. -/
theorem before_fill (s : IdSource) (given : Option String) : s.Before (s.fill given).2 := by
  cases given with
  | none => exact ⟨rfl, Nat.le_succ _⟩
  | some id => exact ⟨rfl, Nat.le_refl _⟩

end IdSource

namespace World

variable {ids : IdSource} {p : Publication} {tx : String}

/-- The source of ids before the message of a publication is made. -/
theorem before_parcel : ids.Before (parcel ids p).2 := by
  cases p with
  | plain context topic data =>
    exact (ids.before_fill context.txId).trans ((ids.fill context.txId).2.before_fill none)
  | withOptions context topic data options =>
    exact (ids.before_fill options.txId).trans ((ids.fill options.txId).2.before_fill options.id)

/-- A plain publication without transaction draws an id. -/
theorem drawn_parcel (plain : p.isPlain = true) (absent : p.context.txId = none) :
    ids.drawn < (parcel ids p).2.drawn := by
  cases p with
  | plain context topic data =>
    have absent' : context.txId = none := absent
    have drawn : (parcel ids (.plain context topic data)).2.drawn = ids.drawn + 2 := by
      simp only [parcel, absent', IdSource.fill, IdSource.draw]
    omega
  | withOptions => cases plain

/-- What the handlers of a plain publication are given carries one transaction. -/
theorem parcel_txId (plain : p.isPlain = true) :
    (parcel ids p).1.context.txId = some (parcel ids p).1.message.txId := by
  cases p with
  | plain context topic data => rfl
  | withOptions => cases plain

/-- A transaction of the publisher goes on in the context that the handlers are given. -/
theorem parcel_context_txId (carried : p.context.txId = some tx) :
    (parcel ids p).1.context.txId = some tx := by
  cases p with
  | plain context topic data =>
    have carried' : context.txId = some tx := carried
    simp only [parcel, carried', IdSource.fill]
  | withOptions => exact carried

end World

/-- What a handler that a plain publication calls is given, if the publisher uses the context `c`
and the next id is drawn from `ids`. -/
structure Call.Continues (call : Call) (c : Correlation) (ids : IdSource) : Prop where
  /-- The context carries the transaction of the message. -/
  transaction : call.context.txId = some call.message.txId
  /-- The context has the source of the message. -/
  source : call.context.source = call.message.source
  /-- It is the source of the publisher. -/
  origin : call.context.source = c.source
  /-- The context has the switch of the publisher. -/
  family : call.context.family = c.family
  /-- A transaction of the publisher is continued, even if it is the empty text. -/
  inherited : ∀ tx, c.txId = some tx → call.message.txId = tx
  /-- Where there is none, a new id is drawn. -/
  generated : c.txId = none → call.message.txId = ids.draw.1

/-- The publications of the past that use, one after the other, contexts that a handler of the
publication before was given: those at and below a publication. The contexts may have been kept for
later. -/
inductive Below (past : List Execution) (l : Lookup) : Lookup → Prop
  /-- The publication itself. -/
  | self (made : ∃ x ∈ past, x.act = .publish l) : Below past l l
  /-- A publication that uses a context from the one before. -/
  | nested {parent child : Lookup} (above : Below past l parent) {i : Invocation}
      (called : .call i ∈ record parent.number past)
      (derived : i.call.context.Derived child.publication.context)
      (made : ∃ x ∈ past, x.act = .publish child) : Below past l child

namespace Below

variable {past : List Execution} {l l' : Lookup}

/-- A publication at or below another one was made. -/
theorem made (b : Below past l l') : ∃ x ∈ past, x.act = .publish l' := by
  cases b with
  | self made => exact made
  | nested above called derived made => exact made

end Below

/-- How the transactions of a run hang together: its past, and the present moment. -/
structure Continuity (past : List Execution) (e : Execution) : Prop where
  /-- What a handler is given that a plain publication calls. -/
  plain : ∀ l i, (∃ x ∈ past, x.act = .publish l) → l.publication.isPlain = true →
    .call i ∈ record l.number past → i.call.Continues l.publication.context l.world.broker.ids
  /-- What a call is said to give is what the body of the attached handler is run on. -/
  bodies : ∀ x ∈ past, ∀ i, x.act = .call i →
    x.step.control = .running (i.attachment.handler.body i.call)
  /-- A publication with options hands its context on. -/
  withOptions : ∀ l i, (∃ x ∈ past, x.act = .publish l) → l.publication.isPlain = false →
    .call i ∈ record l.number past → i.call.context = l.publication.context
  /-- All handlers are given the message of the publication. -/
  message : ∀ l i, (∃ x ∈ past, x.act = .publish l) → .call i ∈ record l.number past →
    i.call.message = l.parcel.message
  /-- A plain publication below a plain one carries its transaction, whatever publications with
  options are between them. -/
  below : ∀ l l', l.publication.isPlain = true → Below past l l' →
    l'.publication.isPlain = true → l'.parcel.message.txId = l.parcel.message.txId
  /-- The number under which a new transaction was drawn is left behind for good. -/
  drawn : ∀ l, (∃ x ∈ past, x.act = .publish l) → l.publication.isPlain = true →
    l.publication.context.txId = none →
    e.world.broker.ids.ids = l.world.broker.ids.ids ∧
      l.world.broker.ids.drawn < e.world.broker.ids.drawn
  /-- No publication, no call and no panic changes a context. -/
  untouched : ∀ x ∈ past, (∀ op, x.act ≠ .perform op) → x.step.world.contexts = x.world.contexts
  /-- A context that is kept under a name stays until another one is kept under it. -/
  kept : ∀ before x after name, past = before ++ x :: after →
    (∀ y ∈ x :: after, ¬ y.act.Keeps name) →
    e.world.contexts.named.get? name = x.world.contexts.named.get? name
  /-- A context shows its transaction and its source at every moment. -/
  shown : ∀ c, ∃ cancelled,
    (e.world.perform (.viewContext c)).2 = .view ⟨c.txId, c.source, cancelled⟩

open Execution

namespace Course

variable {w : World} {past before after : List Execution} {d e : Execution} {l : Lookup}

/-- Every call of a publication of the past serves it. -/
theorem serves_of_made (c : Course w past e) (made : ∃ x ∈ past, x.act = .publish l)
    {i : Invocation} (called : .call i ∈ record l.number past) : i.Serves l := by
  obtain ⟨x, hx, publishes⟩ := made
  obtain ⟨before, after, rfl⟩ := List.append_of_mem hx
  rw [c.record_since publishes] at called
  exact c.serves publishes called

/-- Below a publication whose handlers are given a transaction, all handlers are given this one. -/
theorem txId_below (c : Course w past e) {l' : Lookup} (b : Below past l l') {tx : String}
    (top : l.parcel.context.txId = some tx) : l'.parcel.context.txId = some tx := by
  induction b with
  | self => exact top
  | @nested parent child above i called derived made ih =>
    have given := (c.serves_of_made above.made called).context
    have carried : child.publication.context.txId = some tx := by
      rw [derived.txId, given, ih]
    exact World.parcel_context_txId carried

/-- The source of ids before and after a step. -/
theorem before_step (x : Execution) :
    x.world.broker.ids.Before x.step.world.broker.ids := by
  rw [(move x).ids]
  cases x.act.lookup? with
  | none => exact ⟨rfl, Nat.le_refl _⟩
  | some l => exact World.before_parcel

/-- The source of ids at a moment of a course and later. -/
theorem before_ids (c : Course w (before ++ d :: after) e) :
    d.step.world.broker.ids.Before e.world.broker.ids := by
  refine c.carry (P := fun x => d.step.world.broker.ids.Before x.world.broker.ids)
    ⟨rfl, Nat.le_refl _⟩ ?_ fun _ _ _ h => h
  intro x _ held
  exact held.trans (before_step x)

/-- What a handler is given that a plain publication calls. -/
theorem continues (c : Course w past e) (made : ∃ x ∈ past, x.act = .publish l)
    (plain : l.publication.isPlain = true) {i : Invocation}
    (called : .call i ∈ record l.number past) :
    i.call.Continues l.publication.context l.world.broker.ids := by
  have served := c.serves_of_made made called
  obtain ⟨world, publication, guarded, resume, attachments⟩ := l
  cases publication with
  | withOptions => cases plain
  | plain context topic data =>
    have given := served.context
    have message := served.message
    refine ⟨?_, ?_, ?_, ?_, ?_, ?_⟩
    · rw [given, message]
      rfl
    · rw [given, message]
      rfl
    · rw [given]
      rfl
    · rw [given]
      rfl
    · intro tx carried
      have carried' : context.txId = some tx := carried
      rw [message]
      simp only [Lookup.parcel, World.parcel, carried', IdSource.fill]
    · intro absent
      have absent' : context.txId = none := absent
      rw [message]
      simp only [Lookup.parcel, World.parcel, absent', IdSource.fill]

/-- In every run, from the first program on, transactions are continued. -/
theorem continuity (c : Course w past e) : Continuity past e := by
  refine ⟨?_, fun x _ i => control_of_call, ?_, ?_, ?_, ?_, ?_, ?_, ?_⟩
  · intro l i made plain called
    exact c.continues made plain called
  · intro l i made options called
    have given := (c.serves_of_made made called).context
    rw [given, Lookup.parcel]
    generalize l.publication = p at options
    cases p with
    | plain => cases options
    | withOptions => rfl
  · intro l i made called
    exact (c.serves_of_made made called).message
  · intro l l' plain b plain'
    have top : l.parcel.context.txId = some l.parcel.message.txId := World.parcel_txId plain
    have bottom := c.txId_below b top
    have own : l'.parcel.context.txId = some l'.parcel.message.txId := World.parcel_txId plain'
    exact Option.some.inj (own.symm.trans bottom)
  · intro l made plain absent
    obtain ⟨x, hx, publishes⟩ := made
    obtain ⟨before, after, rfl⟩ := List.append_of_mem hx
    have m := move x
    rw [publishes] at m
    have step : x.step.world.broker.ids = (World.parcel l.world.broker.ids l.publication).2 := by
      rw [m.ids, m.lookup_world]
      rfl
    have later := c.before_ids
    rw [step] at later
    have drawn : l.world.broker.ids.drawn <
        (World.parcel l.world.broker.ids l.publication).2.drawn := World.drawn_parcel plain absent
    exact ⟨(World.before_parcel.trans later).ids, Nat.lt_of_lt_of_le drawn later.drawn⟩
  · intro x _ passive
    exact (move x).contexts passive
  · intro before x after name split other
    subst split
    exact c.named_eq other
  · intro context
    exact ⟨_, rfl⟩

/-- A program with a plain publication, below it one with options, and below that a plain one again.
-/
def relay : Program :=
  .perform (.registerTopic "a") fun _ => .perform (.registerTopic "b") fun _ =>
    .perform (.registerTopic "c") fun _ =>
      .subscribe "f" (.exact "a")
        (fun call => .publish (.withOptions call.context "b" default { txId := some "other" }) false
          fun _ => .done) <|
      .subscribe "g" (.exact "b")
        (fun call => .publish (.plain (call.context.withSource "g") "c" default) false
          fun _ => .done) <|
      .publish (.plain (.new 0) "a" default) false fun _ => .done

/-- The last message carries the transaction of the first one, though the message between them
carries another. -/
theorem continuity_relay :
    (((Execution.start .plain relay).trail 40).filterMap (·.act.lookup?)).map
        (·.parcel.message.txId) = ["id-1", "other", "id-1"] ∧
      Continuity ((Execution.start .plain relay).trail 40)
        (Execution.run 40 (.start .plain relay)) := by
  have c := (Course.start (w := .plain) relay).run 40
  rw [List.nil_append] at c
  exact ⟨by decide +kernel, continuity c⟩

end Course

end TopicBroker
