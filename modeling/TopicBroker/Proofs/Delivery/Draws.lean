import TopicBroker.Delivery.Creation
import TopicBroker.Proofs.Delivery.Calls

/-!
# What ids are drawn for

A publication that finds its topic draws ids for the fields of its message that it leaves open, the
transaction before the id, and nothing else draws ids. All this happens in the step in which it finds
the topic, so before it calls a handler. Over a whole course the ids are therefore drawn in the order
of the publications, and every one of them fills one field of one message.
-/

namespace TopicBroker

/-- A field of a message that holds an id. -/
inductive MessageField where
  /-- The transaction. -/
  | txId
  /-- The id of the message itself. -/
  | id
  deriving Repr, DecidableEq

/-- What is in a field of a message. -/
def Message.field (m : Message) : MessageField → String
  | .txId => m.txId
  | .id => m.id

namespace Publication

/-- What the publisher puts into a field. -/
def given? : Publication → MessageField → Option String
  | .plain context _ _, .txId => context.txId
  | .plain .., .id => none
  | .withOptions _ _ _ options, .txId => options.txId
  | .withOptions _ _ _ options, .id => options.id

/-- The fields that the publisher leaves open, in the order in which they are filled in. -/
def openFields (p : Publication) : List MessageField :=
  [.txId, .id].filter fun field => (p.given? field).isNone

end Publication

namespace World

variable (ids : IdSource) (p : Publication)

/-- The transaction of a message is filled in first, and its id after that. -/
theorem parcel_fill :
    (parcel ids p).1.message.txId = (ids.fill (p.given? .txId)).1 ∧
      (parcel ids p).1.message.id = ((ids.fill (p.given? .txId)).2.fill (p.given? .id)).1 ∧
      (parcel ids p).2 = ((ids.fill (p.given? .txId)).2.fill (p.given? .id)).2 := by
  cases p <;> exact ⟨rfl, rfl, rfl⟩

/-- What the publisher puts into a field is in the message. -/
theorem field_parcel_of_given {field : MessageField} {value : String}
    (given : p.given? field = some value) : (parcel ids p).1.message.field field = value := by
  obtain ⟨txId, id, -⟩ := parcel_fill ids p
  cases field with
  | txId => rw [Message.field, txId, given, IdSource.fill]
  | id => rw [Message.field, id, given, IdSource.fill]

/-- The source moves on by one id for every open field. -/
theorem ids_parcel :
    (parcel ids p).2 = { ids with drawn := ids.drawn + p.openFields.length } := by
  rw [(parcel_fill ids p).2.2]
  cases tx : p.given? .txId <;> cases id : p.given? .id <;>
    simp [Publication.openFields, tx, id, IdSource.fill, IdSource.draw]

/-- The open fields hold the next ids of the source, in their order. -/
theorem fields_parcel :
    p.openFields.map (parcel ids p).1.message.field =
      (List.range' ids.drawn p.openFields.length).map ids.ids := by
  obtain ⟨txId, id, -⟩ := parcel_fill ids p
  cases tx : p.given? .txId <;> cases own : p.given? .id <;>
    simp [Publication.openFields, tx, own, Message.field, txId, id, IdSource.fill, IdSource.draw,
      List.range']

end World

/-- An id that was drawn for an open field of a message. -/
structure Filling where
  /-- The number of the publication. -/
  publication : Nat
  /-- The field. -/
  field : MessageField
  /-- The id. -/
  value : String
  deriving Repr, DecidableEq

/-- Whether a field is filled in before another one: it belongs to an earlier publication, or it is
the transaction of the same one. -/
def Filling.Before (x y : Filling) : Prop :=
  x.publication < y.publication ∨
    x.publication = y.publication ∧ x.field = .txId ∧ y.field = .id

/-- What is filled in when a publication has found its topic. -/
def Lookup.fillings (l : Lookup) : List Filling :=
  l.publication.openFields.map fun field => ⟨l.number, field, l.parcel.message.field field⟩

/-- The publications of the past that found their topic, in order. -/
def lookups (past : List Execution) : List Lookup := past.filterMap (·.act.lookup?)

/-- What was filled in in the past, in order. -/
def fillings (past : List Execution) : List Filling := (lookups past).flatMap Lookup.fillings

theorem mem_lookups {past : List Execution} {l : Lookup} :
    l ∈ lookups past ↔ ∃ e ∈ past, e.act = .publish l := by
  simp only [lookups, List.mem_filterMap, Act.lookup?_eq_some_iff]

theorem fillings_append (past later : List Execution) :
    fillings (past ++ later) = fillings past ++ fillings later := by
  simp [fillings, lookups]

/-- A step fills in the open fields of the publication that finds its topic in it. -/
theorem fillings_singleton (e : Execution) :
    fillings [e] = (e.act.lookup?.map Lookup.fillings).getD [] := by
  cases h : e.act.lookup? <;> simp [fillings, lookups, h]

namespace Lookup

variable {l : Lookup} {x : Filling}

/-- What a publication fills in has its number. -/
theorem publication_of_mem_fillings (hx : x ∈ l.fillings) : x.publication = l.number := by
  obtain ⟨field, -, rfl⟩ := List.mem_map.mp hx
  rfl

/-- An open field is filled in with what is in the message. -/
theorem mem_fillings {field : MessageField} (isOpen : field ∈ l.publication.openFields) :
    ⟨l.number, field, l.parcel.message.field field⟩ ∈ l.fillings :=
  List.mem_map_of_mem isOpen

/-- What is filled in are the next ids of the source. -/
theorem values_fillings (l : Lookup) :
    l.fillings.map (·.value) =
      (List.range' l.world.broker.ids.drawn l.fillings.length).map l.world.broker.ids.ids := by
  rw [fillings, List.map_map, List.length_map]
  exact World.fields_parcel _ _

/-- The transaction is filled in before the id. -/
theorem pairwise_fillings (l : Lookup) : l.fillings.Pairwise Filling.Before := by
  have fields : l.publication.openFields.Pairwise fun f g => f = .txId ∧ g = .id :=
    List.Pairwise.filter _ (by simp)
  exact List.pairwise_map.mpr (fields.imp fun order => .inr ⟨rfl, order⟩)

end Lookup

open Execution

namespace Course

variable {w : World} {past before after : List Execution} {d e : Execution}

/-- The source has moved on by the ids that were filled in. -/
theorem ids_eq (c : Course w past e) :
    e.world.broker.ids =
      { w.broker.ids with drawn := w.broker.ids.drawn + (fillings past).length } := by
  induction c with
  | start program => rfl
  | @step past e c ih =>
    rw [(move e).ids, fillings_append, fillings_singleton]
    cases found : e.act.lookup? with
    | none => simpa using ih
    | some l =>
      simp only [Option.map_some, Option.getD_some, List.length_append, Lookup.fillings,
        List.length_map, World.ids_parcel, ih, Nat.add_assoc]
  | next c ended history program ih => exact ih

/-- What was filled in are the next ids of the source, in their order. -/
theorem values_fillings (c : Course w past e) :
    (fillings past).map (·.value) =
      (List.range' w.broker.ids.drawn (fillings past).length).map w.broker.ids.ids := by
  induction c with
  | start program => rfl
  | @step past e c ih =>
    rw [fillings_append, fillings_singleton]
    cases found : e.act.lookup? with
    | none => simpa using ih
    | some l =>
      have m := move e
      rw [Act.lookup?_eq_some_iff.mp found] at m
      rw [Option.map_some, Option.getD_some, List.map_append, List.length_append, ih,
        l.values_fillings, m.lookup_world, c.ids_eq, ← List.map_append, List.range'_append_1]
  | next c ended history program ih => exact ih

/-- Publications are numbered in the order in which they find their topics. -/
theorem pairwise_lookups (c : Course w past e) :
    (lookups past).Pairwise fun l l' => l.number < l'.number := by
  induction c with
  | start program => exact .nil
  | @step past e c ih =>
    rw [lookups, List.filterMap_append]
    refine List.pairwise_append.mpr ⟨ih, ?_, fun l hl l' hl' => ?_⟩
    · rw [List.filterMap_cons]
      split <;> simp
    · obtain ⟨d, hd, publishes⟩ := mem_lookups.mp hl
      obtain ⟨before, after, rfl⟩ := List.append_of_mem hd
      have given := c.number_le publishes
      obtain ⟨y, hy, publishes'⟩ := mem_lookups.mp hl'
      obtain rfl := List.mem_singleton.mp hy
      have m := move y
      rw [publishes'] at m
      rw [Lookup.number, Lookup.number, m.lookup_world]
      exact Nat.lt_succ_of_le given
  | next c ended history program ih => exact ih

/-- A publication is known by its number. -/
theorem eq_of_number_eq (c : Course w past e) {l l' : Lookup} (hl : l ∈ lookups past)
    (hl' : l' ∈ lookups past) (same : l.number = l'.number) : l = l' := by
  have nodup : ((lookups past).map Lookup.number).Nodup :=
    List.pairwise_map.mpr (c.pairwise_lookups.imp Nat.ne_of_lt)
  exact List.inj_on_of_nodup_map nodup hl hl' same

/-- Fields are filled in in the order of their publications. -/
theorem pairwise_fillings (c : Course w past e) : (fillings past).Pairwise Filling.Before := by
  refine List.pairwise_flatMap.mpr ⟨fun l _ => l.pairwise_fillings, ?_⟩
  refine c.pairwise_lookups.imp fun {l l'} lt x hx y hy => .inl ?_
  rw [Lookup.publication_of_mem_fillings hx, Lookup.publication_of_mem_fillings hy]
  exact lt

/-- While a delivery is under way, all that its publication fills in is filled in. -/
theorem mem_fillings_of_frame (c : Course w (before ++ e :: after) d) {f : Frame}
    (hf : f ∈ e.frames) {x : Filling} (hx : x ∈ fillings (before ++ e :: after))
    (own : x.publication = f.publication) : x ∈ fillings before := by
  -- the delivery began with a publication before `e`, and there is only one with its number
  obtain ⟨earlier, y, between, l, rfl, publishes, number⟩ := c.at_past.exists_publish hf
  obtain ⟨l', hl', filled⟩ := List.mem_flatMap.mp hx
  have made : l ∈ lookups (earlier ++ y :: between) := mem_lookups.mpr ⟨y, by simp, publishes⟩
  have same : l'.number = l.number := by
    rw [← Lookup.publication_of_mem_fillings filled, own, number]
  have known : l ∈ lookups (earlier ++ y :: between ++ e :: after) := by
    rw [lookups, List.filterMap_append]
    exact List.mem_append_left _ made
  obtain rfl := c.eq_of_number_eq hl' known same
  exact List.mem_flatMap.mpr ⟨l', made, filled⟩

end Course

/-- Registering the topics of settings draws no ids. -/
theorem Broker.ids_registerNamed {w w' : World} {topics : List String}
    (made : registerNamed w topics = .ok w') : w'.broker.ids = w.broker.ids := by
  induction topics generalizing w with
  | nil =>
    cases made
    rfl
  | cons topic rest ih =>
    unfold registerNamed at made
    split at made
    · cases made
    · rw [ih made]
      exact (w.perform_frame (.registerTopic (Text.trim topic))).2.1

/-- The first ids of a counter are counted from one, in a word of 64 bits. -/
theorem IdSource.map_ids_counted (label : String) (n : Nat) :
    (List.range' (counted label).drawn n).map (counted label).ids =
      (List.range' 1 n).map fun k => Counter.idText label (k % UInt64.size) := by
  have shifted : List.range' 1 n = (List.range' 0 n).map (1 + ·) :=
    (List.map_add_range' (a := 1) 0 n 1).symm
  have word (k : Nat) : (UInt64.ofNat (k + 1)).toNat = (1 + k) % UInt64.size := by
    rw [UInt64.toNat_ofNat', Nat.add_comm]
  rw [shifted, List.map_map]
  exact List.map_congr_left fun k _ => congrArg (Counter.idText label) (word k)

/-- A publication finds its topic and draws its ids: what it hands to its handlers is in the new
delivery `f` on the stack. -/
structure FillsIn (past : List Execution) (e : Execution) (p : Publication) (f : Frame) : Prop where
  /-- The delivery is the topmost one. -/
  begins : e.step.frames = f :: e.frames
  /-- None of its handlers has been called. -/
  silent : record f.publication (past ++ [e]) = []
  /-- As many ids are drawn as fields are left open. -/
  drawn : e.step.world.broker.ids =
    { e.world.broker.ids with drawn := e.world.broker.ids.drawn + p.openFields.length }
  /-- The fields hold these ids, the transaction the first one. -/
  filled : p.openFields.map f.parcel.message.field =
    (List.range' e.world.broker.ids.drawn p.openFields.length).map e.world.broker.ids.ids
  /-- The other fields hold what the publisher has put there. -/
  given : ∀ field value, p.given? field = some value → f.parcel.message.field field = value
  /-- This is all that is filled in. -/
  recorded : fillings (past ++ [e]) = fillings past ++
    p.openFields.map fun field => ⟨f.publication, field, f.parcel.message.field field⟩

/-- What the ids of a counter are drawn for. -/
structure Counted (label : String) (past : List Execution) : Prop where
  /-- They are the numbers from one on, without gaps and in the order in which they are drawn. -/
  values : (fillings past).map (·.value) =
    (List.range' 1 (fillings past).length).map (Counter.idText label)
  /-- Each of them is drawn for one field of one message. -/
  unique : ∀ x ∈ fillings past, ∀ y ∈ fillings past, x.value = y.value → x = y
  /-- Different messages have different ids. -/
  ids : ∀ l ∈ lookups past, ∀ l' ∈ lookups past, .id ∈ l.publication.openFields →
    .id ∈ l'.publication.openFields → l.parcel.message.id = l'.parcel.message.id → l = l'
  /-- No id is a transaction. -/
  apart : ∀ l ∈ lookups past, ∀ l' ∈ lookups past, .id ∈ l.publication.openFields →
    .txId ∈ l'.publication.openFields → l.parcel.message.id ≠ l'.parcel.message.txId

/-- All that ids are drawn for in a course of a broker, up to the present moment. -/
structure Draws (w : World) (past : List Execution) (e : Execution) : Prop where
  /-- A broker that was built from settings starts at the first id. -/
  settings : ∀ settings seed, Broker.fromSettings settings seed = .ok w →
    w.broker.ids = settings.ids seed
  /-- A publication that finds its topic draws ids for its open fields. -/
  found : ∀ p, e.attempt? = some p → e.finds = true → ∃ f, FillsIn past e p f
  /-- Nothing else draws any. -/
  others : e.finds = false → e.step.world.broker.ids = e.world.broker.ids
  /-- The source has moved on by the ids that were filled in. -/
  position : e.world.broker.ids =
    { w.broker.ids with drawn := w.broker.ids.drawn + (fillings past).length }
  /-- These are its next ids, in their order and each of them once. -/
  values : (fillings past).map (·.value) =
    (List.range' w.broker.ids.drawn (fillings past).length).map w.broker.ids.ids
  /-- They are drawn in the order of the publications, for each field at most once. -/
  ordered : (fillings past).Pairwise Filling.Before
  /-- When a publication makes a call, all ids of its message have been drawn. -/
  beforeCalls : ∀ before x after i, past = before ++ x :: after → x.act = .call i →
    ∀ y ∈ fillings past, y.publication = i.publication → y ∈ fillings before
  /-- When a publication is made in the course of calls, all ids of the messages of these have been
  drawn. -/
  beforeNested : ∀ before x after l, past = before ++ x :: after → x.act = .publish l →
    fillings past = fillings before ++ l.fillings ++ fillings after ∧
      ∀ f ∈ x.frames, ∀ y ∈ fillings past, y.publication = f.publication → y ∈ fillings before
  /-- The numbers in the ids of a counter start again when their word is full. -/
  wrapped : ∀ label, w.broker.ids = .counted label → (fillings past).map (·.value) =
    (List.range' 1 (fillings past).length).map fun k => Counter.idText label (k % UInt64.size)
  /-- Until then they are the numbers from one on, and never twice the same. -/
  counted : ∀ label, w.broker.ids = .counted label → (fillings past).length < UInt64.size →
    Counted label past

namespace Course

variable {w : World} {past : List Execution} {e : Execution}

/-- A publication that finds its topic draws ids for its open fields. -/
theorem fillsIn (c : Course w past e) {p : Publication} (asks : e.attempt? = some p)
    (finds : e.finds = true) : ∃ f, FillsIn past e p f := by
  obtain ⟨nothing, -⟩ | ⟨p', asks', ⟨-, act⟩ | ⟨l, same, -, act⟩⟩ := e.attempt_cases
  · rw [asks] at nothing
    cases nothing
  · rw [finds_eq, act] at finds
    cases finds
  · rw [asks, ← same] at asks'
    obtain rfl := Option.some.inj asks'
    have m := move e
    rw [act] at m
    have world := m.lookup_world
    refine ⟨l.frame, m.frames_publish, ?_, ?_, ?_, ?_, ?_⟩
    · have later : e.world.publications < l.number := by
        rw [Lookup.number, world]
        exact Nat.lt_succ_self _
      rw [record_append, record_singleton, act]
      exact congrArg (· ++ []) (c.record_eq_nil later)
    · rw [m.ids]
      exact World.ids_parcel _ _
    · rw [← world]
      exact World.fields_parcel _ _
    · intro field value given
      exact World.field_parcel_of_given _ _ given
    · rw [fillings_append, fillings_singleton, act]
      rfl

/-- No step draws ids but one in which a publication finds its topic. -/
theorem ids_step (e : Execution) (other : e.finds = false) :
    e.step.world.broker.ids = e.world.broker.ids := by
  have absent : e.act.lookup? = none := by simpa [finds_eq] using other
  rw [(move e).ids, absent]
  rfl

/-- The ids of a counter are the numbers from one on, and never twice the same, until the word of the
counter is full. -/
theorem counted (c : Course w past e) {label : String} (source : w.broker.ids = .counted label)
    (few : (fillings past).length < UInt64.size) : Counted label past := by
  have values : (fillings past).map (·.value) =
      (List.range' 1 (fillings past).length).map (Counter.idText label) := by
    rw [c.values_fillings, source, IdSource.map_ids_counted]
    -- up to the number of draws, nothing is cut off
    refine List.map_congr_left fun k hk => ?_
    have below := (List.mem_range'_1.mp hk).2
    rw [Nat.mod_eq_of_lt (by omega)]
  have nodup : ((fillings past).map (·.value)).Nodup := by
    rw [values]
    exact (List.nodup_range' 1).map fun _ _ => Counter.idText_injective
  have unique : ∀ x ∈ fillings past, ∀ y ∈ fillings past, x.value = y.value → x = y :=
    fun x hx y hy => List.inj_on_of_nodup_map nodup hx hy
  have filled {l : Lookup} (hl : l ∈ lookups past) {field : MessageField}
      (isOpen : field ∈ l.publication.openFields) :
      ⟨l.number, field, l.parcel.message.field field⟩ ∈ fillings past :=
    List.mem_flatMap.mpr ⟨l, hl, Lookup.mem_fillings isOpen⟩
  refine ⟨values, unique, ?_, ?_⟩
  · intro l hl l' hl' isOpen isOpen' same
    have one := unique _ (filled hl isOpen) _ (filled hl' isOpen') same
    exact c.eq_of_number_eq hl hl' (congrArg Filling.publication one)
  · intro l hl l' hl' isOpen isOpen' same
    have one := unique _ (filled hl isOpen) _ (filled hl' isOpen') same
    cases congrArg Filling.field one

/-- Ids are drawn for the open fields of messages, in the order of the publications and of the
fields, and for nothing else; those of a counter are all different. -/
theorem draws (c : Course w past e) : Draws w past e := by
  refine ⟨?_, ?_, ids_step e, c.ids_eq, c.values_fillings, c.pairwise_fillings, ?_, ?_, ?_, ?_⟩
  · intro settings seed made
    exact Broker.ids_registerNamed made
  · intro p asks finds
    exact c.fillsIn asks finds
  · rintro before x after i rfl calls y hy own
    have m := move x
    rw [calls] at m
    obtain ⟨f, frames, stack, number⟩ := m.publication_top c.at_past.sound rfl
    have hf : f ∈ x.frames := stack ▸ List.mem_cons_self
    exact c.mem_fillings_of_frame hf hy (own.trans number.symm)
  · rintro before x after l rfl publishes
    refine ⟨?_, fun f hf y hy own => c.mem_fillings_of_frame hf hy own⟩
    rw [← List.singleton_append, fillings_append, fillings_append, fillings_singleton, publishes,
      List.append_assoc]
    rfl
  · intro label source
    rw [c.values_fillings, source, IdSource.map_ids_counted]
  · intro label source few
    exact c.counted source few

/-- A program whose publication calls `p`. The handler `p` publishes three times: with a transaction
of its own, to a topic that is not registered, and with the transaction that it was given. What it
calls panics. -/
def errands : Program :=
  .perform (.registerTopic "a") fun _ => .perform (.registerTopic "b") fun _ =>
    .subscribe "p" (.exact "a")
      (fun call =>
        .publish (.withOptions call.context "b" default { txId := some "own" }) true fun _ =>
          .publish (.plain call.context "c" default) false fun _ =>
            .publish (.plain call.context "b" default) true fun _ => .done) <|
    .subscribe "q" (.exact "b") (fun _ => .panic "out") <|
    .publish (.plain (.new 0) "a" default) false fun _ => .done

/-- The transaction that the first publication draws is used again by the third one, which draws only
its id. -/
theorem draws_errands :
    let past := (Execution.start .plain errands).trail 40
    fillings past =
        [⟨1, .txId, "id-1"⟩, ⟨1, .id, "id-2"⟩, ⟨2, .id, "id-3"⟩, ⟨3, .id, "id-4"⟩] ∧
      Draws .plain past (Execution.run 40 (.start .plain errands)) := by
  have c := (Course.start (w := .plain) errands).run 40
  rw [List.nil_append] at c
  exact ⟨by decide +kernel, c.draws⟩

end Course

end TopicBroker
