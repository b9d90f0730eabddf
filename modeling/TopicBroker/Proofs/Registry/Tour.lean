import Mathlib.Data.List.Pairwise
import Mathlib.Data.List.Permutation
import TopicBroker.Proofs.Registry.Order

/-!
# Going through a registry in any order

Topics and handlers stand in tables, and a loop over a table may come to the entries in any order,
in another one every time. Five loops go through tables: the handlers that match a new topic are
collected, a new handler is put into the lists of topics, a handler that is taken out is looked for in
all lists, topics and keys are listed. Here each of them takes the order as a tour through the table.
Main statement: whatever the tours are, a coherent registry does and answers what it does and answers
on the tour in increasing order of the names. For the handlers of a topic this rests on the numbers of
the registrations, which are different; for names it rests on the names.
-/

namespace TopicBroker

/-- Sorting brings elements into the one order in which they increase strictly, in whatever order they
come. -/
theorem mergeSort_eq_of_perm {α : Type} {le : α → α → Bool} {l m : List α}
    (trans : ∀ a b c, le a b = true → le b c = true → le a c = true)
    (total : ∀ a b, (le a b || le b a) = true) (perm : l.Perm m)
    (strict : m.Pairwise fun a b => le b a = false) : l.mergeSort le = m := by
  have ordered : m.Pairwise fun a b => le a b = true := by
    refine strict.imp fun {a b} less => ?_
    simpa [less] using total a b
  have apart : m.Pairwise fun a b => ¬ (le a b = true ∧ le b a = true) := by
    refine strict.imp fun {a b} less both => ?_
    rw [less] at both
    exact Bool.false_ne_true both.2
  have : Std.Symm fun a b => ¬ (le a b = true ∧ le b a = true) :=
    ⟨fun _ _ h both => h both.symm⟩
  have same := (List.mergeSort_perm l le).trans perm
  refine same.eq_of_pairwise ?_ (List.pairwise_mergeSort trans total l) ordered
  intro a b ha hb ab ba
  by_contra ne
  exact apart.forall (same.mem_iff.mp ha) hb ne ⟨ab, ba⟩

/-- Put names into increasing order. -/
def sortNames (names : List String) : List String := names.mergeSort fun a b => a ≤ b

/-- Names that come in any order are sorted into the one order in which they increase. -/
theorem sortNames_eq {names sorted : List String} (perm : names.Perm sorted)
    (increasing : sorted.Pairwise (· < ·)) : sortNames names = sorted := by
  refine mergeSort_eq_of_perm (fun a b c ab bc => ?_) (fun a b => ?_) perm ?_
  · exact decide_eq_true (String.le_trans (of_decide_eq_true ab) (of_decide_eq_true bc))
  · rw [Bool.or_eq_true, decide_eq_true_eq, decide_eq_true_eq]
    exact String.le_total a b
  · exact increasing.imp fun less => decide_eq_false (String.not_le.mpr less)

namespace Table

variable {α : Type} {t : Table α} {edit : String → α → Option α} {done : Table α × Nat}
  {e : String × α} {es : List (String × α)} {name : String}

/-- A way through a table: its entries in some order. -/
structure Tour (t : Table α) where
  /-- The entries in the order in which they are visited. -/
  entries : List (String × α)
  /-- Every entry is visited once. -/
  perm : entries.Perm t.entries

/-- The tour in increasing order of the names. -/
def Tour.forwards (t : Table α) : t.Tour := ⟨t.entries, .refl _⟩

/-- The tour in decreasing order of the names. -/
def Tour.backwards (t : Table α) : t.Tour := ⟨t.entries.reverse, List.reverse_perm _⟩

/-- The names that are met on a tour. -/
def Tour.names (tour : t.Tour) : List String := tour.entries.map (·.1)

/-- They are the names of the table. -/
theorem Tour.perm_names (tour : t.Tour) : tour.names.Perm t.names := tour.perm.map _

/-- What a loop does at an entry: it changes the value, if there is anything to change, and counts
the change. -/
def visit (edit : String → α → Option α) (done : Table α × Nat) (e : String × α) :
    Table α × Nat :=
  match edit e.1 e.2 with
  | some value => (done.1.insert e.1 value, done.2 + 1)
  | none => done

/-- Go through a table, change values and count the changes. -/
def editAlong (edit : String → α → Option α) (t : Table α) (tour : t.Tour) : Table α × Nat :=
  tour.entries.foldl (visit edit) (t, 0)

/-- At an entry no other value is changed. -/
theorem get?_visit (own : done.1.get? e.1 = some e.2) : (visit edit done e).1.get? name =
    if name = e.1 then some ((edit e.1 e.2).getD e.2) else done.1.get? name := by
  unfold visit
  split
  · next value changes => rw [get?_insert, changes, Option.getD_some]
  · next keeps =>
    rw [keeps, Option.getD_none]
    split
    · next same => rw [same, own]
    · rfl

/-- A loop over different names changes the values of these names, each one as if there were no
others. -/
theorem get?_foldl_visit (different : (es.map (·.1)).Nodup)
    (own : ∀ e ∈ es, done.1.get? e.1 = some e.2) : (es.foldl (visit edit) done).1.get? name =
      if name ∈ es.map (·.1) then (done.1.get? name).map fun v => (edit name v).getD v
      else done.1.get? name := by
  induction es generalizing done with
  | nil => rfl
  | cons e rest ih =>
    have first := own e List.mem_cons_self
    obtain ⟨fresh, different'⟩ := List.nodup_cons.mp different
    have own' : ∀ f ∈ rest, (visit edit done e).1.get? f.1 = some f.2 := by
      intro f hf
      have ne : f.1 ≠ e.1 := fun same => fresh (List.mem_map.mpr ⟨f, hf, same⟩)
      rw [get?_visit first, if_neg ne]
      exact own f (List.mem_cons_of_mem _ hf)
    rw [List.foldl_cons, ih different' own', get?_visit first]
    by_cases here : name = e.1
    · subst here
      have fresh' : e.1 ∉ rest.map (·.1) := fresh
      simp [fresh', first]
    · rw [if_neg here]
      simp only [List.map_cons, List.mem_cons, here, false_or]

/-- It counts the entries at which there is something to change. -/
theorem snd_foldl_visit (es : List (String × α)) (done : Table α × Nat) :
    (es.foldl (visit edit) done).2 =
      done.2 + (es.filter fun e => (edit e.1 e.2).isSome).length := by
  induction es generalizing done with
  | nil => rfl
  | cons e rest ih =>
    rw [List.foldl_cons, ih]
    unfold visit
    cases changes : edit e.1 e.2 <;> simp [changes, Nat.add_assoc, Nat.add_comm]

/-- On every tour the same values are changed. -/
theorem editAlong_eq (edit : String → α → Option α) (tour : t.Tour) : t.editAlong edit tour =
    (t.map fun name value => (edit name value).getD value,
      (t.entries.filter fun e => (edit e.1 e.2).isSome).length) := by
  have different : (tour.entries.map (·.1)).Nodup := tour.perm_names.nodup_iff.mpr t.names_nodup
  have own : ∀ e ∈ tour.entries, t.get? e.1 = some e.2 := fun e he =>
    get?_eq_some_iff.mpr (tour.perm.mem_iff.mp he)
  have all (name : String) : name ∈ tour.entries.map (·.1) ↔ t.contains name = true :=
    tour.perm_names.mem_iff.trans mem_names
  refine Prod.ext (ext fun name => ?_) ?_
  · rw [editAlong, get?_foldl_visit different own, get?_map]
    split
    · rfl
    · next absent =>
      have none : t.get? name = none := by simpa [all, contains] using absent
      rw [none]
      rfl
  · rw [editAlong, snd_foldl_visit, Nat.zero_add]
    exact (tour.perm.filter _).length_eq

end Table

namespace Registry

variable {H : Type} {r : Registry H} {accepts : H → String → Bool}

/-- Put a handler at the end of the lists of the topics that it accepts, topic by topic, and count
them. -/
def attachAlong (accepts : H → String → Bool) (a : Attachment H)
    {topics : Table (List (Attachment H))} (tour : topics.Tour) :
    Table (List (Attachment H)) × Nat :=
  topics.editAlong
    (fun name list => if accepts a.handler name then some (list ++ [a]) else none) tour

/-- Take the first attachment of a key out of every list that holds one, and count these lists. -/
def detachAlong (key : String) {topics : Table (List (Attachment H))} (tour : topics.Tour) :
    Table (List (Attachment H)) × Nat :=
  topics.editAlong
    (fun _ list =>
      if list.any fun a => a.key == key then some (list.eraseP fun a => a.key == key) else none)
    tour

/-- Ask a handler for every topic whether it accepts it, and sort those that it accepts. -/
def subscriptionsAlong (accepts : H → String → Bool) (r : Registry H) (tour : r.topics.Tour)
    (key : String) : List String :=
  match r.handlers.get? key with
  | none => []
  | some reg => sortNames (tour.names.filter (accepts reg.handler))

/-- On every tour the handlers of a topic are collected in the order of their registration: their
numbers are different. -/
theorem Coherent.matchingAmong_tour (h : r.Coherent) (tour : r.handlers.Tour) (topic : String) :
    matchingAmong accepts tour.entries topic = r.matching accepts topic := by
  have collected := (tour.perm.filter fun e => accepts e.2.handler topic).map fun e =>
    e.2.attachment e.1
  have perm := collected.trans (List.mergeSort_perm _ fun a b => decide (a.seq ≤ b.seq)).symm
  refine mergeSort_eq_of_perm (fun a b c ab bc => ?_) (fun a b => ?_) perm ?_
  · exact decide_eq_true (Nat.le_trans (of_decide_eq_true ab) (of_decide_eq_true bc))
  · rw [Bool.or_eq_true, decide_eq_true_eq, decide_eq_true_eq]
    exact Nat.le_total a.seq b.seq
  · exact (h.pairwise_matching accepts topic).imp fun earlier =>
      decide_eq_false (Nat.not_le.mpr earlier)

/-- If two handlers had the same number, the order would show. -/
example : let e : String × Registration Nat := ("a", ⟨1, 0⟩)
    let f : String × Registration Nat := ("b", ⟨1, 0⟩)
    (matchingAmong (fun _ _ => true) [e, f] "t").map (·.key) = ["a", "b"] ∧
      (matchingAmong (fun _ _ => true) [f, e] "t").map (·.key) = ["b", "a"] := by
  cbv

/-- On every tour a handler is attached to the same lists. -/
theorem attachAlong_eq (a : Attachment H) (tour : r.topics.Tour) : attachAlong accepts a tour =
    (attachEverywhere accepts a r.topics, (r.listTopics.filter (accepts a.handler)).length) := by
  rw [attachAlong, Table.editAlong_eq]
  refine Prod.ext ?_ ?_
  · have value (name : String) (list : List (Attachment H)) :
        (if accepts a.handler name then some (list ++ [a]) else none).getD list =
          if accepts a.handler name then list ++ [a] else list := by
      split <;> rfl
    simp only [value]
    rfl
  · have accepted : (fun e : String × List (Attachment H) =>
        (if accepts a.handler e.1 then some (e.2 ++ [a]) else none).isSome) =
          accepts a.handler ∘ (·.1) := by
      funext e
      cases own : accepts a.handler e.1 <;> simp [own]
    rw [listTopics, Table.names, List.filter_map, List.length_map, accepted]

/-- On every tour a key is taken out of the same lists. -/
theorem detachAlong_eq (key : String) (tour : r.topics.Tour) : detachAlong key tour =
    (detachEverywhere key r.topics, attachedCount key r.topics) := by
  rw [detachAlong, Table.editAlong_eq]
  refine Prod.ext ?_ ?_
  · have value (list : List (Attachment H)) :
        (if list.any fun a => a.key == key then some (list.eraseP fun a => a.key == key)
          else none).getD list = list.eraseP fun a => a.key == key := by
      split
      · rfl
      · next absent =>
        refine (List.eraseP_of_forall_not fun a ha holds => absent ?_).symm
        exact List.any_eq_true.mpr ⟨a, ha, holds⟩
    simp only [value]
    rfl
  · have held : (fun e : String × List (Attachment H) =>
        (if e.2.any fun a => a.key == key then some (e.2.eraseP fun a => a.key == key)
          else none).isSome) = fun e => e.2.any fun a => a.key == key := by
      funext e
      split
      · next present => exact present.symm
      · next absent => exact (Bool.eq_false_iff.mpr absent).symm
    simp only [held]
    rfl

/-- What the loops do does not depend on the tours. -/
structure SameOnTours (accepts : H → String → Bool) (r : Registry H) : Prop where
  /-- The handlers of a topic are collected in the order of their registration. -/
  matching : ∀ (tour : r.handlers.Tour) topic,
    matchingAmong accepts tour.entries topic = r.matching accepts topic
  /-- A handler is attached to the same lists, and as many of them are counted. -/
  attached : ∀ (tour : r.topics.Tour) a, attachAlong accepts a tour =
    (attachEverywhere accepts a r.topics, (r.listTopics.filter (accepts a.handler)).length)
  /-- A key is taken out of the same lists, and as many of them are counted. -/
  detached : ∀ (tour : r.topics.Tour) key, detachAlong key tour =
    (detachEverywhere key r.topics, attachedCount key r.topics)
  /-- The same topics are listed in the same order. -/
  topics : ∀ tour : r.topics.Tour, sortNames tour.names = r.listTopics
  /-- The same keys are listed in the same order. -/
  keys : ∀ tour : r.handlers.Tour, sortNames tour.names = r.listHandlerKeys
  /-- The same topics of a handler are listed in the same order. -/
  subscriptions : ∀ (tour : r.topics.Tour) key,
    subscriptionsAlong accepts r tour key = r.subscriptionsOf accepts key

/-- In a coherent registry the tours do not matter. -/
theorem Coherent.sameOnTours (h : r.Coherent) (accepts : H → String → Bool) :
    SameOnTours accepts r where
  matching := h.matchingAmong_tour
  attached tour a := attachAlong_eq a tour
  detached tour key := detachAlong_eq key tour
  topics tour := sortNames_eq tour.perm_names r.topics.names_sorted
  keys tour := sortNames_eq tour.perm_names r.handlers.names_sorted
  subscriptions tour key := by
    unfold subscriptionsAlong subscriptionsOf
    cases r.handlers.get? key with
    | none => rfl
    | some reg =>
      exact sortNames_eq (tour.perm_names.filter _) (r.topics.names_sorted.filter _)

/-- The loops of a registry. -/
inductive Loop where
  /-- The handlers that accept a new topic are collected. -/
  | collecting
  /-- A new handler is attached to topics. -/
  | attaching
  /-- A handler is detached from topics. -/
  | detaching
  /-- Topics or keys are listed. -/
  | listing

/-- Which tours the loops take, through whatever tables there are. -/
abbrev Itinerary := (loop : Loop) → {α : Type} → (t : Table α) → t.Tour

/-- Register a topic, for which the handlers are collected on a tour. -/
def registerTopicAlong (i : Itinerary) (accepts : H → String → Bool) (r : Registry H)
    (name : String) : Registry H × Option Nat :=
  if r.hasTopic name then (r, none)
  else
    let attachments := matchingAmong accepts (i .collecting r.handlers).entries name
    ({ r with topics := r.topics.insert name attachments }, some attachments.length)

/-- Take a handler out, for which the topics are gone through on a tour. -/
def deregisterHandlerAlong (i : Itinerary) (r : Registry H) (key : String) :
    Registry H × Option Nat :=
  if r.hasHandler key then
    let (topics, detached) := detachAlong key (i .detaching r.topics)
    ({ r with topics, handlers := r.handlers.erase key }, some detached)
  else (r, none)

/-- Register a handler, for which the topics are gone through on a tour, and on another one before if
there is a handler of the same key. -/
def registerHandlerAlong (i : Itinerary) (accepts : H → String → Bool) (r : Registry H)
    (key : String) (handler : H) : Registry H × Registered :=
  let (r, detached) := r.deregisterHandlerAlong i key
  let reg : Registration H := ⟨r.lastSeq + 1, handler⟩
  let (topics, attached) := attachAlong accepts (reg.attachment key) (i .attaching r.topics)
  ({ topics, handlers := r.handlers.insert key reg, lastSeq := reg.seq }, { detached, attached })

/-- The registry after a change whose loops take the given tours. -/
def applyAlong (i : Itinerary) (accepts : H → String → Bool) (r : Registry H) :
    Change H → Registry H
  | .registerTopic name => (r.registerTopicAlong i accepts name).1
  | .deregisterTopic name => (r.deregisterTopic name).1
  | .registerHandler key handler => (r.registerHandlerAlong i accepts key handler).1
  | .deregisterHandler key => (r.deregisterHandlerAlong i key).1

/-- The registry after the changes of a log, each of which takes tours of its own. -/
def replayAlong (log : List (Itinerary × MadeChange H)) : Registry H :=
  log.foldl (fun r m => r.applyAlong m.1 m.2.accepts m.2.change) empty

/-- On every tour a topic is registered in the same way. -/
theorem Coherent.registerTopicAlong_eq (h : r.Coherent) (i : Itinerary)
    (accepts : H → String → Bool) (name : String) :
    r.registerTopicAlong i accepts name = r.registerTopic accepts name := by
  rw [registerTopicAlong, Registry.registerTopic, h.matchingAmong_tour]

/-- On every tour a handler is taken out in the same way. -/
theorem deregisterHandlerAlong_eq (i : Itinerary) (r : Registry H) (key : String) :
    r.deregisterHandlerAlong i key = r.deregisterHandler key := by
  rw [deregisterHandlerAlong, deregisterHandler, detachAlong_eq]

/-- On every tour a handler is registered in the same way. -/
theorem registerHandlerAlong_eq (i : Itinerary) (accepts : H → String → Bool) (r : Registry H)
    (key : String) (handler : H) :
    r.registerHandlerAlong i accepts key handler = r.registerHandler accepts key handler := by
  simp only [registerHandlerAlong, registerHandler, deregisterHandlerAlong_eq, attachAlong_eq]
  rfl

/-- On every tour a change leads to the same registry. -/
theorem Coherent.applyAlong_eq (h : r.Coherent) (i : Itinerary) (accepts : H → String → Bool)
    (c : Change H) : r.applyAlong i accepts c = r.apply accepts c := by
  cases c with
  | registerTopic name => exact congrArg Prod.fst (h.registerTopicAlong_eq i accepts name)
  | deregisterTopic name => rfl
  | registerHandler key handler =>
    exact congrArg Prod.fst (registerHandlerAlong_eq i accepts r key handler)
  | deregisterHandler key => exact congrArg Prod.fst (deregisterHandlerAlong_eq i r key)

/-- Whatever the tours are, the changes of a log lead to the same registry. -/
theorem replayAlong_eq (log : List (Itinerary × MadeChange H)) :
    replayAlong log = replay (log.map (·.2)) := by
  induction log using List.reverseRecOn with
  | nil => rfl
  | append_singleton log m ih =>
    have step : replayAlong (log ++ [m]) =
        (replayAlong log).applyAlong m.1 m.2.accepts m.2.change := by
      simp [replayAlong]
    rw [step, ih, List.map_append, List.map_singleton, replay_append_singleton]
    exact (coherent_replay _).applyAlong_eq m.1 m.2.accepts m.2.change

end Registry

end TopicBroker
