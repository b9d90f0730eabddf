import Mathlib.Algebra.BigOperators.Group.List.Basic
import Mathlib.Algebra.Ring.Nat
import TopicBroker.Proofs.Registry.Decision

/-!
# How many attachments there are

The lists of all topics together hold so many attachments. A change of the registry reports how many
handlers a topic got, from how many topics a handler was detached and to how many it was attached.
Main statements: what these numbers count, in the lists before and after the change, and that the
attachments become more and fewer by just these numbers.
-/

namespace TopicBroker

namespace Table

variable {α β : Type}

/-- The sum of a number for every entry. -/
def total (f : String → α → Nat) (t : Table α) : Nat := (t.entries.map fun e => f e.1 e.2).sum

/-- Every mapped entry counts for the one it comes from. -/
theorem total_map (f : String → β → Nat) (g : String → α → β) (t : Table α) :
    (t.map g).total f = t.total fun name value => f name (g name value) := by
  simp [total, map, Function.comp_def]

/-- Two numbers for every entry are added up together or one after the other. -/
theorem total_add (f g : String → α → Nat) (t : Table α) :
    (t.total fun name value => f name value + g name value) = t.total f + t.total g :=
  List.sum_map_add

/-- How many entries there are of a kind, as a sum. -/
theorem length_filter_entries (p : String → α → Bool) (t : Table α) :
    (t.entries.filter fun e => p e.1 e.2).length = t.total fun name value => (p name value).toNat := by
  unfold total
  induction t.entries with
  | nil => rfl
  | cons e rest ih =>
    rw [List.map_cons, List.sum_cons, ← ih, List.filter_cons]
    cases kind : p e.1 e.2 <;> simp [kind, Nat.add_comm]

/-- How many names there are of a kind, as a sum. -/
theorem length_filter_names (p : String → Bool) (t : Table α) :
    (t.names.filter p).length = t.total fun name _ => (p name).toNat := by
  rw [← length_filter_entries fun name _ => p name, names, List.filter_map, List.length_map]
  rfl

/-- A new entry adds its number. -/
theorem total_insert {t : Table α} {name : String} (absent : t.get? name = none)
    (f : String → α → Nat) (value : α) :
    (t.insert name value).total f = t.total f + f name value := by
  have entries {es : List (String × α)} (absent : valueIn name es = none) :
      ((insertInto name value es).map fun e => f e.1 e.2).sum =
        (es.map fun e => f e.1 e.2).sum + f name value := by
    induction es with
    | nil => simp [insertInto]
    | cons e rest ih =>
      obtain ⟨n, v⟩ := e
      by_cases same : name = n
      · simp [valueIn, same] at absent
      · simp only [valueIn, same, if_false] at absent
        by_cases before : name < n
        · simp only [insertInto, same, before, if_false, if_true, List.map_cons, List.sum_cons]
          omega
        · simp only [insertInto, same, before, if_false, List.map_cons, List.sum_cons, ih absent]
          omega
  exact entries absent

/-- An entry that is taken out takes its number away. -/
theorem total_erase (f : String → α → Nat) (t : Table α) (name : String) :
    (t.erase name).total f + ((t.get? name).map (f name)).getD 0 = t.total f := by
  have entries {es : List (String × α)} (sorted : es.Pairwise fun a b => a.1 < b.1) :
      ((es.filter fun e => e.1 != name).map fun e => f e.1 e.2).sum +
        ((valueIn name es).map (f name)).getD 0 = (es.map fun e => f e.1 e.2).sum := by
    induction es with
    | nil => rfl
    | cons e rest ih =>
      obtain ⟨n, v⟩ := e
      obtain ⟨above, tail⟩ := List.pairwise_cons.mp sorted
      have others := ih tail
      by_cases same : name = n
      · subst same
        -- the names behind are above this one, so none of them is the same
        rw [valueIn_eq_none_of_lt above] at others
        simp only [valueIn, List.filter_cons, bne_self_eq_false, Bool.false_eq_true, if_false,
          if_true, List.map_cons, List.sum_cons, Option.map_some, Option.getD_some]
        simp only [Option.map_none, Option.getD_none] at others
        omega
      · have other : (n != name) = true := by simpa using Ne.symm same
        simp only [valueIn, same, if_false, List.filter_cons, other, if_true, List.map_cons,
          List.sum_cons]
        omega
  exact entries t.sorted

end Table

namespace Registry

variable {H : Type} {r : Registry H} {key name : String}

/-- How many attachments the lists of all topics hold together. -/
def attachmentCount (r : Registry H) : Nat :=
  (r.listTopics.map fun topic => (r.attachedKeys topic).length).sum

/-- The topics that have a key in their lists, in increasing order. -/
def topicsOf (r : Registry H) (key : String) : List String :=
  r.listTopics.filter fun topic => (r.attachedKeys topic).contains key

/-- The keys that are attached to a topic are those in the list of its entry. -/
theorem attachedKeys_of_mem {e : String × List (Attachment H)} (h : e ∈ r.topics.entries) :
    r.attachedKeys e.1 = e.2.map (·.key) := by
  rw [attachedKeys, snapshot, Table.get?_eq_some_iff.mpr h, Option.getD_some]

/-- The attachments are those in the lists of the entries. -/
theorem attachmentCount_eq_total (r : Registry H) :
    r.attachmentCount = r.topics.total fun _ list => list.length := by
  unfold attachmentCount listTopics Table.names Table.total
  rw [List.map_map]
  refine congrArg List.sum (List.map_congr_left fun e he => ?_)
  rw [Function.comp_apply, attachedKeys_of_mem he, List.length_map]

/-- The topics that have a key attached are as many as are counted. -/
theorem attachedCount_eq (r : Registry H) (key : String) :
    attachedCount key r.topics = (r.topicsOf key).length := by
  unfold attachedCount topicsOf listTopics Table.names
  rw [List.filter_map, List.length_map]
  refine congrArg List.length (List.filter_congr fun e he => ?_)
  rw [Function.comp_apply, attachedKeys_of_mem he, Bool.eq_iff_iff, List.contains_iff_mem]
  simp

/-- The topics that have a key attached to them. -/
theorem mem_topicsOf {topic : String} : topic ∈ r.topicsOf key ↔ key ∈ r.attachedKeys topic := by
  rw [topicsOf, List.mem_filter, List.contains_iff_mem, and_iff_right_iff_imp]
  intro attached
  obtain ⟨list, found, -⟩ := mem_attachedKeys.mp attached
  exact Table.mem_names.mpr (Option.isSome_iff_exists.mpr ⟨list, found⟩)

/-- What is reported of a topic that is new is the length of its list. -/
theorem snd_registerTopic (accepts : H → String → Bool) (r : Registry H) (name : String) :
    (r.registerTopic accepts name).2 =
      if r.hasTopic name then none
      else some ((r.registerTopic accepts name).1.attachedKeys name).length := by
  by_cases known : r.hasTopic name = true
  · simp [registerTopic, known]
  · have unknown : r.snapshot name = none := by simpa [hasTopic_eq_isSome] using known
    rw [attachedKeys, snapshot_registerTopic, if_pos rfl, unknown, Option.getD_none,
      Option.getD_some, List.length_map, if_neg known]
    simp [registerTopic, known]

/-- What is reported of a handler that is taken out is how many topics had its key attached. -/
theorem snd_deregisterHandler (r : Registry H) (key : String) :
    (r.deregisterHandler key).2 =
      if r.hasHandler key then some (r.topicsOf key).length else none := by
  unfold deregisterHandler
  rw [attachedCount_eq]
  split <;> rfl

/-- Taking a handler out leaves the topics. -/
theorem listTopics_deregisterHandler (r : Registry H) (key : String) :
    (r.deregisterHandler key).1.listTopics = r.listTopics := by
  unfold deregisterHandler
  split
  · simp [listTopics, Table.names, detachEverywhere, Table.map, Function.comp_def]
  · rfl

/-- Registering a handler leaves the topics. -/
theorem listTopics_registerHandler (accepts : H → String → Bool) (r : Registry H) (key : String)
    (handler : H) : (r.registerHandler accepts key handler).1.listTopics = r.listTopics := by
  rw [← listTopics_deregisterHandler r key]
  simp [registerHandler, listTopics, Table.names, attachEverywhere, Table.map, Function.comp_def]

/-- What is reported of a handler that is registered: what was reported when an earlier one of its
key was taken out, and how many topics have the key attached afterwards. -/
theorem Coherent.snd_registerHandler (h : r.Coherent) (accepts : H → String → Bool) (key : String)
    (handler : H) :
    (r.registerHandler accepts key handler).2 =
      { detached := (r.deregisterHandler key).2
        attached := ((r.registerHandler accepts key handler).1.topicsOf key).length } := by
  have attached : (r.registerHandler accepts key handler).1.topicsOf key =
      (r.deregisterHandler key).1.listTopics.filter (accepts handler) := by
    rw [topicsOf, listTopics_registerHandler, listTopics_deregisterHandler]
    refine List.filter_congr fun topic mem => ?_
    rw [Bool.eq_iff_iff, List.contains_iff_mem]
    exact h.mem_attachedKeys_registerHandler (Table.mem_names.mp mem)
  rw [attached]
  rfl

/-- A topic that is registered brings as many attachments as are reported. -/
theorem attachmentCount_registerTopic (accepts : H → String → Bool) (r : Registry H)
    (name : String) :
    (r.registerTopic accepts name).1.attachmentCount =
      r.attachmentCount + (r.registerTopic accepts name).2.getD 0 := by
  unfold registerTopic
  by_cases known : r.hasTopic name = true
  · simp [known]
  · have unknown : r.topics.get? name = none := by
      simpa [hasTopic, Table.contains] using known
    simp only [known, if_false, Bool.false_eq_true, attachmentCount_eq_total, Option.getD_some]
    exact Table.total_insert unknown _ _

/-- A topic that is taken out takes the attachments in its list away. -/
theorem attachmentCount_deregisterTopic (r : Registry H) (name : String) :
    (r.deregisterTopic name).1.attachmentCount + (r.attachedKeys name).length =
      r.attachmentCount := by
  rw [attachmentCount_eq_total, attachmentCount_eq_total, attachedKeys, List.length_map, snapshot,
    ← Table.total_erase _ r.topics name]
  cases r.topics.get? name <;> rfl

/-- Dropping the first attachment of a key from every list takes away one attachment from each of the
lists that are counted. -/
theorem total_length_detachEverywhere (key : String) (topics : Table (List (Attachment H))) :
    ((detachEverywhere key topics).total fun _ list => list.length) + attachedCount key topics =
      topics.total fun _ list => list.length := by
  have one (list : List (Attachment H)) :
      (list.eraseP fun a => a.key == key).length + (list.any fun a => a.key == key).toNat =
        list.length := by
    cases found : list.any fun a => a.key == key with
    | false =>
      rw [List.eraseP_of_forall_not (List.any_eq_false.mp found)]
      rfl
    | true =>
      obtain ⟨a, mem, same⟩ := List.any_eq_true.mp found
      rw [List.length_eraseP_of_mem mem same]
      exact Nat.sub_add_cancel (List.length_pos_of_mem mem)
  have held : attachedCount key topics =
      topics.total fun _ list => (list.any fun a => a.key == key).toNat :=
    Table.length_filter_entries
      (fun (_ : String) (list : List (Attachment H)) => list.any fun a => a.key == key) topics
  rw [held, detachEverywhere, Table.total_map, ← Table.total_add]
  simp only [one]

/-- Attaching a handler to every topic that it accepts adds one attachment for each of them. -/
theorem total_length_attachEverywhere (accepts : H → String → Bool) (a : Attachment H)
    (topics : Table (List (Attachment H))) :
    ((attachEverywhere accepts a topics).total fun _ list => list.length) =
      (topics.total fun _ list => list.length) + (topics.names.filter (accepts a.handler)).length := by
  have one (name : String) (list : List (Attachment H)) :
      (if accepts a.handler name then list ++ [a] else list).length =
        list.length + (accepts a.handler name).toNat := by
    cases accepts a.handler name <;> simp
  rw [Table.length_filter_names, ← Table.total_add, attachEverywhere, Table.total_map]
  simp only [one]

/-- A handler that is taken out takes as many attachments away as are reported. -/
theorem attachmentCount_deregisterHandler (r : Registry H) (key : String) :
    (r.deregisterHandler key).1.attachmentCount + (r.deregisterHandler key).2.getD 0 =
      r.attachmentCount := by
  rw [attachmentCount_eq_total, attachmentCount_eq_total]
  unfold deregisterHandler
  split
  · exact total_length_detachEverywhere key r.topics
  · rfl

/-- A handler that is registered takes those of an earlier one of its key away and brings its own. -/
theorem attachmentCount_registerHandler (accepts : H → String → Bool) (r : Registry H)
    (key : String) (handler : H) :
    (r.registerHandler accepts key handler).1.attachmentCount +
        (r.registerHandler accepts key handler).2.detached.getD 0 =
      r.attachmentCount + (r.registerHandler accepts key handler).2.attached := by
  have detached : (r.deregisterHandler key).1.attachmentCount +
      (r.registerHandler accepts key handler).2.detached.getD 0 = r.attachmentCount :=
    attachmentCount_deregisterHandler r key
  have attached : (r.registerHandler accepts key handler).1.attachmentCount =
      (r.deregisterHandler key).1.attachmentCount +
        (r.registerHandler accepts key handler).2.attached := by
    rw [attachmentCount_eq_total, attachmentCount_eq_total]
    exact total_length_attachEverywhere accepts _ (r.deregisterHandler key).1.topics
  omega

end Registry

end TopicBroker
