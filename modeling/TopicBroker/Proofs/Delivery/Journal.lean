import Mathlib.Algebra.Ring.Int.Defs
import TopicBroker.Proofs.Delivery.Logging

/-!
# The log as a journal of the registry

The numbers in the records about topics and handlers can be added up. Main statements: a change makes
the attachments more and fewer by what it logs, if those are left aside that went away with their
topics, and so the records of a whole course add up to the attachments there are.
-/

namespace TopicBroker

open BrokerLog Execution

/-- The number in a field of a record. -/
def LogRecord.amount (field : String) (r : LogRecord) : Int :=
  match r.fields.lookup field with
  | some (.number n) => n
  | _ => 0

/-- The sum of the numbers in a field over all records about topics and handlers that bear a message.
-/
def logTotal (message field : String) (records : List LogRecord) : Int :=
  ((records.filter fun r => r.target == registryTarget && r.message == message).map
    (·.amount field)).sum

/-- How many attachments were made, and not ended by taking out or replacing a handler, if one
believes the log. -/
def loggedAttachments (records : List LogRecord) : Int :=
  logTotal "topic registered" "handlers" records + logTotal "handler registered" "attached" records -
    logTotal "handler deregistered" "detached" records

theorem logTotal_append (message field : String) (records later : List LogRecord) :
    logTotal message field (records ++ later) =
      logTotal message field records + logTotal message field later := by
  simp [logTotal]

theorem loggedAttachments_append (records later : List LogRecord) :
    loggedAttachments (records ++ later) = loggedAttachments records + loggedAttachments later := by
  simp only [loggedAttachments, logTotal_append]
  omega

/-- Records of other parts of the broker do not count. -/
theorem logTotal_of_target {records : List LogRecord}
    (other : ∀ r ∈ records, r.target ≠ registryTarget) (message field : String) :
    logTotal message field records = 0 := by
  have none : (records.filter fun r => r.target == registryTarget && r.message == message) = [] :=
    List.filter_eq_nil_iff.mpr fun r hr => by simp [other r hr]
  rw [logTotal, none]
  rfl

theorem loggedAttachments_of_target {records : List LogRecord}
    (other : ∀ r ∈ records, r.target ≠ registryTarget) : loggedAttachments records = 0 := by
  simp only [loggedAttachments, logTotal_of_target other]
  rfl

@[simp] theorem loggedAttachments_nil : loggedAttachments [] = 0 := rfl

@[simp] theorem loggedAttachments_topicRegistered (topic : String) (handlers : Nat) :
    loggedAttachments [topicRegistered topic handlers] = handlers := by
  simp [loggedAttachments, logTotal, topicRegistered, registryRecord, LogRecord.amount, number,
    List.lookup_cons]

@[simp] theorem loggedAttachments_topicDeregistered (topic : String) :
    loggedAttachments [topicDeregistered topic] = 0 := by
  simp [loggedAttachments, logTotal, topicDeregistered, registryRecord]

@[simp] theorem loggedAttachments_handlerRegistered (key pattern : String) (attached : Nat)
    (replaced : Bool) :
    loggedAttachments [handlerRegistered key pattern attached replaced] = attached := by
  simp [loggedAttachments, logTotal, handlerRegistered, registryRecord, LogRecord.amount, number,
    List.lookup_cons]

@[simp] theorem loggedAttachments_handlerDeregistered (key : String) (detached : Nat) :
    loggedAttachments [handlerDeregistered key detached] = -detached := by
  simp [loggedAttachments, logTotal, handlerDeregistered, registryRecord, LogRecord.amount, number,
    List.lookup_cons]

/-- A warning about a pattern says nothing about attachments. -/
@[simp] theorem loggedAttachments_warnings (m : Matcher) : loggedAttachments m.warnings = 0 := by
  refine loggedAttachments_of_target fun record mem => ?_
  unfold Matcher.warnings at mem
  split at mem
  · obtain rfl := List.mem_singleton.mp mem
    simp [matcherTarget, registryTarget]
  · cases mem

/-- The attachments that a change ends without a word: those of a topic that is taken out. -/
def Change.dropped (before : Registry Handler) : Change Handler → Nat
  | .deregisterTopic name => (before.attachedKeys name).length
  | _ => 0

namespace Registry

variable {r : Registry Handler}

/-- What is logged of a handler that is taken out are the attachments that end with it. -/
theorem loggedAttachments_farewell (r : Registry Handler) (key : String) :
    loggedAttachments (r.farewell key) = -((r.deregisterHandler key).2.getD 0 : Nat) := by
  rw [snd_deregisterHandler, farewell]
  split <;> simp

/-- A change makes the attachments more and fewer by what it logs, apart from those that it ends
without a word. -/
theorem attachmentCount_of_account (h : r.Coherent) (accepts : Handler → String → Bool)
    (c : Change Handler) :
    ((r.apply accepts c).attachmentCount : Int) =
      r.attachmentCount + loggedAttachments (c.account r (r.apply accepts c)) - c.dropped r := by
  cases c with
  | registerTopic name =>
    have count := attachmentCount_registerTopic accepts r name
    have logged : loggedAttachments ((Change.registerTopic name).account r
        (r.registerTopic accepts name).1) = ((r.registerTopic accepts name).2.getD 0 : Nat) := by
      rw [snd_registerTopic, Change.account]
      split <;> simp
    simp only [apply, logged, Change.dropped]
    omega
  | deregisterTopic name =>
    have count := attachmentCount_deregisterTopic r name
    have logged : loggedAttachments ((Change.deregisterTopic name).account r
        (r.deregisterTopic name).1) = 0 := by
      rw [Change.account]
      split <;> simp
    simp only [apply, logged, Change.dropped]
    omega
  | registerHandler key handler =>
    have count := attachmentCount_registerHandler accepts r key handler
    have report := h.snd_registerHandler accepts key handler
    have logged : loggedAttachments ((Change.registerHandler key handler).account r
        (r.registerHandler accepts key handler).1) =
          ((r.registerHandler accepts key handler).2.attached : Int) -
            ((r.registerHandler accepts key handler).2.detached.getD 0 : Nat) := by
      simp only [report, Change.account, loggedAttachments_append, loggedAttachments_warnings,
        loggedAttachments_farewell, loggedAttachments_handlerRegistered]
      omega
    simp only [apply, logged, Change.dropped]
    omega
  | deregisterHandler key =>
    have count := attachmentCount_deregisterHandler r key
    simp only [apply, Change.account, loggedAttachments_farewell, Change.dropped]
    omega

/-- A change without an account changes nothing. -/
theorem apply_of_account_eq_nil {accepts : Handler → String → Bool} {c : Change Handler}
    (silent : c.account r (r.apply accepts c) = []) : r.apply accepts c = r := by
  cases c with
  | registerTopic name =>
    have known : r.hasTopic name = true := by simpa [Change.account] using silent
    simp [apply, registerTopic, known]
  | deregisterTopic name =>
    have unknown : ¬ r.hasTopic name = true := by simpa [Change.account] using silent
    have absent : r.snapshot name = none := by simpa [hasTopic_eq_isSome] using unknown
    refine eq_of_lookups (fun topic => ?_) (fun _ => rfl) rfl
    rw [apply, snapshot_deregisterTopic]
    split
    · next same => rw [same, absent]
    · rfl
  | registerHandler key handler => simp [Change.account] at silent
  | deregisterHandler key =>
    have absent : r.hasHandler key = false := by
      simpa [Change.account, farewell] using silent
    simp [apply, deregisterHandler, absent]

/-- A handler that is taken out is attached to no topic. -/
theorem Coherent.topicsOf_deregisterHandler (h : r.Coherent) (key : String) :
    (r.deregisterHandler key).1.topicsOf key = [] := by
  refine List.eq_nil_iff_forall_not_mem.mpr fun topic mem => ?_
  obtain ⟨list, found, a, ha, same⟩ := mem_attachedKeys.mp (mem_topicsOf.mp mem)
  rw [h.snapshot_deregisterHandler] at found
  obtain ⟨before, -, rfl⟩ := Option.map_eq_some_iff.mp found
  simp [same] at ha

end Registry

namespace Execution

/-- The attachments that the next step ends without a word. -/
def dropped (e : Execution) : Nat :=
  (e.act.change?.map (Change.dropped e.world.broker.registry)).getD 0

/-- A step makes the attachments more and fewer by what it logs, apart from those that it ends without
a word. -/
theorem attachmentCount_step {e : Execution} (coherent : e.world.broker.registry.Coherent) :
    (e.step.world.broker.registry.attachmentCount : Int) =
      e.world.broker.registry.attachmentCount + loggedAttachments e.logged - e.dropped := by
  rw [dropped]
  cases made : e.act.change? with
  | none =>
    rw [loggedAttachments_of_target (target_of_mem_logged made), (move e).registry, made]
    simp
  | some c =>
    rw [logged_of_change coherent made, (move e).registry, made]
    exact Registry.attachmentCount_of_account coherent e.world.accepts c

end Execution

namespace Course

variable {w : World} {past : List Execution} {e : Execution} {ids : Option IdSource}
  {strategy : MatchStrategy}

/-- At every moment of a course there are as many attachments as were logged, apart from those that
ended without a word. -/
theorem attachmentCount_eq (fresh : Broker.create ids strategy = .ok w) (c : Course w past e) :
    (e.world.broker.registry.attachmentCount : Int) =
      loggedAttachments (past.flatMap (·.logged)) - (past.map (·.dropped)).sum := by
  induction c with
  | start program =>
    obtain ⟨source, -, rfl⟩ := Broker.eq_world_of_create fresh
    rfl
  | @step past e c ih =>
    rw [attachmentCount_step (c.coherent fresh), ih]
    simp only [List.flatMap_append, List.flatMap_singleton, loggedAttachments_append,
      List.map_append, List.map_cons, List.map_nil, List.sum_append, List.sum_singleton]
    omega
  | next c ended history program ih => exact ih

end Course

/-- What the log of a broker tells about topics and handlers at a moment of a course. -/
structure Journal (past : List Execution) (e : Execution) : Prop where
  /-- A change that is made now logs its account behind all else: a topic that is new, the length of
  the list that it got; a topic that was there and is taken out, its name; a handler that was there
  and is taken out or replaced, how many topics had its key attached before; a handler that is
  registered, how many have it attached afterwards. -/
  account : ∀ c, (e.world.make c).1.log =
    e.world.log ++ c.account e.world.broker.registry (e.world.make c).1.broker.registry
  /-- A change without an account changes nothing. -/
  silent : ∀ c, c.account e.world.broker.registry (e.world.make c).1.broker.registry = [] →
    (e.world.make c).1.broker.registry = e.world.broker.registry
  /-- A change of a topic leaves the lists of all other topics. -/
  otherTopics : ∀ c name topic, c.topic? = some name → topic ≠ name →
    (e.world.make c).1.broker.registry.snapshot topic = e.world.broker.registry.snapshot topic
  /-- A topic that is taken out has no list. -/
  topicGone : ∀ name, (e.world.make (.deregisterTopic name)).1.broker.registry.snapshot name = none
  /-- When a handler is taken out, its key is dropped from every list, and the order is kept. -/
  detached : ∀ key topic,
    (e.world.make (.deregisterHandler key)).1.broker.registry.snapshot topic =
      (e.world.broker.registry.snapshot topic).map (·.filter fun a => a.key != key)
  /-- After that it is attached to no topic. -/
  keyGone : ∀ key, (e.world.make (.deregisterHandler key)).1.broker.registry.topicsOf key = []
  /-- When a handler is registered, its key is dropped from every list, and it is put at the end of
  those of the topics that it accepts. -/
  attached : ∀ key handler topic,
    (e.world.make (.registerHandler key handler)).1.broker.registry.snapshot topic =
      (e.world.broker.registry.snapshot topic).map fun list =>
        (list.filter fun a => a.key != key) ++
          if e.world.accepts handler topic then
            [e.world.broker.registry.nextAttachment key handler] else []
  /-- The next step adds to the log. -/
  logged : e.step.world.log = e.world.log ++ e.logged
  /-- If it changes topics and handlers, it makes this change. -/
  made : ∀ c, e.act.change? = some c → e.step.world = (e.world.make c).1
  /-- Otherwise it leaves them, and logs nothing about them. -/
  passive : e.act.change? = none → e.step.world.broker.registry = e.world.broker.registry ∧
    ∀ r ∈ e.logged, r.target ≠ registryTarget
  /-- There are as many attachments as new topics got and as handlers were attached, without those
  from which handlers were detached and those in the lists of topics that were taken out. -/
  balance : (e.world.broker.registry.attachmentCount : Int) =
    logTotal "topic registered" "handlers" (past.flatMap (·.logged)) +
      logTotal "handler registered" "attached" (past.flatMap (·.logged)) -
      logTotal "handler deregistered" "detached" (past.flatMap (·.logged)) -
      (past.map (·.dropped)).sum

namespace Course

variable {w : World} {past : List Execution} {e : Execution} {ids : Option IdSource}
  {strategy : MatchStrategy}

/-- At every moment of a course of a new broker, the log tells exactly what became of topics and
handlers. -/
theorem journal (fresh : Broker.create ids strategy = .ok w) (c : Course w past e) :
    Journal past e := by
  have coherent := c.coherent fresh
  have list (change : Change Handler) (topic : String) :
      (e.world.make change).1.broker.registry.snapshot topic =
        (e.world.broker.registry.apply e.world.accepts change).snapshot topic := by
    rw [World.registry_make]
  refine ⟨World.log_make coherent, ?silent, ?otherTopics, ?topicGone, ?detached, ?keyGone,
    ?attached, log_step coherent, fun change => (move e).world_of_change, ?passive, ?balance⟩
  case silent =>
    intro change none
    rw [World.registry_make] at none ⊢
    exact Registry.apply_of_account_eq_nil none
  case otherTopics =>
    intro change name topic about ne
    rw [list, Registry.snapshot_apply_of_ne about ne]
  case topicGone =>
    intro name
    rw [list, Registry.apply, Registry.snapshot_deregisterTopic, if_pos rfl]
  case detached =>
    intro key topic
    rw [list]
    exact coherent.snapshot_deregisterHandler key topic
  case keyGone =>
    intro key
    rw [World.registry_make]
    exact coherent.topicsOf_deregisterHandler key
  case attached =>
    intro key handler topic
    rw [list, Registry.apply, Registry.snapshot_registerHandler,
      coherent.snapshot_deregisterHandler, Option.map_map]
    refine congrArg (Option.map · _) (funext fun attachments => ?_)
    by_cases accepted : e.world.accepts handler topic = true <;> simp [accepted]
  case passive =>
    intro none
    refine ⟨?_, target_of_mem_logged none⟩
    rw [(move e).registry, none]
    rfl
  case balance => exact c.attachmentCount_eq fresh

/-- A program that attaches a handler to one of two topics, then to both of them, and drops one of
the two topics, a handler that is not there, and another topic that is not there. -/
def bookkeeping : Program :=
  .perform (.registerTopic "a") fun _ => .perform (.registerTopic "b") fun _ =>
    .subscribe "k" (.exact "a") (fun _ => .done) <|
    .subscribe "k" (.startingWith "") (fun _ => .done) <|
    .perform (.deregisterTopic "a") fun _ => .perform (.deregisterHandler "j") fun _ =>
    .perform (.deregisterTopic "c") fun _ => .done

/-- The last two changes have no effect and no record. In the end one attachment is left: one and two
were made, one was ended when the handler was replaced, and one went away with its topic. -/
theorem journal_bookkeeping :
    let past := (Execution.start .plain bookkeeping).trail 7
    let e := Execution.run 7 (.start .plain bookkeeping)
    past.flatMap (·.logged) =
        [topicRegistered "a" 0, topicRegistered "b" 0, handlerRegistered "k" "a" 1 false,
          handlerDeregistered "k" 1, handlerRegistered "k" "" 2 true, topicDeregistered "a"] ∧
      (past.map (·.dropped)).sum = 1 ∧ e.world.broker.registry.attachmentCount = 1 ∧
      Journal past e := by
  have c := (Course.start (w := .plain) bookkeeping).run 7
  rw [List.nil_append] at c
  exact ⟨by decide +kernel, by decide +kernel, by decide +kernel, journal World.create_plain c⟩

end Course

end TopicBroker
