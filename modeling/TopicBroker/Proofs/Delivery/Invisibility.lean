import TopicBroker.Proofs.Delivery.Beside
import TopicBroker.Proofs.Delivery.Runs
import TopicBroker.Proofs.Delivery.Tenure

/-!
# A bystander is invisible

Two courses run side by side, of which the second one registers handlers in between that accept no
topic. All other steps are made in both, and what is observed of them is the same: the same handlers
are called with the same messages, the same ids are drawn, the same answers are given. Only who lists
or counts the handlers, or asks for the key of the bystander, sees it.
-/

namespace TopicBroker

open Execution

/-- A change was made in the past if it was the change of one of its steps. -/
theorem mem_changes {past : List Execution} {change : Change Handler} :
    change ∈ changes past ↔ ∃ x ∈ past, x.act.change? = some change := by
  simp [changes, changeLog]

/-- The changes of a part of the past were made in the past. -/
theorem mem_changes_append {past later : List Execution} {change : Change Handler}
    (made : change ∈ changes past) : change ∈ changes (past ++ later) := by
  obtain ⟨x, hx, made⟩ := mem_changes.mp made
  exact mem_changes.mpr ⟨x, List.mem_append_left _ hx, made⟩

/-- Whether every handler that is registered under a key is a bystander: its pattern could not be
read, or it accepts at no moment any topic that is ever registered. -/
def Bystanders (key : String) (past : List Execution) : Prop :=
  ∀ handler, .registerHandler key handler ∈ changes past →
    handler.matcher.isValid? = some false ∨
      ∀ topic, .registerTopic topic ∈ changes past →
        ∀ x ∈ past, x.world.accepts handler topic = false

/-- Whether a change registers a handler under a key only if its pattern could not be read. -/
def Change.isUnread (key : String) : Change Handler → Bool
  | .registerHandler other handler => other != key || handler.matcher.isValid? == some false
  | _ => true

namespace Bystanders

variable {key topic : String} {past later : List Execution} {handler : Handler} {x : Execution}

/-- Bystanders were bystanders all the time. -/
theorem of_append (h : Bystanders key (past ++ later)) : Bystanders key past := by
  intro handler made
  refine (h handler (mem_changes_append made)).imp_right fun rejects topic registered y hy => ?_
  exact rejects topic (mem_changes_append registered) y (List.mem_append_left _ hy)

/-- Handlers are bystanders if the patterns of all that are registered under the key could not be
read. -/
theorem of_unread (unread : (changes past).all (·.isUnread key) = true) : Bystanders key past := by
  intro handler made
  have checked := List.all_eq_true.mp unread _ made
  simp only [Change.isUnread, bne_self_eq_false, Bool.false_or, beq_iff_eq] at checked
  exact .inl checked

/-- A bystander accepts no topic that is ever registered. -/
theorem accepts_eq (h : Bystanders key past) (made : .registerHandler key handler ∈ changes past)
    (registered : .registerTopic topic ∈ changes past) (hx : x ∈ past) :
    x.world.accepts handler topic = false := by
  rcases h handler made with unread | rejects
  · exact Matcher.accepts_of_invalid unread _ _
  · exact rejects topic registered x hx

end Bystanders

namespace Course

variable {w : World} {past : List Execution} {e : Execution} {ids : Option IdSource}
  {strategy : MatchStrategy} {key topic : String}

/-- A registered topic was registered in the past. -/
theorem mem_changes_of_hasTopic (fresh : Broker.create ids strategy = .ok w) (c : Course w past e)
    (present : e.world.broker.registry.hasTopic topic = true) :
    .registerTopic topic ∈ changes past := by
  obtain ⟨a, x, since⟩ := c.exists_topicSince fresh present
  exact mem_changes.mpr ⟨x, List.mem_of_getElem? since.here, since.made⟩

/-- A registered handler was registered in the past. -/
theorem mem_changes_of_handler (fresh : Broker.create ids strategy = .ok w) (c : Course w past e)
    {reg : Registration Handler} (entry : e.world.broker.registry.handlers.get? key = some reg) :
    .registerHandler key reg.handler ∈ changes past := by
  obtain ⟨b, x, since⟩ := c.exists_handlerSince fresh entry
  exact mem_changes.mpr ⟨x, List.mem_of_getElem? since.here, since.made⟩

/-- Where only bystanders are registered under a key, no step attaches them. -/
theorem silent (fresh : Broker.create ids strategy = .ok w) (c : Course w past e)
    (bystanders : Bystanders key (past ++ [e])) : e.Silent key := by
  have now : e ∈ past ++ [e] := List.mem_append_right _ (List.mem_singleton_self e)
  have own {change : Change Handler} (made : e.act.change? = some change) :
      change ∈ changes (past ++ [e]) := mem_changes.mpr ⟨e, now, made⟩
  refine ⟨?_, ?_, ?_⟩
  · intro topic present reg entry
    exact bystanders.accepts_eq (mem_changes_append (c.mem_changes_of_handler fresh entry))
      (mem_changes_append (c.mem_changes_of_hasTopic fresh present)) now
  · intro topic made reg entry
    exact bystanders.accepts_eq (mem_changes_append (c.mem_changes_of_handler fresh entry))
      (own made) now
  · intro handler made topic present
    exact bystanders.accepts_eq (own made)
      (mem_changes_append (c.mem_changes_of_hasTopic fresh present)) now

end Course

/-- Executions beside each other are seen to do the same until they end, and end beside each other,
if the second one goes on with a course of a new broker in which only bystanders are registered
under the key. -/
theorem Execution.Beside.ends_beside {w : World} {ids : Option IdSource}
    {strategy : MatchStrategy} {key : String} {e e' : Execution} (h : e.Beside key e')
    (fresh : Broker.create ids strategy = .ok w) {before : List Execution}
    (c : Course w before e') {m n : Nat}
    (bystanders : Bystanders key (before ++ e'.trail n)) (ended : (run m e).isOver = true)
    (ended' : (run n e').isOver = true) :
    sightings key (e.trail m) = sightings key (e'.trail n) ∧
      (run m e).Beside key (run n e') := by
  -- a step is made in the first execution or, if not there, in the second one
  induction m generalizing e e' before n with
  | zero => exact h.of_isOver ended 0 n
  | succ m ihLeft =>
    induction n generalizing e' before with
    | zero => exact h.of_isOver (h.isOver_eq.trans ended') _ 0
    | succ n ihRight =>
      cases goesOn : e.isOver with
      | true => exact h.of_isOver goesOn _ _
      | false =>
        have goesOn' : e'.isOver = false := h.isOver_eq ▸ goesOn
        have stepped : (run m e.step).isOver = true := run_step goesOn m ▸ ended
        have stepped' : (run n e'.step).isOver = true := run_step goesOn' n ▸ ended'
        have later : Bystanders key (before ++ [e'] ++ e'.step.trail n) := by
          rw [trail_step goesOn'] at bystanders
          rwa [List.append_assoc]
        rcases h.advance (c.silent fresh later.of_append) with
          ⟨unseen, beside⟩ | ⟨unseen, beside⟩ | ⟨seen, beside⟩
        · obtain ⟨same, last⟩ := ihLeft beside c bystanders stepped ended'
          rw [trail_step goesOn, sightings_cons, unseen, run_step goesOn]
          exact ⟨same, last⟩
        · obtain ⟨same, last⟩ := ihRight beside c.step later stepped'
          rw [trail_step goesOn', sightings_cons, unseen, run_step goesOn']
          exact ⟨same, last⟩
        · obtain ⟨same, last⟩ := ihLeft beside c.step later stepped stepped'
          rw [trail_step goesOn, trail_step goesOn', sightings_cons, sightings_cons, seen, same,
            run_step goesOn, run_step goesOn']
          exact ⟨rfl, last⟩

/-- The moments of two courses in which programs run one after the other, of which those of the second
course are padded. Notes and registrations under the key are steps of one course alone; all others are
made in both. -/
inductive WithBystanders (key : String) (w : World) :
    List Execution → Execution → List Execution → Execution → Prop
  /-- The first programs start. -/
  | start {p p' : Program} (padded : p.Padded key p') :
    WithBystanders key w [] (.start w p) [] (.start w p')
  /-- The first course writes a note. -/
  | left {past past' : List Execution} {e e' : Execution}
      (c : WithBystanders key w past e past' e') (notes : e.notes = true) :
    WithBystanders key w (past ++ [e]) e.step past' e'
  /-- The second course writes a note, or it registers a handler under the key. -/
  | right {past past' : List Execution} {e e' : Execution}
      (c : WithBystanders key w past e past' e')
      (aside : e'.notes = true ∨ e'.inserts key = true) :
    WithBystanders key w past e (past' ++ [e']) e'.step
  /-- Both make a step. -/
  | both {past past' : List Execution} {e e' : Execution}
      (c : WithBystanders key w past e past' e') (left : e.notes = false)
      (right : e'.notes = false) (waits : e'.inserts key = false) :
    WithBystanders key w (past ++ [e]) e.step (past' ++ [e']) e'.step
  /-- The next programs start in the worlds that the last ones left. -/
  | next {past past' : List Execution} {e e' : Execution}
      (c : WithBystanders key w past e past' e') (ended : e.isOver = true)
      (ended' : e'.isOver = true) (history history' : List Event) {p p' : Program}
      (padded : p.Padded key p') :
    WithBystanders key w past (.start { e.world with history } p) past'
      (.start { e'.world with history := history' } p')

namespace WithBystanders

variable {key : String} {w : World} {past past' : List Execution} {e e' : Execution}
  {ids : Option IdSource} {strategy : MatchStrategy}

/-- Both are courses. -/
theorem courses (c : WithBystanders key w past e past' e') :
    Course w past e ∧ Course w past' e' := by
  induction c with
  | start padded => exact ⟨.start _, .start _⟩
  | left c notes ih => exact ⟨ih.1.step, ih.2⟩
  | right c aside ih => exact ⟨ih.1, ih.2.step⟩
  | both c left right waits ih => exact ⟨ih.1.step, ih.2.step⟩
  | next c ended ended' history history' padded ih =>
    exact ⟨ih.1.next ended history _, ih.2.next ended' history' _⟩

/-- The courses lie beside each other at every moment, and the same was observed of them. -/
theorem beside (fresh : Broker.create ids strategy = .ok w)
    (c : WithBystanders key w past e past' e') (bystanders : Bystanders key past') :
    sightings key past = sightings key past' ∧ e.Beside key e' := by
  -- every step of the second course is silent, because only bystanders were registered before it
  induction c with
  | start padded =>
    obtain ⟨source, -, rfl⟩ := Broker.eq_world_of_create fresh
    exact ⟨rfl, _, _, .fresh strategy source, .nil, .running padded⟩
  | left c notes ih =>
    obtain ⟨same, beside⟩ := ih bystanders
    obtain ⟨unseen, beside⟩ := beside.noteLeft notes
    refine ⟨?_, beside⟩
    rw [sightings_concat, unseen, same]
    exact List.append_nil _
  | right c aside ih =>
    obtain ⟨same, beside⟩ := ih bystanders.of_append
    have silent := c.courses.2.silent fresh bystanders
    obtain ⟨unseen, beside⟩ := aside.elim beside.noteRight (beside.insert silent)
    refine ⟨?_, beside⟩
    rw [sightings_concat, unseen, same]
    exact (List.append_nil _).symm
  | both c left right waits ih =>
    obtain ⟨same, beside⟩ := ih bystanders.of_append
    have silent := c.courses.2.silent fresh bystanders
    obtain ⟨seen, beside⟩ := beside.follows silent left right waits
    refine ⟨?_, beside⟩
    rw [sightings_concat, sightings_concat, seen, same]
  | next c ended ended' history history' padded ih =>
    obtain ⟨same, f, pairs, world, -, -⟩ := ih bystanders
    exact ⟨same, f, pairs, world.withHistory history history', .nil, .running padded⟩

/-- The second course never takes the handler of the key out. -/
theorem act_ne (fresh : Broker.create ids strategy = .ok w)
    (c : WithBystanders key w past e past' e') (bystanders : Bystanders key past') :
    ∀ x ∈ past', x.act ≠ .perform (.deregisterHandler key) := by
  induction c with
  | start padded => exact fun x hx => absurd hx List.not_mem_nil
  | left c notes ih => exact ih bystanders
  | right c aside ih =>
    have last := (c.beside fresh bystanders.of_append).2.act_ne
    simpa [or_imp, forall_and] using And.intro (ih bystanders.of_append) last
  | both c left right waits ih =>
    have last := (c.beside fresh bystanders.of_append).2.act_ne
    simpa [or_imp, forall_and] using And.intro (ih bystanders.of_append) last
  | next c ended ended' history history' padded ih => exact ih bystanders

/-- The second course can make the steps that it makes alone. -/
theorem clearRight (c : WithBystanders key w past e past' e') :
    ∃ later d', WithBystanders key w past e (past' ++ later) d' ∧
      d'.notes = false ∧ d'.inserts key = false := by
  -- the program that goes on is a tree, so it makes finitely many such steps in a row
  obtain ⟨w', frames', control'⟩ := e'
  cases control' with
  | running p =>
    induction p generalizing w' past' with
    | perform op next ih =>
      cases notes : op.isNote with
      | false =>
        refine ⟨[], _, by rwa [List.append_nil], ?_, rfl⟩
        exact notes
      | true =>
        obtain ⟨later, d', clear⟩ := ih _ _ (c.right (.inl notes))
        exact ⟨_ :: later, d', by rwa [List.append_assoc] at clear⟩
    | subscribe other matcher body next _ ih =>
      cases own : other == key with
      | false =>
        refine ⟨[], _, by rwa [List.append_nil], rfl, ?_⟩
        exact own
      | true =>
        obtain ⟨later, d', clear⟩ := ih _ (c.right (.inr own))
        exact ⟨_ :: later, d', by rwa [List.append_assoc] at clear⟩
    | _ => exact ⟨[], _, by rwa [List.append_nil], rfl, rfl⟩
  | _ => exact ⟨[], _, by rwa [List.append_nil], rfl, rfl⟩

/-- The first course can write the notes that it writes alone. -/
theorem clearLeft (c : WithBystanders key w past e past' e') :
    ∃ later d, WithBystanders key w (past ++ later) d past' e' ∧ d.notes = false := by
  obtain ⟨w', frames', control'⟩ := e
  cases control' with
  | running p =>
    induction p generalizing w' past with
    | perform op next ih =>
      cases notes : op.isNote with
      | false =>
        refine ⟨[], _, by rwa [List.append_nil], ?_⟩
        exact notes
      | true =>
        obtain ⟨later, d, clear⟩ := ih _ _ (c.left notes)
        exact ⟨_ :: later, d, by rwa [List.append_assoc] at clear⟩
    | _ => exact ⟨[], _, by rwa [List.append_nil], rfl⟩
  | _ => exact ⟨[], _, by rwa [List.append_nil], rfl⟩

/-- Whatever run the first course makes, the second one can go along. -/
theorem runLeft (c : WithBystanders key w past e past' e') (n : Nat) :
    ∃ later d', WithBystanders key w (past ++ e.trail n) (Execution.run n e) (past' ++ later) d' := by
  induction n generalizing past e past' e' with
  | zero => exact ⟨[], e', by simpa [trail, Execution.run] using c⟩
  | succ n ih =>
    unfold trail Execution.run
    split
    · exact ⟨[], e', by simpa using c⟩
    · cases notes : e.notes with
      | true =>
        obtain ⟨later, d', rest⟩ := ih (c.left notes)
        exact ⟨later, d', by rwa [List.append_assoc] at rest⟩
      | false =>
        obtain ⟨first, x, clear, right, waits⟩ := c.clearRight
        obtain ⟨later, d', rest⟩ := ih (clear.both notes right waits)
        exact ⟨first ++ x :: later, d', by simpa using rest⟩

/-- Whatever run the second course makes, the first one can go along. -/
theorem runRight (c : WithBystanders key w past e past' e') (n : Nat) :
    ∃ later d, WithBystanders key w (past ++ later) d (past' ++ e'.trail n) (Execution.run n e') := by
  induction n generalizing past e past' e' with
  | zero => exact ⟨[], e, by simpa [trail, Execution.run] using c⟩
  | succ n ih =>
    unfold trail Execution.run
    split
    · exact ⟨[], e, by simpa using c⟩
    · by_cases aside : e'.notes = true ∨ e'.inserts key = true
      · obtain ⟨later, d, rest⟩ := ih (c.right aside)
        exact ⟨later, d, by rwa [List.append_assoc] at rest⟩
      · obtain ⟨right, waits⟩ := not_or.mp aside
        rw [Bool.not_eq_true] at right waits
        obtain ⟨first, x, clear, left⟩ := c.clearLeft
        obtain ⟨later, d, rest⟩ := ih (clear.both left right waits)
        exact ⟨first ++ x :: later, d, by simpa using rest⟩

/-- The second course has a handler under the key exactly if it has registered one. -/
theorem hasHandler_iff (fresh : Broker.create ids strategy = .ok w)
    (c : WithBystanders key w past e past' e') (bystanders : Bystanders key past') :
    e'.world.broker.registry.hasHandler key = true ↔ ∃ x ∈ past', x.inserts key = true := by
  constructor
  · intro present
    obtain ⟨reg, entry⟩ := Option.isSome_iff_exists.mp present
    obtain ⟨x, hx, made⟩ := mem_changes.mp (c.courses.2.mem_changes_of_handler fresh entry)
    exact ⟨x, hx, inserts_iff.mpr ⟨_, made⟩⟩
  · rintro ⟨x, hx, inserts⟩
    obtain ⟨handler, made⟩ := inserts_iff.mp inserts
    have kept := c.act_ne fresh bystanders
    have course := c.courses.2
    obtain ⟨before, after, rfl⟩ := List.append_of_mem hx
    refine course.carry_registry (P := fun r => r.hasHandler key = true) made ?_ ?_
    · exact Registry.hasHandler_registerHandler handler
    · intro y hy change made present
      by_cases out : change.TakesOut key
      · rcases out with rfl | ⟨handler', rfl⟩
        · exact absurd (Act.eq_of_deregisterHandler made) (kept y (by simp [hy]))
        · exact Registry.hasHandler_registerHandler handler'
      · rw [Registry.hasHandler_apply out, present]

/-- Many steps can be made in both courses. -/
theorem bothRun (c : WithBystanders key w past e past' e') (n : Nat)
    (compared : ∀ m < n, (Execution.run m e).isCompared key = true ∧
      (Execution.run m e').isCompared key = true) :
    WithBystanders key w (past ++ e.trail n) (Execution.run n e) (past' ++ e'.trail n)
      (Execution.run n e') := by
  induction n with
  | zero => simpa [trail, Execution.run] using c
  | succ n ih =>
    have last := compared n (Nat.lt_succ_self n)
    simp only [isCompared, Bool.and_eq_true, Bool.not_eq_true'] at last
    obtain ⟨⟨⟨goesOn, left⟩, -⟩, ⟨goesOn', right⟩, waits⟩ := last
    have before := ih fun m lt => compared m (Nat.lt_succ_of_lt lt)
    rw [trail_add, trail_add, trail_one goesOn, trail_one goesOn', run_succ, run_succ,
      ← List.append_assoc, ← List.append_assoc]
    exact before.both left right waits

end WithBystanders

/-- What a course has in common with one in which handlers are registered besides that accept no topic.
-/
structure Invisible (key : String) (w : World) (past : List Execution) (e : Execution)
    (past' : List Execution) (e' : Execution) : Prop where
  /-- Both are courses of the broker. -/
  courses : Course w past e ∧ Course w past' e'
  /-- Whatever run the one makes, the other one can go along, and the two stay side by side. -/
  goesAlong : ∀ n,
    (∃ later d', WithBystanders key w (past ++ e.trail n) (.run n e) (past' ++ later) d') ∧
      ∃ later d, WithBystanders key w (past ++ later) d (past' ++ e'.trail n) (.run n e')
  /-- The same was observed of both: the same handlers were called in the same order with the same
  messages and contexts, the same ids were drawn, the same answers were given. -/
  observed : sightings key past = sightings key past'
  /-- No registration under the key failed: the program went on. -/
  registers : ∀ x ∈ past', x.inserts key = true → ∃ matcher body next,
    x.control = .running (.subscribe key matcher body next) ∧
      x.step = { x with
        world := x.world.registerHandler key ⟨matcher, body⟩
        control := .running next }
  /-- Whatever is asked is answered the same, if it is not about the key. -/
  answers : ∀ op : Operation, op ≠ .deregisterHandler key → op ≠ .subscriptionsOf key →
    op.besides key (e.world.perform op).2 = op.besides key (e'.world.perform op).2
  /-- The handlers are listed in the same order, but for the key. -/
  listed : e.world.broker.registry.listHandlerKeys =
    e'.world.broker.registry.listHandlerKeys.filter (· != key)
  /-- The first broker has no handler under the key, and the second one has one exactly if it was
  registered. -/
  present : e.world.broker.registry.hasHandler key = false ∧
    (e'.world.broker.registry.hasHandler key = true ↔ ∃ x ∈ past', x.inserts key = true)
  /-- This handler is counted. -/
  counted : e'.world.broker.registry.handlerCount =
    e.world.broker.registry.handlerCount +
      if e'.world.broker.registry.hasHandler key then 1 else 0
  /-- The brokers have counted the same and draw the same ids next. -/
  broker : e.world.broker.stats = e'.world.broker.stats ∧
    e.world.broker.ids = e'.world.broker.ids ∧ e.world.publications = e'.world.publications
  /-- Switches and contexts are the same. -/
  shared : e.world.flags = e'.world.flags ∧ e.world.contexts = e'.world.contexts
  /-- The present programs have both ended, or neither has. -/
  ended : e.isOver = e'.isOver
  /-- They have both ended by themselves or in the same panic. -/
  outcome : e.isOver = true → e.control = e'.control

/-- A handler that accepts no topic is invisible: wherever it is registered, at the top or inside of
a handler, the course goes on as it would without it, under a key that is not used otherwise. -/
theorem WithBystanders.invisible {key : String} {w : World} {past past' : List Execution}
    {e e' : Execution} {ids : Option IdSource} {strategy : MatchStrategy}
    (fresh : Broker.create ids strategy = .ok w) (c : WithBystanders key w past e past' e')
    (bystanders : Bystanders key past') : Invisible key w past e past' e' := by
  obtain ⟨same, beside⟩ := c.beside fresh bystanders
  have ends := beside.isOver_eq
  have outcome := beside.control_eq
  obtain ⟨f, pairs, world, -, -⟩ := beside
  exact {
    courses := c.courses
    goesAlong := fun n => ⟨c.runLeft n, c.runRight n⟩
    observed := same
    registers := fun x _ inserts => x.step_of_inserts inserts
    answers := fun op other own => world.answer_eq other fun asks => absurd asks own
    listed := world.listHandlerKeys_eq
    present := ⟨world.hasHandler_left, c.hasHandler_iff fresh bystanders⟩
    counted := world.handlerCount_eq
    broker := ⟨world.stats, world.ids, world.publications⟩
    shared := ⟨world.flags, world.contexts⟩
    ended := ends
    outcome := outcome }

/-- A program with a handler that registers a topic and another handler when it is called, and
publishes to them. Something may stand in front of that. -/
def gossip (before : Program → Program) : Program :=
  .perform (.registerTopic "a") fun _ =>
    .subscribe "l" (.exact "a")
      (fun _ => before <| .perform (.registerTopic "b") fun _ =>
        .subscribe "m" (.exact "b") (fun _ => .done) <|
        .publish (.plain (.new 0) "b" default) false fun _ => .done) <|
    .publish (.plain (.new 0) "a" default) false fun _ => .perform .listHandlerKeys fun _ => .done

/-- Register a handler with a pattern that cannot be read. -/
def eavesdrop : Program → Program :=
  .subscribe "k" (.compile .regex "(") fun _ => .panic "called"

theorem padded_gossip : (gossip id).Padded "k" (gossip eavesdrop) := by
  have publish (p : Publication) {next next' : Program} (goesOn : next.Padded "k" next') :
      (Program.publish p false fun _ => next).Padded "k" (.publish p false fun _ => next') :=
    .publish fun _ => goesOn
  refine .perform rfl (by simp) fun _ _ _ => .subscribe (by simp) ?_ (publish _ ?_)
  · intro c c' _
    exact .insert (.perform rfl (by simp) fun _ _ _ =>
      .subscribe (by simp) (fun _ _ _ => .done) (publish _ .done))
  · exact .perform rfl (by simp) fun _ _ _ => .done

/-- The handler takes the number that the next one has without it, and all else is the same. -/
theorem invisible_gossip :
    let plain := Execution.start .plain (gossip id)
    let padded := Execution.start .plain (gossip eavesdrop)
    (changes (padded.trail 15)).all (·.isUnread "k") = true ∧
      (Execution.run 14 plain).world.broker.registry.listHandlerKeys = ["l", "m"] ∧
      (Execution.run 15 padded).world.broker.registry.listHandlerKeys = ["k", "l", "m"] ∧
      (Execution.run 14 plain).world.broker.registry.lastSeq = 2 ∧
      (Execution.run 15 padded).world.broker.registry.lastSeq = 3 ∧
      Invisible "k" .plain (plain.trail 14) (.run 14 plain) (padded.trail 15) (.run 15 padded) := by
  have unread : (changes ((Execution.start .plain (gossip eavesdrop)).trail 15)).all
      (·.isUnread "k") = true := by decide +kernel
  have first := (WithBystanders.start (w := .plain) padded_gossip).bothRun 4 (by decide +kernel)
  have inserted := first.right (.inr (by decide +kernel))
  have last := inserted.bothRun 10 (by decide +kernel)
  refine ⟨unread, by decide +kernel, by decide +kernel, by decide +kernel, by decide +kernel, ?_⟩
  rw [List.nil_append, List.nil_append, ← trail_one (by decide +kernel), ← run_succ, ← trail_add,
    ← trail_add, ← trail_add, ← run_add, ← run_add] at last
  exact last.invisible World.create_plain (.of_unread unread)

end TopicBroker
