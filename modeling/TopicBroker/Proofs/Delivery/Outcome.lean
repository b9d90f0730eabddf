import TopicBroker.Proofs.Delivery.Runs
import TopicBroker.Proofs.Delivery.Unwinding

/-!
# The outcome of a publication

Whether a publication is refused is decided at the moment at which it is made, by whether its topic is
registered. If it is not, the publisher goes on at once, and the refusal is counted; nothing else has
happened. If it is, the publication is never refused any more, whatever the called handlers do to the
topic, to other handlers or to publications of their own: it is delivered when all its calls have
returned, and only a panic of one of them can prevent that.
-/

namespace TopicBroker

open Execution

/-- What an act tells a publisher. -/
def Act.answer? : Act → Option Answer
  | .miss topic => some (.refused (.topicNotFound topic))
  | .complete _ => some .delivered
  | .unwind _ _ message => some (.panicked message)
  | _ => none

/-- The publication that an execution makes now is answered in the `n`-th step from now on, counted
from zero. -/
structure Execution.Returns (d : Execution) (resume : Answer → Program) (n : Nat) (a : Answer) :
    Prop where
  /-- Until then it is under way: the stack is higher than before. -/
  underWay : ∀ m < n, d.frames.length < (run (m + 1) d).frames.length
  /-- The step tells the publisher. -/
  answers : (run n d).act.answer? = some a
  /-- The deliveries below are as they were before. -/
  frames : (run n d).step.frames = d.frames
  /-- The publisher goes on. -/
  control : (run n d).step.control = .running (resume a)

namespace Execution

variable {d e e' : Execution} {l : Lookup} {resume : Answer → Program} {a : Act} {n m : Nat}

/-- A publication is answered once. -/
theorem Returns.unique {b b' : Answer} (h : d.Returns resume n b) (h' : d.Returns resume m b') :
    n = m ∧ b = b' := by
  have last {n m : Nat} {b b' : Answer} (h : d.Returns resume n b) (h' : d.Returns resume m b') :
      m ≤ n := by
    by_contra later
    have higher := h'.underWay n (Nat.lt_of_not_le later)
    rw [run_succ, h.frames] at higher
    exact Nat.lt_irrefl _ higher
  obtain rfl : n = m := Nat.le_antisymm (last h' h) (last h h')
  exact ⟨rfl, Option.some.inj (h.answers.symm.trans h'.answers)⟩

/-- What an act takes from the stack that tells a publisher something. -/
theorem Move.of_answer (m : Move e a e') {b : Answer} (tells : a.answer? = some b) :
    (e'.frames = e.frames ∧ ∃ topic, a = .miss topic) ∨
      ∃ f, e.frames = f :: e'.frames ∧ a.publication? = some f.publication ∧
        (a = .complete f.publication ∨ ∃ message, a = .unwind f.publication f.current message) := by
  cases m with
  | miss => exact .inl ⟨rfl, _, rfl⟩
  | complete => exact .inr ⟨_, rfl, rfl, .inl rfl⟩
  | catches => exact .inr ⟨_, rfl, rfl, .inr ⟨_, rfl⟩⟩
  | unwind => exact .inr ⟨_, rfl, rfl, .inr ⟨_, rfl⟩⟩
  | _ => cases tells

end Execution

namespace Lookup.Delivery

variable {l : Lookup} {below frames : List Frame} {acts : List Act} {e e' : Execution} {a : Act}

/-- While none of its acts ends a publication, its delivery is on the stack. -/
theorem exists_frame (h : l.Delivery below acts frames) (active : ∀ a ∈ acts, ¬ a.Ends l.number) :
    ∃ above f, frames = above ++ f :: below ∧ f.publication = l.number := by
  cases h with
  | between => exact ⟨[], _, rfl, rfl⟩
  | inside above => exact ⟨above, _, rfl, rfl⟩
  | completed => exact absurd (.inl rfl) (active (.complete l.number) (by simp))
  | @unwound calls last message =>
    have dropped : Act.unwind l.number (some last.call.id) message ∈ calls.flatMap (·.round) ++
        [.call last, .unwind l.number (some last.call.id) message] := by simp
    exact absurd (.inr ⟨_, _, rfl⟩) (active _ dropped)

/-- When a publication ends, only the deliveries below are left. -/
theorem frames_of_ends (h : l.Delivery below acts e.frames) (m : Move e a e')
    (ends : a.Ends l.number) : e'.frames = below := by
  rcases ends with rfl | ⟨call, message, rfl⟩
  · exact (h.completes m).1
  · exact (h.panics m).2.1

/-- Where the delivery of a publication is the topmost one, the handlers that it has not called yet
are the rest of the attached ones. -/
theorem invoked_append_remaining {current : Option CallId} {remaining : List (Attachment Handler)}
    (h : l.Delivery below acts ({ l.frame with current, remaining } :: below)) :
    invoked acts ++ remaining = l.attachments := by
  generalize eq : ({ l.frame with current, remaining } :: below : List Frame) = frames at h
  cases h with
  | between calls called =>
    cases eq
    rw [invoked_rounds]
    exact called
  | inside above later called =>
    have height := congrArg List.length eq
    obtain rfl : above = [] := by
      rw [← List.length_eq_zero_iff]
      simp only [List.length_cons, List.length_append] at height
      omega
    cases eq
    rw [invoked_append, invoked_rounds]
    rw [List.map_append] at called
    exact called
  | completed gone => exact absurd rfl (gone _ (eq ▸ List.mem_cons_self))
  | unwound gone => exact absurd rfl (gone _ (eq ▸ List.mem_cons_self))

/-- After a call fewer handlers remain. -/
theorem length_remaining_lt {later : List Act} {current : Option CallId} {i : Invocation}
    {remaining rest : List (Attachment Handler)}
    (before : l.Delivery below acts ({ l.frame with remaining } :: below))
    (now : l.Delivery below (acts ++ .call i :: later)
      ({ l.frame with current, remaining := rest } :: below)) :
    rest.length < remaining.length := by
  have same := before.invoked_append_remaining.trans now.invoked_append_remaining.symm
  rw [invoked_append, List.append_assoc] at same
  have lengths := congrArg List.length (List.append_cancel_left same)
  have one : invoked (.call i :: later) = i.attachment :: invoked later := rfl
  rw [one, List.length_append, List.length_cons] at lengths
  omega

end Lookup.Delivery

namespace Execution

variable {d e e' : Execution} {l : Lookup} {n : Nat}

/-- The run goes on after a publication that finds its topic. -/
theorem run_succ_of_publish (publishes : d.act = .publish l) (m : Nat) :
    run (m + 1) d = run m d.step :=
  run_step (isOver_of_act publishes (by simp)) m

/-- When a call returns, its delivery goes on. -/
theorem Move.frames_returns {c : CallId} {f : Frame} {frames : List Frame}
    (m : Move e (.returns c) e') (stack : e.frames = f :: frames) :
    e'.frames = { f with current := none } :: frames := by
  cases m
  cases stack
  rfl

/-- When a publication has ended, the stack is as it was before. -/
theorem exists_of_ends (sound : d.Sound) (publishes : d.act = .publish l) {a : Act}
    (ha : a ∈ record l.number (d.step.trail n)) (ends : a.Ends l.number) :
    ∃ m < n, (run (m + 1) d.step).frames = d.frames := by
  obtain ⟨⟨x, hx, act⟩, -⟩ := mem_record.mp ha
  obtain ⟨m, lt, rfl⟩ := exists_of_mem_trail hx
  obtain ⟨-, -, delivery⟩ := delivery_run sound publishes m
  refine ⟨m, lt, ?_⟩
  rw [run_succ]
  exact delivery.frames_of_ends (act ▸ move _) ends

/-- Up to an act of a publication its delivery is on the stack. -/
theorem underWay_of_publication (sound : d.Sound) (publishes : d.act = .publish l)
    (belongs : (run n d.step).act.publication? = some l.number) {m : Nat} (le : m ≤ n) :
    d.frames.length < (run m d.step).frames.length := by
  obtain ⟨sound', -, now⟩ := delivery_run sound publishes n
  obtain ⟨f, frames, top, own⟩ := (move (run n d.step)).publication_top sound' belongs
  have active := now.not_ends (top ▸ List.mem_cons_self) own
  obtain ⟨-, -, before⟩ := delivery_run sound publishes m
  have earlier : record l.number (d.step.trail m) ⊆ record l.number (d.step.trail n) := by
    obtain ⟨rest, eq⟩ := trail_prefix le d.step
    rw [← eq, record_append]
    exact List.subset_append_left _ _
  obtain ⟨above, g, stack, -⟩ := before.exists_frame fun a ha => active a (earlier ha)
  rw [stack, List.length_append, List.length_cons]
  omega

/-- As long as the stack is higher than before, the delivery of a publication is on it. -/
theorem exists_frame_of_underWay (sound : d.Sound) (publishes : d.act = .publish l)
    (underWay : ∀ m ≤ n, d.frames.length < (run m d.step).frames.length) :
    ∃ above f, (run n d.step).frames = above ++ f :: d.frames ∧ f.publication = l.number := by
  obtain ⟨-, -, delivery⟩ := delivery_run sound publishes n
  refine delivery.exists_frame fun a ha ends => ?_
  obtain ⟨m, lt, gone⟩ := exists_of_ends sound publishes ha ends
  have higher := underWay (m + 1) lt
  rw [gone] at higher
  exact Nat.lt_irrefl _ higher

/-- A publication that is complete was delivered. -/
theorem returns_of_complete (sound : d.Sound) (publishes : d.act = .publish l)
    (done : (run n d.step).act = .complete l.number) : d.Returns l.resume (n + 1) .delivered := by
  obtain ⟨-, -, delivery⟩ := delivery_run sound publishes n
  have back := delivery.completes (done ▸ move _)
  refine ⟨fun m lt => ?_, ?_, ?_, ?_⟩
  · rw [run_succ_of_publish publishes]
    exact underWay_of_publication sound publishes (by rw [done]; rfl) (Nat.le_of_lt_succ lt)
  · rw [run_succ_of_publish publishes, done]
    rfl
  · rw [run_succ_of_publish publishes]
    exact back.1
  · rw [run_succ_of_publish publishes]
    exact back.2

/-- A panic that drops a publication comes from one of its calls. Its publisher goes on only if it is
guarded. -/
theorem guarded_of_unwind (sound : d.Sound) (publishes : d.act = .publish l) {f : Frame}
    {message : String} {p : Program} (stack : (run n d.step).frames = f :: d.frames)
    (act : (run n d.step).act = .unwind l.number f.current message)
    (goesOn : (run n d.step).step.control = .running p) :
    l.guarded = true ∧ ∃ call, f.current = some call := by
  obtain ⟨sound', -, delivery⟩ := delivery_run sound publishes n
  obtain ⟨unwinding, -, lands⟩ := delivery.panics (act ▸ move _)
  have balanced := sound'.balanced
  rw [unwinding, stack] at balanced
  constructor
  · by_contra unguarded
    rw [if_neg unguarded, goesOn] at lands
    cases lands
  · cases balanced with
    | unwinding busy => exact Option.isSome_iff_exists.mp (busy f List.mem_cons_self)

/-- A publication that has found its topic is never refused. It is delivered, or one of its own calls
has panicked and the publisher is guarded. -/
theorem Returns.delivered_or_panicked (sound : d.Sound) (publishes : d.act = .publish l)
    {resume : Answer → Program} {b : Answer} (h : d.Returns resume n b) :
    b = .delivered ∨ ∃ call message, b = .panicked message ∧ l.guarded = true ∧
      (run n d).act = .unwind l.number (some call) message := by
  obtain ⟨underWay, answers, back, control⟩ := h
  cases n with
  | zero =>
    have found : (run 0 d).act = .publish l := publishes
    rw [found] at answers
    cases answers
  | succ n =>
    simp only [run_succ_of_publish publishes] at underWay answers back control ⊢
    obtain ⟨above, g, stack, own⟩ := exists_frame_of_underWay sound publishes fun m le =>
      underWay m (Nat.lt_succ_of_le le)
    obtain ⟨same, -⟩ | ⟨f, top, -, act⟩ := (move (run n d.step)).of_answer answers
    · have higher := underWay n (Nat.lt_succ_self n)
      rw [← same, back] at higher
      exact absurd higher (Nat.lt_irrefl _)
    · -- the stack is as high as before after this step, so the delivery was the topmost one
      rw [back] at top
      obtain rfl : above = [] := by
        have height := congrArg List.length (top.symm.trans stack)
        rw [← List.length_eq_zero_iff]
        simp only [List.length_cons, List.length_append] at height
        omega
      obtain rfl : f = g := (List.cons.inj (top.symm.trans stack)).1
      rw [own] at act
      rcases act with act | ⟨message, act⟩
      · rw [act] at answers
        exact .inl (Option.some.inj answers).symm
      · obtain ⟨guarded, call, busy⟩ := guarded_of_unwind sound publishes top act control
        rw [act, busy] at answers ⊢
        exact .inr ⟨call, message, (Option.some.inj answers).symm, guarded, rfl⟩

/-- If all calls of a publication return, it is complete at some time after a moment between two of
its calls. -/
theorem exists_complete_of_stack (sound : d.Sound) (publishes : d.act = .publish l)
    (returns : ∀ m i, (run m d).act = .call i → i.publication = l.number →
      ∃ k, (run (m + k) d).act = .returns i.call.id) {remaining : List (Attachment Handler)}
    (stack : (run n d.step).frames = { l.frame with remaining } :: d.frames) :
    ∃ n, (run n d.step).act = .complete l.number := by
  -- by induction on the number of handlers that remain
  generalize few : remaining.length = count
  induction count using Nat.strong_induction_on generalizing n remaining with
  | _ count ih =>
    obtain ⟨sound', -, before⟩ := delivery_run sound publishes n
    obtain ⟨-, act, -⟩ | ⟨b, rest, call, -, own, act, -⟩ :=
      (move (run n d.step)).of_idle sound' stack rfl
    · exact ⟨n, act⟩
    · obtain ⟨k, returned⟩ :=
        returns (n + 1) ⟨b, call⟩ (by rw [run_succ_of_publish publishes]; exact act) own
      rw [Nat.add_right_comm, run_succ_of_publish publishes] at returned
      obtain ⟨sound'', -, now⟩ := delivery_run sound publishes (n + k)
      have m := move (run (n + k) d.step)
      rw [returned] at m
      obtain ⟨f, frames, top, number⟩ := m.publication_top sound'' rfl
      have belongs : f.publication = l.number := number.trans own
      rw [top] at now
      obtain ⟨rfl, current, remaining', rfl⟩ := now.own_top belongs
      -- between the two moments at least this call was made
      cases k with
      | zero =>
        rw [Nat.add_zero, act] at returned
        cases returned
      | succ k =>
        have goesOn := isOver_of_act act (by simp)
        have share : (run n d.step).act.shareOf l.number = [.call ⟨b, call⟩] := by
          rw [act]
          exact if_pos (congrArg some own)
        have made : record l.number ((run n d.step).trail (k + 1)) =
            .call ⟨b, call⟩ :: record l.number ((run n d.step).step.trail k) := by
          simp only [trail, goesOn, Bool.false_eq_true, if_false]
          rw [record, List.flatMap_cons, share]
          rfl
        rw [trail_add, record_append, made] at now
        rw [stack] at before
        have fewer := before.length_remaining_lt now
        rw [few] at fewer
        have later : (run (n + (k + 1) + 1) d.step).frames =
            { l.frame with remaining := remaining' } :: d.frames := by
          rw [run_succ, m.frames_returns top]
          rfl
        exact ih _ fewer later rfl

/-- If all calls of a publication return, it is complete at some time. -/
theorem exists_complete (sound : d.Sound) (publishes : d.act = .publish l)
    (returns : ∀ m i, (run m d).act = .call i → i.publication = l.number →
      ∃ k, (run (m + k) d).act = .returns i.call.id) :
    ∃ n, (run n d.step).act = .complete l.number := by
  have m := move d
  rw [publishes] at m
  have stack : (run 0 d.step).frames = { l.frame with remaining := l.attachments } :: d.frames :=
    m.frames_publish
  exact exists_complete_of_stack sound publishes returns stack

end Execution

/-- Whether a call that is made in the `m`-th step ends: it returns, or a panic drops it. -/
def Execution.CallEnds (d : Execution) (m : Nat) (i : Invocation) : Prop :=
  ∃ k, (run (m + k) d).act = .returns i.call.id ∨
    ∃ message, (run (m + k) d).act = .unwind i.publication (some i.call.id) message

/-- An execution refuses a publication on a topic, and that is all that it does: the one step in
which the publication does not find its topic is also the one in which it is answered. -/
structure Execution.Refuses (d : Execution) (topic : String) (resume : Answer → Program) : Prop where
  /-- The error names the topic. -/
  answered : d.Returns resume 0 (.refused (.topicNotFound topic))
  /-- No handler is called. -/
  missed : d.act = .miss topic
  /-- No call is counted for any handler. -/
  calls : d.step.world.calls = d.world.calls
  /-- The publication has no number. -/
  publications : d.step.world.publications = d.world.publications
  /-- No id is drawn. -/
  ids : d.step.world.broker.ids = d.world.broker.ids
  /-- Topics and handlers stay as they are. -/
  registry : d.step.world.broker.registry = d.world.broker.registry
  /-- So do all contexts. -/
  contexts : d.step.world.contexts = d.world.contexts
  /-- No publication is counted as emitted. -/
  emitted : d.step.world.broker.stats.emitted = d.world.broker.stats.emitted
  /-- No call is counted as delivered. -/
  delivered : d.step.world.broker.stats.delivered = d.world.broker.stats.delivered
  /-- The publication is counted as one that missed its topic. -/
  topicMisses : d.step.world.broker.stats.topicMisses = d.world.broker.stats.topicMisses + 1

/-- What becomes of a publication that is made at a moment `d`. -/
structure Outcome (d : Execution) (p : Publication) (guarded : Bool) (resume : Answer → Program) :
    Prop where
  /-- It is answered at most once. -/
  unique : ∀ n b n' b', d.Returns resume n b → d.Returns resume n' b' → n = n' ∧ b = b'
  /-- It is refused exactly if its topic is not registered at this moment, and the error names this
  topic. -/
  refused : ∀ error, (∃ n, d.Returns resume n (.refused error)) ↔
    d.world.broker.registry.hasTopic p.topic = false ∧ error = .topicNotFound p.topic
  /-- Then nothing else happens. -/
  untouched : d.world.broker.registry.hasTopic p.topic = false → d.Refuses p.topic resume
  /-- Otherwise it is answered that it was delivered, unless one of its own calls has panicked and
  the publisher catches panics. -/
  answered : d.world.broker.registry.hasTopic p.topic = true → ∀ n b, d.Returns resume n b →
    b = .delivered ∨ ∃ call message, b = .panicked message ∧ guarded = true ∧
      (run n d).act = .unwind (d.world.publications + 1) (some call) message
  /-- If none of its calls runs forever, it is answered so, or one of its own calls panics. -/
  delivered : d.world.broker.registry.hasTopic p.topic = true →
    (∀ m i, (run m d).act = .call i → i.publication = d.world.publications + 1 → d.CallEnds m i) →
    (∃ n, d.Returns resume n .delivered) ∨ ∃ n call message,
      (run n d).act = .unwind (d.world.publications + 1) (some call) message

namespace Course

variable {w : World} {past : List Execution} {d : Execution} {p : Publication} {guarded : Bool}
  {resume : Answer → Program}

/-- A publication that does not find its topic is refused, and nothing else happens. -/
theorem refuses (asks : d.control = .running (.publish p guarded resume))
    (absent : d.world.broker.registry.hasTopic p.topic = false) : d.Refuses p.topic resume := by
  have found : d.world.broker.registry.snapshot p.topic = none := by
    simpa [Registry.hasTopic, Registry.snapshot, Table.contains] using absent
  have act := act_of_miss asks found
  obtain ⟨world, frames, control⟩ := d
  obtain rfl : control = .running (.publish p guarded resume) := asks
  have step : (⟨world, frames, .running (.publish p guarded resume)⟩ : Execution).step =
      ⟨world.missed p.topic, frames, .running (resume (.refused (.topicNotFound p.topic)))⟩ := by
    simp only [Execution.step, stepPublish, found]
  have answered : Returns ⟨world, frames, .running (.publish p guarded resume)⟩ resume 0
      (.refused (.topicNotFound p.topic)) := by
    refine ⟨fun m lt => absurd lt (Nat.not_lt_zero m), ?_, ?_, ?_⟩
    · rw [Execution.run, act]
      rfl
    · rw [Execution.run, step]
    · rw [Execution.run, step]
  exact ⟨answered, act, by rw [step]; rfl, by rw [step]; rfl, by rw [step]; rfl, by rw [step]; rfl,
    by rw [step]; rfl, by rw [step]; rfl, by rw [step]; rfl, by rw [step]; rfl⟩

/-- At every moment of a course, at the top as well as inside of handlers, the outcome of a
publication is decided by whether its topic is registered. -/
theorem outcome (c : Course w past d) (asks : d.control = .running (.publish p guarded resume)) :
    Outcome d p guarded resume := by
  have lookup (registered : d.world.broker.registry.hasTopic p.topic = true) :
      ∃ attachments, d.act = .publish ⟨d.world, p, guarded, resume, attachments⟩ := by
    obtain ⟨attachments, found⟩ := Option.isSome_iff_exists.mp registered
    exact ⟨attachments, act_of_publish asks found⟩
  refine ⟨fun n b n' b' => Returns.unique, fun error => ⟨?_, ?_⟩, refuses asks, ?_, ?_⟩
  · rintro ⟨n, h⟩
    cases registered : d.world.broker.registry.hasTopic p.topic with
    | true =>
      obtain ⟨attachments, publishes⟩ := lookup registered
      obtain wrong | ⟨call, message, wrong, -⟩ := h.delivered_or_panicked c.sound publishes
      · cases wrong
      · cases wrong
    | false =>
      obtain ⟨-, same⟩ := h.unique (refuses asks registered).answered
      cases same
      exact ⟨rfl, rfl⟩
  · rintro ⟨absent, rfl⟩
    exact ⟨0, (refuses asks absent).answered⟩
  · intro registered n b h
    obtain ⟨attachments, publishes⟩ := lookup registered
    exact h.delivered_or_panicked c.sound publishes
  · intro registered ends
    obtain ⟨attachments, publishes⟩ := lookup registered
    by_cases panics : ∃ n call message,
        (Execution.run n d).act = .unwind (d.world.publications + 1) (some call) message
    · exact .inr panics
    · refine .inl ?_
      have returns : ∀ m i, (Execution.run m d).act = .call i →
          i.publication = d.world.publications + 1 →
          ∃ k, (Execution.run (m + k) d).act = .returns i.call.id := by
        intro m i called own
        obtain ⟨k, returned | ⟨message, dropped⟩⟩ := ends m i called own
        · exact ⟨k, returned⟩
        · exact absurd ⟨m + k, i.call.id, message, own ▸ dropped⟩ panics
      obtain ⟨n, done⟩ := exists_complete c.sound publishes returns
      exact ⟨n + 1, returns_of_complete c.sound publishes done⟩

/-- A program whose publication calls `s`. The handler `s` takes the topic and the other handler out,
and its own publication is refused. -/
def saboteur : Program :=
  .perform (.registerTopic "a") fun _ =>
    .subscribe "s" (.exact "a")
      (fun call => .perform (.deregisterTopic "a") fun _ => .perform (.deregisterHandler "t") fun _ =>
        .publish (.plain call.context "a" default) false fun _ => .done) <|
    .subscribe "t" (.exact "a") (fun _ => .done) <|
    .publish (.plain (.new 0) "a" default) false fun _ => .done

/-- Both handlers are called, and the last step of the publication is that it is complete, though its
topic is gone and a publication to the same topic was refused. -/
theorem outcome_saboteur :
    let d := Execution.run 3 (.start .plain saboteur)
    (d.trail 20).map (·.frames.length) = [0, 1, 1, 1, 1, 1, 1, 1, 1, 0] ∧
      (d.trail 20).map (·.act.isMiss) =
        [false, false, false, false, true, false, false, false, false, false] ∧
      (Execution.run 20 d).world.broker.registry.listTopics = [] ∧
      (Execution.run 20 d).world.broker.stats = ⟨1, 2, 1⟩ ∧
      Outcome d (.plain (.new 0) "a" default) false fun _ => .done := by
  have c := (Course.start (w := .plain) saboteur).run 3
  exact ⟨by decide +kernel, by decide +kernel, by decide +kernel, by decide +kernel, c.outcome rfl⟩

end Course

end TopicBroker
