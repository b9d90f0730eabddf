import TopicBroker.Proofs.Delivery.Answers
import TopicBroker.Proofs.Delivery.Calls

/-!
# Panics

A panic drops deliveries from the top of the stack, down to the first one that is guarded or until
none is left. That is all that happens: the world stays as the handlers left it, the dropped
deliveries never make another call, and their calls that were under way never return. The deliveries
below go on with the handlers that they have not called yet.
-/

namespace TopicBroker

open Execution

/-- A panic drops the first of these lists of deliveries and leaves the second one; then the
execution goes on as the control says. -/
inductive Landing (message : String) : List Frame → List Frame → Control → Prop
  /-- It ends at a guarded delivery, which is dropped, and whose publisher hears of it. -/
  | caught {f : Frame} {kept : List Frame} (guarded : f.guarded = true) :
    Landing message [f] kept (.running (f.resume (.panicked message)))
  /-- It leaves the outermost program. -/
  | escaped : Landing message [] [] (.aborted message)
  /-- It drops a delivery that is not guarded, and goes on. -/
  | drops {f : Frame} {dropped kept : List Frame} {control : Control}
      (unguarded : f.guarded = false) (rest : Landing message dropped kept control) :
    Landing message (f :: dropped) kept control

/-- Every panic ends somewhere. -/
theorem exists_landing (message : String) (frames : List Frame) :
    ∃ dropped kept control, frames = dropped ++ kept ∧ Landing message dropped kept control := by
  induction frames with
  | nil => exact ⟨[], [], _, rfl, .escaped⟩
  | cons f frames ih =>
    cases guarded : f.guarded with
    | true => exact ⟨[f], frames, _, rfl, .caught guarded⟩
    | false =>
      obtain ⟨dropped, kept, control, rfl, rest⟩ := ih
      exact ⟨f :: dropped, kept, control, rfl, .drops guarded rest⟩

/-- The act by which a panic drops a delivery. -/
def Frame.drop (f : Frame) (message : String) : Act := .unwind f.publication f.current message

namespace Execution

variable {w : World} {f : Frame} {frames dropped kept : List Frame} {control : Control}
  {message : String}

/-- A step of a panic. -/
theorem step_unwinding : (⟨w, f :: frames, .unwinding message⟩ : Execution).step =
    ⟨w, frames, if f.guarded then .running (f.resume (.panicked message))
      else .unwinding message⟩ := by
  cases guarded : f.guarded <;> simp [step, stepUnwind, guarded]

/-- A panic ends after as many steps as it drops deliveries, and one more if it leaves the outermost
program. In none of them anything happens but that a delivery is dropped. -/
theorem run_landing (l : Landing message dropped kept control) :
    ∃ n, run n ⟨w, dropped ++ kept, .unwinding message⟩ = ⟨w, kept, control⟩ ∧
      ∀ x ∈ trail n ⟨w, dropped ++ kept, .unwinding message⟩,
        x.world = w ∧ (x.act = .rest ∨ ∃ f ∈ dropped, x.act = f.drop message) := by
  induction l with
  | @caught f kept guarded =>
    refine ⟨1, ?_, ?_⟩
    · simp [run, isOver, step_unwinding, guarded]
    · intro x hx
      obtain rfl : x = ⟨w, f :: kept, .unwinding message⟩ := by
        simpa [trail, isOver] using hx
      exact ⟨rfl, .inr ⟨f, List.mem_singleton_self f, rfl⟩⟩
  | escaped =>
    refine ⟨1, rfl, ?_⟩
    intro x hx
    obtain rfl : x = ⟨w, [], .unwinding message⟩ := by
      simpa [trail, isOver] using hx
    exact ⟨rfl, .inl rfl⟩
  | @drops f dropped kept control unguarded rest ih =>
    obtain ⟨n, lands, quiet⟩ := ih
    have next : (⟨w, f :: dropped ++ kept, .unwinding message⟩ : Execution).step =
        ⟨w, dropped ++ kept, .unwinding message⟩ := by
      rw [List.cons_append, step_unwinding, unguarded]
      rfl
    refine ⟨n + 1, ?_, ?_⟩
    · rw [run, next]
      exact lands
    · intro x hx
      unfold trail at hx
      rw [next] at hx
      rcases List.mem_cons.mp hx with rfl | later
      · exact ⟨rfl, .inr ⟨f, List.mem_cons_self, rfl⟩⟩
      · obtain ⟨same, act⟩ := quiet x later
        refine ⟨same, act.imp_right ?_⟩
        rintro ⟨g, hg, drop⟩
        exact ⟨g, List.mem_cons_of_mem _ hg, drop⟩

end Execution

/-- The handler that an act calls, as it is attached. -/
def Act.invoked? : Act → Option (Attachment Handler)
  | .call i => some i.attachment
  | _ => none

/-- The handlers that several acts call, in order. -/
def invoked (acts : List Act) : List (Attachment Handler) := acts.filterMap Act.invoked?

@[simp] theorem invoked_nil : invoked [] = [] := rfl

@[simp] theorem invoked_append (acts later : List Act) :
    invoked (acts ++ later) = invoked acts ++ invoked later :=
  List.filterMap_append

/-- Calls that return go to their handlers. -/
@[simp] theorem invoked_rounds (calls : List Invocation) :
    invoked (calls.flatMap (·.round)) = calls.map (·.attachment) := by
  induction calls with
  | nil => rfl
  | cons i calls ih => rw [List.flatMap_cons, invoked_append, ih]; rfl

/-- Whether an act ends a publication. -/
def Act.Ends (n : Nat) (a : Act) : Prop :=
  a = .complete n ∨ ∃ call message, a = .unwind n call message

/-- What has become of a delivery by the acts that it has made since, and the stack. -/
inductive Frame.GoesOn (f : Frame) (acts : List Act) (frames : List Frame) : Prop
  /-- It is under way, and the handlers that it has not called yet are the rest of its own. -/
  | underWay {current : Option CallId} {remaining : List (Attachment Handler)}
      (here : { f with current, remaining } ∈ frames)
      (called : invoked acts ++ remaining = f.remaining)
  /-- It has called all of its handlers, and is complete. -/
  | completed (done : .complete f.publication ∈ acts) (called : invoked acts = f.remaining)
  /-- One of its own calls has panicked, and it is dropped. -/
  | unwound {call : CallId} {message : String}
      (dropped : .unwind f.publication (some call) message ∈ acts)
      (called : invoked acts <+: f.remaining)

namespace Lookup.Delivery

variable {l : Lookup} {below frames : List Frame} {acts : List Act}

/-- A publication goes on as its delivery does. -/
theorem goesOn (h : l.Delivery below acts frames) : l.frame.GoesOn acts frames := by
  cases h with
  | between calls called =>
    refine .underWay List.mem_cons_self ?_
    rw [invoked_rounds]
    exact called
  | @inside calls last remaining above later called =>
    refine .underWay (List.mem_append_right _ List.mem_cons_self) ?_
    rw [invoked_append, invoked_rounds]
    rw [List.map_append] at called
    exact called
  | completed gone called =>
    refine .completed (by simp [frame]) ?_
    rw [invoked_append, invoked_rounds]
    exact (List.append_nil _).trans called
  | @unwound calls last message frames gone called =>
    have dropped : Act.unwind l.frame.publication (some last.call.id) message ∈
        calls.flatMap (·.round) ++
          [.call last, .unwind l.number (some last.call.id) message] := by
      simp [frame]
    refine .unwound dropped ?_
    rw [invoked_append, invoked_rounds]
    rw [List.map_append] at called
    exact called

/-- While a delivery is under way, none of its acts ends it. -/
theorem not_ends {f : Frame} (h : l.Delivery below acts frames) (hf : f ∈ frames)
    (own : f.publication = l.number) : ∀ a ∈ acts, ¬ a.Ends l.number := by
  have round {calls : List Invocation} : ∀ a ∈ calls.flatMap (·.round), ¬ a.Ends l.number := by
    intro a ha
    obtain ⟨i, -, mem⟩ := List.mem_flatMap.mp ha
    rcases List.mem_cons.mp mem with rfl | mem
    · simp [Act.Ends]
    · obtain rfl := List.mem_singleton.mp mem
      simp [Act.Ends]
  cases h with
  | between => exact round
  | inside above later called =>
    intro a ha
    rcases List.mem_append.mp ha with before | now
    · exact round a before
    · obtain rfl := List.mem_singleton.mp now
      simp [Act.Ends]
  | completed gone => exact absurd own (gone f hf)
  | unwound gone => exact absurd own (gone f hf)

end Lookup.Delivery

/-- Where a delivery had come to some point and was under way, it goes on from there. -/
theorem Frame.GoesOn.after {f : Frame} {current : Option CallId}
    {remaining : List (Attachment Handler)} {acts later : List Act} {frames : List Frame}
    (h : f.GoesOn (acts ++ later) frames) (called : invoked acts ++ remaining = f.remaining)
    (active : ∀ a ∈ acts, ¬ a.Ends f.publication) :
    { f with current, remaining }.GoesOn later frames := by
  have since {a : Act} (ends : a.Ends f.publication) (mem : a ∈ acts ++ later) : a ∈ later :=
    (List.mem_append.mp mem).resolve_left fun before => active a before ends
  cases h with
  | underWay here all =>
    rw [invoked_append, List.append_assoc, ← called] at all
    exact .underWay here (List.append_cancel_left all)
  | completed done all =>
    rw [invoked_append, ← called] at all
    exact .completed (since (.inl rfl) done) (List.append_cancel_left all)
  | unwound dropped some =>
    rw [invoked_append, ← called] at some
    exact .unwound (since (.inr ⟨_, _, rfl⟩) dropped) ((List.prefix_append_right_inj _).mp some)

namespace Course

variable {w : World} {past before after : List Execution} {d e : Execution} {f : Frame}

/-- A delivery under way calls those of its handlers that it has not called yet, in their order and
each of them once, until it is complete or one of its own calls panics. -/
theorem goesOn (c : Course w (past ++ d :: after) e) (hf : f ∈ d.frames) :
    f.GoesOn (record f.publication (d :: after)) e.frames := by
  obtain ⟨before, x, between, l, rfl, publishes, own⟩ := c.at_past.exists_publish hf
  have now := c.at_past.delivery publishes
  have active := now.not_ends hf own
  have whole : l.frame.GoesOn (record l.number (between ++ d :: after)) e.frames := by
    rw [List.append_assoc, List.cons_append] at c
    exact (c.delivery publishes).goesOn
  rw [record_append] at whole
  cases now.goesOn with
  | underWay here called =>
    obtain rfl := c.at_past.eq_of_publication_eq hf here own
    exact whole.after called active
  | completed done => exact absurd (.inl rfl) (active _ done)
  | unwound dropped => exact absurd (.inr ⟨_, _, rfl⟩) (active _ dropped)

end Course

/-- How far a panic has come with a delivery that it drops: the acts that the delivery has made since
the panic began, and the execution. -/
inductive Frame.Dropped (f : Frame) (message : String) (kept : List Frame) (control : Control) :
    List Act → Execution → Prop
  /-- The panic has not reached it yet. -/
  | falling {w : World} {front : List Frame} (landing : Landing message front kept control)
      (waits : f ∈ front) : Dropped f message kept control [] ⟨w, front ++ kept, .unwinding message⟩
  /-- It is gone. -/
  | gone {x : Execution} (gone : ∀ g ∈ x.frames, g.publication ≠ f.publication) :
    Dropped f message kept control [f.drop message] x

namespace Frame.Dropped

variable {f : Frame} {message : String} {kept : List Frame} {control : Control} {acts : List Act}
  {x : Execution}

/-- A step of a panic drops the topmost delivery; any other step comes after all are dropped. -/
theorem step (h : f.Dropped message kept control acts x) (sound : x.Sound)
    (ordered : x.frames.Pairwise fun g g' => g'.publication < g.publication)
    (known : f.publication ≤ x.world.publications) :
    f.Dropped message kept control (acts ++ x.act.shareOf f.publication) x.step := by
  cases h with
  | @falling w front landing waits =>
    have own : (f.drop message).shareOf f.publication = [f.drop message] := if_pos rfl
    cases landing with
    | @caught g kept guarded =>
      obtain rfl := List.mem_singleton.mp waits
      have below := (List.pairwise_cons.mp ordered).1
      have share : (act ⟨w, [f] ++ kept, .unwinding message⟩).shareOf f.publication =
        [f.drop message] := own
      rw [share]
      refine .gone fun g hg => Nat.ne_of_lt (below g ?_)
      rwa [List.singleton_append, step_unwinding] at hg
    | escaped => exact absurd waits List.not_mem_nil
    | @drops top front kept control unguarded rest =>
      have below := (List.pairwise_cons.mp ordered).1
      have next : (⟨w, top :: front ++ kept, .unwinding message⟩ : Execution).step =
          ⟨w, front ++ kept, .unwinding message⟩ := by
        rw [List.cons_append, step_unwinding, unguarded]
        rfl
      have act : (act ⟨w, top :: front ++ kept, .unwinding message⟩) = top.drop message := rfl
      rw [next, act]
      rcases List.mem_cons.mp waits with rfl | later
      · rw [own]
        exact .gone fun g hg => Nat.ne_of_lt (below g hg)
      · have other : top.publication ≠ f.publication :=
          Nat.ne_of_gt (below f (List.mem_append_left _ later))
        have share : (top.drop message).shareOf f.publication = [] :=
          if_neg fun same => other (Option.some.inj same)
        rw [share]
        exact .falling rest later
  | gone gone =>
    rw [(move x).shareOf_eq_nil_of_gone sound gone, List.append_nil]
    exact .gone ((move x).publication_ne_of_gone known gone)

end Frame.Dropped

namespace Course

variable {w : World} {past after : List Execution} {d e : Execution} {f : Frame}

/-- The only act that a delivery still makes which a panic is about to drop is that it is dropped.
None of its other handlers is called, and the call that was under way never returns. -/
theorem record_dropped (c : Course w (past ++ d :: after) e) {message : String}
    {dropped kept : List Frame} {control : Control}
    (panics : d.control = .running (.panic message)) (stack : d.frames = dropped ++ kept)
    (landing : Landing message dropped kept control) (hf : f ∈ dropped) :
    record f.publication after <+: [f.drop message] := by
  have given : f.publication ≤ d.world.publications :=
    c.at_past.sound.numbered f (stack ▸ List.mem_append_left _ hf)
  have both : f.Dropped message kept control (record f.publication after) e ∧
      f.publication ≤ e.world.publications := by
    refine c.since (P := fun later x => f.Dropped message kept control
      (record f.publication later) x ∧ f.publication ≤ x.world.publications) ?_ ?_ ?_
    · obtain ⟨world, frames, running⟩ := d
      obtain rfl : running = .running (.panic message) := panics
      obtain rfl : frames = dropped ++ kept := stack
      exact ⟨.falling landing hf, given⟩
    · rintro later x c' ⟨h, known⟩
      rw [record_append, record_singleton]
      exact ⟨h.step c'.sound c'.descending known, Nat.le_trans known (move x).publications_le⟩
    · rintro later x history program c' ended ⟨h, known⟩
      refine ⟨?_, known⟩
      generalize record f.publication later = acts at h
      cases h with
      | falling => exact absurd ended Bool.false_ne_true
      | gone gone => exact .gone fun g hg => absurd hg List.not_mem_nil
  generalize record f.publication after = acts at both
  cases both.1 with
  | falling => exact List.nil_prefix
  | gone => exact List.prefix_rfl

end Course

/-- All that a panic does which is raised at a moment `d` of a course: it drops the deliveries
`dropped`, leaves those in `kept`, and has ended after `n` steps. -/
structure Unwinding (w : World) (past : List Execution) (d : Execution) (message : String)
    (dropped kept : List Frame) (control : Control) (n : Nat) : Prop where
  /-- Every delivery under way is in the middle of a call: that many calls are nested. -/
  nested : ∀ f ∈ d.frames, f.current.isSome = true
  /-- The dropped deliveries are the topmost ones. -/
  stack : d.frames = dropped ++ kept
  /-- They reach down to the first guarded one, or to the last one. -/
  landing : Landing message dropped kept control
  /-- In the end the world is the one of the panic: the registry, the counts, the ids and the
  contexts. The other deliveries are as they were. -/
  lands : run n d = ⟨d.world, kept, control⟩
  /-- So it is at every moment in between, and nothing is done but dropping deliveries. -/
  quiet : ∀ x ∈ d.trail n, x.world = d.world ∧
    (x.act = .rest ∨ ∃ f ∈ dropped, x.act = f.drop message)
  /-- From the panic on, at any time, a dropped delivery does nothing but to be dropped: none of the
  handlers that it has not called yet is called. -/
  silent : ∀ after e, Course w (past ++ d :: after) e → ∀ f ∈ dropped,
    record f.publication after <+: [f.drop message]
  /-- The calls that were under way in them never return, and so are never counted. -/
  uncounted : ∀ after e, Course w (past ++ d :: after) e → ∀ f ∈ dropped, ∀ call,
    f.current = some call → ∀ x ∈ after, x.act ≠ .returns call
  /-- Every other delivery goes on with the handlers that it has not called yet. -/
  goesOn : ∀ after e, Course w (past ++ d :: after) e → ∀ f ∈ kept,
    f.GoesOn (record f.publication after) e.frames
  /-- When the panic has ended, the registry is coherent. -/
  coherent : (run n d).world.broker.registry.Coherent
  /-- If all handlers that were registered stand for fixed predicates, then attached to a topic is
  exactly what matches it. -/
  matched : ∀ meaning : Handler → String → Bool,
    (∀ key handler, .registerHandler key handler ∈ changes past →
      handler.matcher.Means (meaning handler)) →
    ∀ topic list, (run n d).world.broker.registry.snapshot topic = some list →
      list = (run n d).world.broker.registry.registered.filter fun a => meaning a.handler topic
  /-- What happens later is what happens from there. -/
  resumes : ∀ m, run (n + m) d = run m ⟨d.world, kept, control⟩

namespace Course

variable {w : World} {past : List Execution} {d : Execution} {ids : Option IdSource}
  {strategy : MatchStrategy}

/-- Every panic, however deep in nested deliveries it is raised and wherever it is caught, does
nothing but drop deliveries. -/
theorem unwinds (fresh : Broker.create ids strategy = .ok w) (c : Course w past d)
    {message : String} (panics : d.control = .running (.panic message)) :
    ∃ dropped kept control n, Unwinding w past d message dropped kept control n := by
  obtain ⟨dropped, kept, control, stack, landing⟩ := exists_landing message d.frames
  obtain ⟨n, lands, quiet⟩ := run_landing (w := d.world) landing
  have begins : d.step = ⟨d.world, dropped ++ kept, .unwinding message⟩ := by
    unfold Execution.step
    rw [panics, stack]
  have goesOn : d.isOver = false := by simp [isOver, panics]
  have ends : Execution.run (n + 1) d = ⟨d.world, kept, control⟩ := by
    rw [Execution.run, goesOn, begins]
    exact lands
  have rests : d.act = .rest := by
    unfold act
    rw [panics]
  refine ⟨dropped, kept, control, n + 1, ?_, stack, landing, ends, ?_, ?_, ?_, ?_, ?_, ?_, ?_⟩
  · have balanced : Balanced d.frames (.running (.panic message)) := panics ▸ c.sound.balanced
    generalize d.frames = frames at balanced ⊢
    cases balanced with
    | running busy => exact busy
  · intro x hx
    unfold trail at hx
    rw [goesOn, begins] at hx
    rcases List.mem_cons.mp hx with rfl | later
    · exact ⟨rfl, .inl rests⟩
    · exact quiet x later
  · intro after e c' f hf
    exact c'.record_dropped panics stack landing hf
  · intro after e c' f hf call busy x hx returns
    have own : call.publication = f.publication :=
      c.sound.calling f (stack ▸ List.mem_append_left _ hf) call busy
    have recorded : .returns call ∈ record f.publication after :=
      mem_record.mpr ⟨⟨x, hx, returns⟩, congrArg some own⟩
    have dropping := (c'.record_dropped panics stack landing hf).subset recorded
    cases List.mem_singleton.mp dropping
  · intro after e c' f hf
    have progress := c'.goesOn (f := f) (stack ▸ List.mem_append_right _ hf)
    have share : record f.publication (d :: after) = record f.publication after := by
      rw [record, List.flatMap_cons, rests]
      rfl
    rwa [share] at progress
  · have coherent : d.world.broker.registry.Coherent := c.coherent fresh
    rw [ends]
    exact coherent
  · intro meaning fixed topic list found
    rw [ends] at found ⊢
    have represented : d.world.broker.registry.Represents meaning
        (fun handler => handler.matcher.Means (meaning handler))
        (Roster.replay meaning (changes past)) := c.represents fresh (fun _ known => known) fixed
    exact represented.attached found
  · intro m
    rw [run_add, ends]

/-- A program with three nested publications, of which the second one is guarded. The handler `t`,
which is called by the third one, panics. -/
def cascade : Program :=
  .perform (.registerTopic "a") fun _ => .perform (.registerTopic "b") fun _ =>
    .perform (.registerTopic "c") fun _ =>
      .subscribe "p" (.exact "a")
        (fun call => .publish (.plain call.context "b" default) true fun _ => .done) <|
      .subscribe "q" (.exact "a") (fun _ => .done) <|
      .subscribe "r" (.exact "b")
        (fun call => .publish (.plain call.context "c" default) false fun _ => .done) <|
      .subscribe "s" (.exact "b") (fun _ => .done) <|
      .subscribe "t" (.exact "c") (fun _ => .panic "out") <|
      .subscribe "u" (.exact "c") (fun _ => .done) <|
      .publish (.plain (.new 0) "a" default) false fun _ => .done

/-- The keys that a publication of the program calls. -/
def cascadeKeys (n : Nat) : List String :=
  (invoked (record n ((Execution.start .plain cascade).trail 40))).map (·.key)

/-- The panic crosses the calls of `t` and `r` and ends in the body of `p`. The handlers `u` and `s`
are left out, but `q` is called. -/
theorem unwinds_cascade :
    let d := Execution.run 15 (.start .plain cascade)
    d.frames.length = 3 ∧ cascadeKeys 1 = ["p", "q"] ∧ cascadeKeys 2 = ["r"] ∧
      cascadeKeys 3 = ["t"] ∧
      ∃ dropped kept control n, Unwinding .plain ((Execution.start .plain cascade).trail 15) d "out"
        dropped kept control n := by
  have c := (Course.start (w := .plain) cascade).run 15
  rw [List.nil_append] at c
  exact ⟨by decide +kernel, by decide +kernel, by decide +kernel, by decide +kernel,
    unwinds World.create_plain c (by with_unfolding_all rfl)⟩

end Course

end TopicBroker
