import TopicBroker.Proofs.Delivery.Alike
import TopicBroker.Proofs.Delivery.Runs

/-!
# A broker never acts on a switch

Two courses that differ only in which contexts are cancelled, and when, are observed to do the same,
as long as no program goes on in another way because of what it sees of a switch. One course may make
steps in between that the other does not make. These steps cancel something, or prepare to, and
nothing of them is observed; since programs make only finitely many of them in a row, each course
catches up with the other.
-/

namespace TopicBroker

/-- What is observed of a step. The switches of contexts are left out. -/
inductive Observation where
  /-- An operation was answered. -/
  | answered (op : Operation) (answer : Answer)
  /-- A handler was registered. -/
  | subscribed (key : String) (matcher : Matcher)
  /-- A publication did not find its topic. -/
  | missed (topic : String)
  /-- A publication found its topic, with handlers under these keys and numbers. -/
  | published (number : Nat) (parcel : World.Parcel) (handlers : List (String × Nat))
  /-- A handler was called. -/
  | called (call : Call)
  /-- A call returned. -/
  | returned (call : CallId)
  /-- A publication had called all its handlers. -/
  | completed (publication : Nat)
  /-- A panic dropped a publication. -/
  | dropped (publication : Nat) (call : Option CallId) (message : String)

/-- What is observed of an act in a world. -/
def Act.observation? (w : World) : Act → Option Observation
  | .rest => none
  | .perform op => if op.isQuiet then none else some (.answered op.bare (w.perform op).2.bare)
  | .subscribe key handler => some (.subscribed key handler.matcher)
  | .miss topic => some (.missed topic)
  | .publish l =>
    some (.published l.number l.parcel.bare (l.attachments.map fun a => (a.key, a.seq)))
  | .call i => some (.called i.call.bare)
  | .returns c => some (.returned c)
  | .complete n => some (.completed n)
  | .unwind n c message => some (.dropped n c message)

/-- What is observed of the next step. -/
def Execution.observation? (e : Execution) : Option Observation := e.act.observation? e.world

/-- What was observed in the past, in order. -/
def observed (past : List Execution) : List Observation := past.filterMap (·.observation?)

theorem observed_cons (e : Execution) (past : List Execution) :
    observed (e :: past) = e.observation?.toList ++ observed past := by
  unfold observed
  cases h : e.observation? <;> simp [h]

theorem observed_append (past later : List Execution) :
    observed (past ++ later) = observed past ++ observed later :=
  List.filterMap_append

/-- Deliveries that are the same but for switches and for handlers, which are alike. -/
structure Frame.Alike (f f' : Frame) : Prop where
  /-- They belong to the same publication. -/
  publication : f.publication = f'.publication
  /-- The handlers are given the same. -/
  parcel : f.parcel.bare = f'.parcel.bare
  /-- They are in the middle of the same call. -/
  current : f.current = f'.current
  /-- The same handlers are still to be called. -/
  remaining : ∃ pairs : List (Attachment HandlerPair),
    pairs.map (·.map (·.left)) = f.remaining ∧ pairs.map (·.map (·.right)) = f'.remaining
  /-- A panic ends at both or at neither. -/
  guarded : f.guarded = f'.guarded
  /-- The publishers go on alike. -/
  resume : ∀ a a', a.bare = a'.bare → (f.resume a).Alike (f'.resume a')

theorem Frame.Alike.symm {f f' : Frame} (h : f.Alike f') : f'.Alike f where
  publication := h.publication.symm
  parcel := h.parcel.symm
  current := h.current.symm
  remaining := by
    obtain ⟨pairs, left, right⟩ := h.remaining
    refine ⟨pairs.map (·.map (·.swap)), ?_, ?_⟩
    · rw [List.map_map, ← right]
      rfl
    · rw [List.map_map, ← left]
      rfl
  guarded := h.guarded.symm
  resume a a' same := (h.resume a' a same.symm).symm

/-- What happens next in executions that are alike. -/
inductive Control.Alike : Control → Control → Prop
  /-- Programs that are alike go on. -/
  | running {p p' : Program} (alike : p.Alike p') : Alike (.running p) (.running p')
  /-- The topmost deliveries go on. -/
  | delivering : Alike .delivering .delivering
  /-- The same panic is under way. -/
  | unwinding (message : String) : Alike (.unwinding message) (.unwinding message)
  /-- Both have ended. -/
  | finished : Alike .finished .finished
  /-- The same panic has left both. -/
  | aborted (message : String) : Alike (.aborted message) (.aborted message)

theorem Control.Alike.symm {c c' : Control} (h : c.Alike c') : c'.Alike c := by
  cases h with
  | running alike => exact .running alike.symm
  | delivering => exact .delivering
  | unwinding message => exact .unwinding message
  | finished => exact .finished
  | aborted message => exact .aborted message

/-- Executions that are the same but for switches, for what they cancel, and for what is written
into the history. -/
structure Execution.Alike (e e' : Execution) : Prop where
  /-- The worlds are alike. -/
  world : e.world.Alike e'.world
  /-- The deliveries under way are alike. -/
  frames : List.Forall₂ Frame.Alike e.frames e'.frames
  /-- So is what happens next. -/
  control : e.control.Alike e'.control

namespace Execution

/-- Whether some steps of another execution do the same as the next step of this one. -/
def FollowedBy (e e' : Execution) : Prop :=
  ∃ m, observed (e.trail 1) = observed (e'.trail m) ∧ (run 1 e).Alike (run m e')

variable {w w' : World} {frames frames' : List Frame}

/-- What is observed of an operation. -/
theorem observation?_perform (op : Operation) (next : Answer → Program) :
    observation? ⟨w, frames, .running (.perform op next)⟩ =
      if op.isQuiet then none else some (.answered op.bare (w.perform op).2.bare) := rfl

/-- One step is followed by one step that is observed the same. -/
theorem followedBy_of_step {e e' : Execution} (goesOn : e.isOver = false)
    (goesOn' : e'.isOver = false) (same : e.observation? = e'.observation?)
    (alike : e.step.Alike e'.step) : FollowedBy e e' := by
  refine ⟨1, ?_, ?_⟩
  · simp [trail, goesOn, goesOn', observed_cons, same]
  · simpa [run, goesOn, goesOn'] using alike

/-- Where programs end that are alike, their calls return, or the deliveries go on. -/
theorem followedBy_done (world : w.Alike w') (stack : List.Forall₂ Frame.Alike frames frames') :
    FollowedBy ⟨w, frames, .running .done⟩ ⟨w', frames', .running .done⟩ := by
  cases stack with
  | nil => exact followedBy_of_step rfl rfl rfl ⟨world, .nil, .finished⟩
  | @cons f f' below below' alike stack =>
    obtain ⟨publication, parcel, current, remaining, guarded, resume⟩ := f
    obtain ⟨publication', parcel', current', remaining', guarded', resume'⟩ := f'
    obtain rfl : current = current' := alike.current
    cases current with
    | none => exact followedBy_of_step rfl rfl rfl ⟨world, .cons alike stack, .delivering⟩
    | some call =>
      refine followedBy_of_step rfl rfl rfl ⟨(world.count _).record _ _, ?_, .delivering⟩
      exact .cons { alike with current := rfl } stack

/-- Where the same is published in worlds that are alike, it goes to handlers that are alike. -/
theorem followedBy_publish {p p' : Publication} {guarded : Bool} {next next' : Answer → Program}
    (same : p.bare = p'.bare)
    (goesOn : ∀ a a', a.bare = a'.bare → (next a).Alike (next' a')) (world : w.Alike w')
    (stack : List.Forall₂ Frame.Alike frames frames') :
    FollowedBy ⟨w, frames, .running (.publish p guarded next)⟩
      ⟨w', frames', .running (.publish p' guarded next')⟩ := by
  obtain ⟨pairs, left, right⟩ := world.registry
  have topic : p.topic = p'.topic := by
    rw [← p.topic_bare, same, p'.topic_bare]
  have list (f : HandlerPair → Handler) : (pairs.map f).snapshot p'.topic =
      (pairs.snapshot p'.topic).map fun list => list.map (·.map f) := Registry.snapshot_map _
  cases found : pairs.snapshot p'.topic with
  | none =>
    have here : w.broker.registry.snapshot p.topic = none := by
      rw [← left, topic, list, found, Option.map_none]
    have there : w'.broker.registry.snapshot p'.topic = none := by
      rw [← right, list, found, Option.map_none]
    refine followedBy_of_step rfl rfl ?_ ?_
    · rw [observation?, observation?, act_of_miss rfl here, act_of_miss rfl there, topic]
      rfl
    · simp only [step, stepPublish, here, there]
      rw [topic]
      exact ⟨(world.count _).record _ _, stack, .running (goesOn _ _ rfl)⟩
  | some attachments =>
    have here : w.broker.registry.snapshot p.topic = some (attachments.map (·.map (·.left))) := by
      rw [← left, topic, list, found, Option.map_some]
    have there : w'.broker.registry.snapshot p'.topic =
        some (attachments.map (·.map (·.right))) := by
      rw [← right, list, found, Option.map_some]
    obtain ⟨parcel, worlds⟩ := world.publish same (attachments.map (·.map (·.left))).length
      (attachments.map (·.map (·.right))).length
    refine followedBy_of_step rfl rfl ?_ ?_
    · have number : w.publications + 1 = w'.publications + 1 := by rw [world.publications]
      have keys : (attachments.map (·.map (·.left))).map (fun a => (a.key, a.seq)) =
          (attachments.map (·.map (·.right))).map fun a => (a.key, a.seq) := by
        rw [List.map_map, List.map_map]
        rfl
      have parcel' : (World.parcel w.broker.ids p).1.bare =
          (World.parcel w'.broker.ids p').1.bare := parcel
      rw [observation?, observation?, act_of_publish rfl here, act_of_publish rfl there]
      simp only [Act.observation?, Lookup.number, Lookup.parcel, number, keys, parcel']
    · simp only [step, stepPublish, here, there]
      exact ⟨worlds, .cons ⟨worlds.publications, parcel, rfl, ⟨attachments, rfl, rfl⟩, rfl, goesOn⟩
        stack, .delivering⟩

/-- Where a delivery goes on, the same handler is called, or the publication ends. -/
theorem followedBy_delivering (world : w.Alike w')
    (stack : List.Forall₂ Frame.Alike frames frames') :
    FollowedBy ⟨w, frames, .delivering⟩ ⟨w', frames', .delivering⟩ := by
  cases stack with
  | nil => exact followedBy_of_step rfl rfl rfl ⟨world, .nil, .finished⟩
  | @cons f f' below below' alike stack =>
    obtain ⟨publication, parcel, current, remaining, guarded, resume⟩ := f
    obtain ⟨publication', parcel', current', remaining', guarded', resume'⟩ := f'
    obtain rfl : publication = publication' := alike.publication
    obtain ⟨pairs, left, right⟩ := alike.remaining
    cases pairs with
    | nil =>
      obtain rfl : [] = remaining := left
      obtain rfl : [] = remaining' := right
      exact followedBy_of_step rfl rfl rfl ⟨world, stack, .running (alike.resume _ _ rfl)⟩
    | cons a pairs =>
      obtain rfl : a.map (·.left) :: pairs.map (·.map (·.left)) = remaining := left
      obtain rfl : a.map (·.right) :: pairs.map (·.map (·.right)) = remaining' := right
      have depth : below'.length + 1 = below.length + 1 := by rw [stack.length_eq]
      obtain ⟨call, worlds⟩ := world.called a alike.parcel publication (below.length + 1)
      refine followedBy_of_step rfl rfl ?_ ?_
      · simp only [observation?, act, Act.observation?, depth]
        exact congrArg (some ∘ Observation.called) call
      · simp only [step, stepDeliver, depth]
        exact ⟨worlds, .cons { alike with
          current := congrArg (some ·.id) call
          remaining := ⟨pairs, rfl, rfl⟩ } stack, .running (a.handler.alike.bodies _ _ call)⟩

/-- Where the same panic is under way, the same deliveries are dropped. -/
theorem followedBy_unwinding (message : String) (world : w.Alike w')
    (stack : List.Forall₂ Frame.Alike frames frames') :
    FollowedBy ⟨w, frames, .unwinding message⟩ ⟨w', frames', .unwinding message⟩ := by
  cases stack with
  | nil => exact followedBy_of_step rfl rfl rfl ⟨world, .nil, .aborted message⟩
  | @cons f f' below below' alike stack =>
    obtain ⟨publication, parcel, current, remaining, guarded, resume⟩ := f
    obtain ⟨publication', parcel', current', remaining', guarded', resume'⟩ := f'
    obtain rfl : publication = publication' := alike.publication
    obtain rfl : current = current' := alike.current
    obtain rfl : guarded = guarded' := alike.guarded
    cases guarded with
    | true =>
      exact followedBy_of_step rfl rfl rfl ⟨world, stack, .running (alike.resume _ _ rfl)⟩
    | false => exact followedBy_of_step rfl rfl rfl ⟨world, stack, .unwinding message⟩

/-- Programs that are alike follow each other in worlds that are alike. -/
theorem followedBy_running {p p' : Program} (alike : p.Alike p') (world : w.Alike w')
    (stack : List.Forall₂ Frame.Alike frames frames') :
    FollowedBy ⟨w, frames, .running p⟩ ⟨w', frames', .running p'⟩ := by
  induction alike generalizing w w' with
  | done => exact followedBy_done world stack
  | panic message => exact followedBy_of_step rfl rfl rfl ⟨world, stack, .unwinding message⟩
  | @perform op op' next next' alike goesOn ih =>
    obtain ⟨worlds, answers⟩ := world.perform alike
    have next := goesOn _ _ ⟨w, rfl⟩ ⟨w', rfl⟩ answers
    refine followedBy_of_step rfl rfl ?_ ⟨worlds, stack, .running next⟩
    rw [observation?_perform, observation?_perform, alike.isQuiet_eq, alike.bare_eq, answers]
  | @left op next p quiet goesOn ih =>
    refine ⟨0, ?_, world.perform_quiet quiet, stack, .running (goesOn _ ⟨w, rfl⟩)⟩
    have here : trail 1 ⟨w, frames, .running (.perform op next)⟩ =
        [⟨w, frames, .running (.perform op next)⟩] := rfl
    rw [here, observed_cons, observation?_perform, if_pos quiet]
    rfl
  | @right op next p quiet goesOn ih =>
    -- the other program makes its quiet step first, and what follows it follows here
    obtain ⟨m, same, alike⟩ := ih _ ⟨w', rfl⟩ (world.symm.perform_quiet quiet).symm
    refine ⟨m + 1, ?_, alike⟩
    have there : trail (m + 1) ⟨w', frames', .running (.perform op next)⟩ =
        ⟨w', frames', .running (.perform op next)⟩ ::
          trail m ⟨(w'.perform op).1, frames', .running (next (w'.perform op).2)⟩ := rfl
    rw [there, observed_cons, observation?_perform, if_pos quiet]
    exact same
  | @subscribe key matcher body body' next next' bodies goesOn _ ih =>
    have worlds := world.registerHandler key ⟨⟨matcher, body⟩, ⟨matcher, body'⟩, rfl, bodies⟩
    exact followedBy_of_step rfl rfl rfl ⟨worlds, stack, .running goesOn⟩
  | publish same goesOn ih => exact followedBy_publish same goesOn world stack

/-- Executions that are alike follow each other. -/
theorem Alike.followedBy {e e' : Execution} (h : e.Alike e') : FollowedBy e e' := by
  obtain ⟨w, frames, control⟩ := e
  obtain ⟨w', frames', control'⟩ := e'
  have world : w.Alike w' := h.world
  have stack : List.Forall₂ Frame.Alike frames frames' := h.frames
  have next : control.Alike control' := h.control
  cases next with
  | running alike => exact followedBy_running alike world stack
  | delivering => exact followedBy_delivering world stack
  | unwinding message => exact followedBy_unwinding message world stack
  | finished => exact ⟨0, rfl, h⟩
  | aborted message => exact ⟨0, rfl, h⟩

variable {e e' : Execution}

/-- Any number of steps is followed by some number of steps that are observed the same. -/
theorem Alike.follows (h : e.Alike e') (n : Nat) :
    ∃ m, observed (e.trail n) = observed (e'.trail m) ∧ (run n e).Alike (run m e') := by
  induction n generalizing e e' with
  | zero => exact ⟨0, rfl, h⟩
  | succ n ih =>
    obtain ⟨m, first, alike⟩ := h.followedBy
    obtain ⟨k, rest, alike⟩ := ih alike
    refine ⟨m + k, ?_, ?_⟩
    · rw [Nat.add_comm n 1, trail_add, trail_add, observed_append, observed_append, first, rest]
    · rw [Nat.add_comm n 1, run_add, run_add]
      exact alike

/-- Executions that are alike end together. -/
theorem Alike.isOver_eq (h : e.Alike e') : e.isOver = e'.isOver := by
  obtain ⟨w, frames, control⟩ := e
  obtain ⟨w', frames', control'⟩ := e'
  have next : control.Alike control' := h.control
  cases next <;> rfl

theorem Alike.symm (h : e.Alike e') : e'.Alike e :=
  ⟨h.world.symm, (h.frames.imp fun _ _ alike => alike.symm).flip, h.control.symm⟩

/-- Executions that have ended and are alike have ended in the same way. -/
theorem Alike.control_eq (h : e.Alike e') (ended : e.isOver = true) : e.control = e'.control := by
  obtain ⟨w, frames, control⟩ := e
  obtain ⟨w', frames', control'⟩ := e'
  have next : control.Alike control' := h.control
  cases next with
  | finished => rfl
  | aborted message => rfl
  | _ => cases ended

/-- Executions that are alike are observed to do the same until they end, and end alike. -/
theorem Alike.ends_alike (h : e.Alike e') {m n : Nat}
    (ended : (run m e).isOver = true) (ended' : (run n e').isOver = true) :
    observed (e.trail m) = observed (e'.trail n) ∧ (run m e).Alike (run n e') := by
  obtain ⟨k, same, alike⟩ := h.follows m
  obtain ⟨last, steps⟩ := run_eq_of_isOver (alike.isOver_eq ▸ ended) ended'
  rw [← last, ← steps]
  exact ⟨same, alike⟩

/-- Where one of two executions that are alike ends, the other does. -/
theorem Alike.ends (h : e.Alike e') (ends : ∃ n, (run n e).isOver = true) :
    ∃ n, (run n e').isOver = true := by
  obtain ⟨n, ended⟩ := ends
  obtain ⟨m, -, alike⟩ := h.follows n
  exact ⟨m, alike.isOver_eq ▸ ended⟩

/-- Nothing is observed of an execution that has ended. -/
theorem observation?_of_isOver (ended : e.isOver = true) : e.observation? = none := by
  obtain ⟨w, frames, control⟩ := e
  cases control with
  | finished => rfl
  | aborted message => rfl
  | _ => cases ended

end Execution

open Execution

/-- The moments of two courses in which programs run that are alike, one after the other. Each
course makes its steps at its own pace; the next programs start when both have ended. -/
inductive Parallel (w w' : World) :
    List Execution → Execution → List Execution → Execution → Prop
  /-- The first programs start. -/
  | start {p p' : Program} (alike : p.Alike p') : Parallel w w' [] (.start w p) [] (.start w' p')
  /-- The first course makes a step. -/
  | left {past past' : List Execution} {e e' : Execution} (c : Parallel w w' past e past' e') :
    Parallel w w' (past ++ [e]) e.step past' e'
  /-- The second course makes a step. -/
  | right {past past' : List Execution} {e e' : Execution} (c : Parallel w w' past e past' e') :
    Parallel w w' past e (past' ++ [e']) e'.step
  /-- The next programs start in the worlds that the last ones left. -/
  | next {past past' : List Execution} {e e' : Execution} (c : Parallel w w' past e past' e')
      (ended : e.isOver = true) (ended' : e'.isOver = true) (history history' : List Event)
      {p p' : Program} (alike : p.Alike p') :
    Parallel w w' past (.start { e.world with history } p) past'
      (.start { e'.world with history := history' } p')

/-- Whether the second of two courses is behind: some more steps bring it to where the first is. -/
def Behind (past : List Execution) (e : Execution) (past' : List Execution) (e' : Execution) :
    Prop :=
  ∃ m, observed past = observed (past' ++ e'.trail m) ∧ e.Alike (Execution.run m e')

namespace Behind

variable {past past' : List Execution} {e e' : Execution}

/-- Courses that are equally far are behind each other. -/
theorem of_alike (same : observed past = observed past') (alike : e.Alike e') :
    Behind past e past' e' :=
  ⟨0, by rw [trail, List.append_nil, same], alike⟩

/-- A course is still behind when the other one makes a step. -/
theorem step (h : Behind past e past' e') : Behind (past ++ [e]) e.step past' e' := by
  obtain ⟨m, same, alike⟩ := h
  cases ended : e.isOver with
  | true =>
    refine ⟨m, ?_, (step_of_isOver ended).symm ▸ alike⟩
    rw [observed_append, observed_cons, observation?_of_isOver ended, same]
    exact List.append_nil _
  | false =>
    obtain ⟨k, first, alike⟩ := alike.followedBy
    have one : e.trail 1 = [e] := by simp [trail, ended]
    have now : Execution.run 1 e = e.step := by simp [Execution.run, ended]
    rw [one] at first
    rw [now, ← run_add] at alike
    refine ⟨m + k, ?_, alike⟩
    rw [trail_add, ← List.append_assoc, observed_append, observed_append, same, first]

/-- Where the course that is behind makes a step, it is still behind or has overtaken the other. -/
theorem catchUp (h : Behind past e past' e') :
    Behind past e (past' ++ [e']) e'.step ∨ Behind (past' ++ [e']) e'.step past e := by
  obtain ⟨m, same, alike⟩ := h
  have level (same : observed past = observed past') (alike : e.Alike e') :
      Behind (past' ++ [e']) e'.step past e := (of_alike same.symm alike.symm).step
  cases ended : e'.isOver with
  | true =>
    rw [run_of_isOver ended] at alike
    rw [trail_of_isOver ended, List.append_nil] at same
    exact .inr (level same alike)
  | false =>
    cases m with
    | zero =>
      rw [trail, List.append_nil] at same
      exact .inr (level same alike)
    | succ m =>
      have first : e'.trail (m + 1) = e' :: e'.step.trail m := by simp [trail, ended]
      have now : Execution.run (m + 1) e' = Execution.run m e'.step := by
        simp [Execution.run, ended]
      rw [first] at same
      rw [now] at alike
      refine .inl ⟨m, ?_, alike⟩
      rw [List.append_assoc]
      exact same

/-- Courses that have ended are equally far. -/
theorem level (h : Behind past e past' e') (ended' : e'.isOver = true) :
    observed past = observed past' ∧ e.Alike e' := by
  obtain ⟨m, same, alike⟩ := h
  rw [run_of_isOver ended'] at alike
  rw [trail_of_isOver ended', List.append_nil] at same
  exact ⟨same, alike⟩

/-- Both courses end or neither does. -/
theorem ends (h : Behind past e past' e') :
    (∃ n, (Execution.run n e).isOver = true) ↔ ∃ n, (Execution.run n e').isOver = true := by
  obtain ⟨m, -, alike⟩ := h
  constructor
  · intro ends
    obtain ⟨n, ended⟩ := alike.ends ends
    exact ⟨m + n, by rw [run_add]; exact ended⟩
  · rintro ⟨n, ended⟩
    refine alike.symm.ends ⟨n, ?_⟩
    rw [← run_add, Nat.add_comm, run_add, run_of_isOver ended]
    exact ended

end Behind

namespace Parallel

variable {w w' : World} {past past' : List Execution} {e e' : Execution}

/-- Both are courses. -/
theorem courses (c : Parallel w w' past e past' e') : Course w past e ∧ Course w' past' e' := by
  induction c with
  | start alike => exact ⟨.start _, .start _⟩
  | left c ih => exact ⟨ih.1.step, ih.2⟩
  | right c ih => exact ⟨ih.1, ih.2.step⟩
  | next c ended ended' history history' alike ih =>
    exact ⟨ih.1.next ended history _, ih.2.next ended' history' _⟩

/-- It does not matter which of the courses is the first one. -/
theorem symm (c : Parallel w w' past e past' e') : Parallel w' w past' e' past e := by
  induction c with
  | start alike => exact .start alike.symm
  | left c ih => exact ih.right
  | right c ih => exact ih.left
  | next c ended ended' history history' alike ih =>
    exact ih.next ended' ended history' history alike.symm

/-- The first course can go on by itself. -/
theorem runLeft (c : Parallel w w' past e past' e') (n : Nat) :
    Parallel w w' (past ++ e.trail n) (Execution.run n e) past' e' := by
  induction n generalizing past e with
  | zero => simpa [trail, Execution.run] using c
  | succ n ih =>
    unfold trail Execution.run
    split
    · simpa using c
    · have rest := ih c.left
      rwa [List.append_assoc, List.singleton_append] at rest

/-- So can the second course. -/
theorem runRight (c : Parallel w w' past e past' e') (n : Nat) :
    Parallel w w' past e (past' ++ e'.trail n) (Execution.run n e') :=
  (c.symm.runLeft n).symm

/-- At every moment of parallel courses one of them is behind the other. -/
theorem behind (worlds : w.Alike w') (c : Parallel w w' past e past' e') :
    Behind past e past' e' ∨ Behind past' e' past e := by
  induction c with
  | start alike => exact .inl (.of_alike rfl ⟨worlds, .nil, .running alike⟩)
  | left c ih =>
    rcases ih with behind | ahead
    · exact .inl behind.step
    · exact ahead.catchUp.symm
  | right c ih =>
    rcases ih with behind | ahead
    · exact behind.catchUp
    · exact .inr ahead.step
  | @next past past' e e' c ended ended' history history' p p' alike ih =>
    have level : observed past = observed past' ∧ e.Alike e' := by
      rcases ih with behind | ahead
      · exact behind.level ended'
      · obtain ⟨same, alike⟩ := ahead.level ended
        exact ⟨same.symm, alike.symm⟩
    exact .inl (.of_alike level.1 ⟨{ level.2.world with }, .nil, .running alike⟩)

end Parallel

/-- What two courses have in common that differ only in what is cancelled, and when. -/
structure Unaffected (past : List Execution) (e : Execution) (past' : List Execution)
    (e' : Execution) : Prop where
  /-- One course was observed to do the same as the other, and perhaps more: to draw the same ids,
  to call the same handlers with the same messages, to give the same answers. -/
  together : observed past <+: observed past' ∨ observed past' <+: observed past
  /-- The present programs both end, or neither does. -/
  ends : (∃ n, (Execution.run n e).isOver = true) ↔ ∃ n, (Execution.run n e').isOver = true
  /-- When both have ended, the courses were observed to do exactly the same. -/
  whole : e.isOver = true → e'.isOver = true → observed past = observed past'
  /-- Both have ended by themselves then, or in the same panic. -/
  outcome : e.isOver = true → e'.isOver = true → e.control = e'.control
  /-- They have left the same topics and handlers, attached to each other in the same order under
  the same numbers. -/
  registry : e.isOver = true → e'.isOver = true →
    e.world.broker.registry.map (·.matcher) = e'.world.broker.registry.map (·.matcher)
  /-- The worlds are alike, with the same counts and the same ids to be drawn next. -/
  world : e.isOver = true → e'.isOver = true → e.world.Alike e'.world

/-- Where the second of two courses is behind, they have all of this in common. -/
theorem Behind.common {past past' : List Execution} {e e' : Execution}
    (h : Behind past e past' e') : Unaffected past e past' e' where
  together := by
    obtain ⟨m, same, -⟩ := h
    rw [same, observed_append]
    exact .inr (List.prefix_append _ _)
  ends := h.ends
  whole _ ended' := (h.level ended').1
  outcome ended ended' := (h.level ended').2.control_eq ended
  registry _ ended' := (h.level ended').2.world.registry.map_matcher
  world _ ended' := (h.level ended').2.world

/-- What two courses have in common, they have in common in both directions. -/
theorem Unaffected.symm {past past' : List Execution} {e e' : Execution}
    (h : Unaffected past e past' e') : Unaffected past' e' past e where
  together := h.together.symm
  ends := h.ends.symm
  whole ended ended' := (h.whole ended' ended).symm
  outcome ended ended' := (h.outcome ended' ended).symm
  registry ended ended' := (h.registry ended' ended).symm
  world ended ended' := (h.world ended' ended).symm

/-- Courses of programs that are alike, in worlds that are alike, do the same: whatever is
cancelled, at the top or inside of handlers, earlier or later or not at all, the broker does not act
on it. -/
theorem Parallel.unaffected {w w' : World} {past past' : List Execution} {e e' : Execution}
    (worlds : w.Alike w') (c : Parallel w w' past e past' e') : Unaffected past e past' e' := by
  rcases c.behind worlds with behind | ahead
  · exact behind.common
  · exact ahead.common.symm

/-- A handler that cancels the context that it is given, looks at it, and hands it on. -/
def vain : Handler where
  matcher := .exact "a"
  body call :=
    .perform (.cancel call.context) fun _ => .perform (.viewContext call.context) fun _ =>
      .publish (.plain call.context "b" default) false fun _ => .done

/-- A program that publishes to the handler, cancels the context, and publishes again. -/
def vainly : Program :=
  .perform (.registerTopic "a") fun _ => .perform (.registerTopic "b") fun _ =>
    .subscribe "k" vain.matcher vain.body <| .subscribe "l" (.exact "b") (fun _ => .done) <|
    .publish (.plain (.new 0) "a" default) false fun _ => .perform (.cancel (.new 0)) fun _ =>
    .publish (.plain (.new 0) "a" default) false fun _ => .done

/-- The program does not depend on the switch that it sees. -/
theorem alike_vainly : vainly.Alike vainly := by
  have published {p p' : Publication} (same : p.bare = p'.bare) :
      (Program.publish p false fun _ => .done).Alike (.publish p' false fun _ => .done) :=
    .publish same fun _ _ _ => .done
  refine .perform (.refl _) fun _ _ _ _ _ => .perform (.refl _) fun _ _ _ _ _ => ?_
  refine .subscribe ?_ (.subscribe (fun _ _ _ => .done) ?_)
  · intro c c' same
    have context : c.context.bare = c'.context.bare := congrArg Call.context same
    refine .left rfl fun _ _ => .right rfl fun _ _ => ?_
    refine .perform (.viewContext context) fun _ _ _ _ _ => published ?_
    rw [Publication.bare, Publication.bare, context]
  · refine .publish rfl fun _ _ _ => .perform (.refl _) fun _ _ _ _ _ => published rfl

/-- The contexts of the program are cancelled when the handlers are called, and those of the program
without its cancels are not. Nothing else is different. -/
theorem unaffected_vainly :
    let seen (p : Program) : List Bool :=
      (Execution.run 50 (.start .plain p)).world.history.reverse.filterMap fun
        | .called _ cancelled => some cancelled
        | _ => none
    seen vainly = [false, true, true, true] ∧
      seen vainly.uncancelled = [false, false, false, false] ∧
      Unaffected ((Execution.start .plain vainly).trail 50) (.run 50 (.start .plain vainly))
        ((Execution.start .plain vainly.uncancelled).trail 50)
        (.run 50 (.start .plain vainly.uncancelled)) := by
  have worlds : World.plain.Alike .plain :=
    ⟨rfl, rfl, ⟨.empty, rfl, rfl⟩, rfl, rfl, rfl, rfl, rfl⟩
  have start : Parallel .plain .plain [] (.start .plain vainly) []
      (.start .plain vainly.uncancelled) := .start alike_vainly.uncancelled
  have c := (start.runLeft 50).runRight 50
  rw [List.nil_append, List.nil_append] at c
  exact ⟨by decide +kernel, by decide +kernel, c.unaffected worlds⟩

end TopicBroker
