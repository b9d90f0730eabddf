import TopicBroker.Proofs.Delivery.Bystander
import TopicBroker.Proofs.Delivery.Noninterference

/-!
# Executions beside each other

Two executions lie beside each other if their worlds do, and if the same deliveries are under way,
with the same handlers still to be called. Notes and registrations of bystanders are steps of one
execution alone, and nothing of them is observed. All other steps are made in both, and the same is
observed of them.
-/

namespace TopicBroker

open Execution

namespace Execution

/-- Whether the next step writes a note. -/
def notes (e : Execution) : Bool :=
  match e.control with
  | .running (.perform op _) => op.isNote
  | _ => false

/-- Whether the next step registers a handler under a key. -/
def inserts (key : String) (e : Execution) : Bool :=
  match e.control with
  | .running (.subscribe other ..) => other == key
  | _ => false

variable {key : String} {e : Execution}

theorem exists_of_notes (h : e.notes = true) :
    ∃ op next, e.control = .running (.perform op next) ∧ op.isNote = true := by
  unfold notes at h
  split at h
  · next op next eq => exact ⟨op, next, eq, h⟩
  · cases h

theorem exists_of_inserts (h : e.inserts key = true) :
    ∃ matcher body next, e.control = .running (.subscribe key matcher body next) := by
  unfold inserts at h
  split at h
  · next other matcher body next eq => exact ⟨matcher, body, next, eq_of_beq h ▸ eq⟩
  · cases h

/-- A handler is registered under a key exactly if that is the change that is made. -/
theorem inserts_iff :
    e.inserts key = true ↔ ∃ handler, e.act.change? = some (.registerHandler key handler) := by
  obtain ⟨w, frames, control⟩ := e
  constructor
  · intro inserts
    obtain ⟨matcher, body, next, rfl⟩ := exists_of_inserts inserts
    exact ⟨⟨matcher, body⟩, rfl⟩
  · rintro ⟨handler, made⟩
    have m := move ⟨w, frames, control⟩
    generalize act _ = a at made m
    generalize step _ = next at m
    cases m with
    | subscribe =>
      cases made
      exact beq_self_eq_true key
    | @perform _ _ op => cases op <;> cases made
    | _ => cases made

/-- A program that registers a handler goes on. -/
theorem step_of_inserts (inserts : e.inserts key = true) : ∃ matcher body next,
    e.control = .running (.subscribe key matcher body next) ∧
      e.step = { e with
        world := e.world.registerHandler key ⟨matcher, body⟩
        control := .running next } := by
  obtain ⟨w, frames, control⟩ := e
  obtain ⟨matcher, body, next, rfl⟩ := exists_of_inserts inserts
  exact ⟨matcher, body, next, rfl, rfl⟩

/-- Whether a step is made that two executions make together. -/
def isCompared (key : String) (e : Execution) : Bool :=
  !e.isOver && !e.notes && !e.inserts key

end Execution

/-- Only an operation takes a handler out without putting another one in its place. -/
theorem Act.eq_of_deregisterHandler {a : Act} {key : String}
    (h : a.change? = some (.deregisterHandler key)) : a = .perform (.deregisterHandler key) := by
  cases a with
  | perform op =>
    cases op <;> cases h
    rfl
  | _ => cases h

/-- What is observed of an act in a world besides the handler of a key. The numbers of registrations
are left out. -/
def Act.sighting? (key : String) (w : World) : Act → Option Observation
  | .rest => none
  | .perform op =>
    if op.isNote then none else some (.answered op (op.besides key (w.perform op).2))
  | .subscribe other handler =>
    if other = key then none else some (.subscribed other handler.matcher)
  | .miss topic => some (.missed topic)
  | .publish l => some (.published l.number l.parcel (l.attachments.map fun a => (a.key, 0)))
  | .call i => some (.called i.call.unnumbered)
  | .returns c => some (.returned c.unnumbered)
  | .complete n => some (.completed n)
  | .unwind n c message => some (.dropped n (c.map (·.unnumbered)) message)

/-- What is observed of the next step besides the handler of a key. -/
def Execution.sighting? (key : String) (e : Execution) : Option Observation :=
  e.act.sighting? key e.world

/-- What was observed in the past besides the handler of a key, in order. -/
def sightings (key : String) (past : List Execution) : List Observation :=
  past.filterMap (·.sighting? key)

theorem sightings_cons (key : String) (e : Execution) (past : List Execution) :
    sightings key (e :: past) = (e.sighting? key).toList ++ sightings key past := by
  unfold sightings
  cases h : e.sighting? key <;> simp [h]

theorem sightings_append (key : String) (past later : List Execution) :
    sightings key (past ++ later) = sightings key past ++ sightings key later :=
  List.filterMap_append

theorem sightings_concat (key : String) (past : List Execution) (e : Execution) :
    sightings key (past ++ [e]) = sightings key past ++ (e.sighting? key).toList := by
  rw [sightings_append, sightings_cons]
  exact congrArg _ (List.append_nil _)

section

variable {key : String} {f : Nat → Nat} {pairs : Registry (PaddedHandler key)}

/-- Deliveries that are the same but for handlers, which are padded, and for their numbers. -/
structure Frame.Beside (key : String) (f : Nat → Nat) (last : Nat) (d d' : Frame) : Prop where
  /-- They belong to the same publication. -/
  publication : d.publication = d'.publication
  /-- The handlers are given the same. -/
  parcel : d.parcel = d'.parcel
  /-- They are in the middle of the same call. -/
  current : d.current.map (·.unnumbered) = d'.current.map (·.unnumbered)
  /-- The same handlers are still to be called, under their other numbers. -/
  remaining : ∃ list : List (Attachment (PaddedHandler key)),
    list.map (·.map (·.plain)) = d.remaining ∧
      list.map (fun a => (a.renumber f).map (·.padded)) = d'.remaining ∧ ∀ a ∈ list, a.seq ≤ last
  /-- A panic ends at both or at neither. -/
  guarded : d.guarded = d'.guarded
  /-- The publishers go on the same but for bystanders. -/
  resume : ∀ a, (d.resume a).Padded key (d'.resume a)

namespace Frame.Beside

variable {last : Nat} {d d' : Frame}

/-- More numbers may be given out while a delivery is under way. -/
theorem of_le (h : d.Beside key f last d') {later : Nat} (le : last ≤ later) :
    d.Beside key f later d' := by
  obtain ⟨list, left, right, given⟩ := h.remaining
  exact { h with remaining := ⟨list, left, right, fun a ha => Nat.le_trans (given a ha) le⟩ }

/-- A number may be left out while a delivery is under way. -/
theorem skip (h : d.Beside key f last d') : d.Beside key (skipAfter last f) last d' := by
  obtain ⟨list, left, right, given⟩ := h.remaining
  refine { h with remaining := ⟨list, left, ?_, given⟩ }
  rw [← right]
  refine List.map_congr_left fun a ha => ?_
  rw [Attachment.renumber, skipAfter_of_le (given a ha), Attachment.renumber]

end Frame.Beside

/-- What happens next in executions beside each other. -/
inductive Control.Beside (key : String) : Control → Control → Prop
  /-- Programs go on, of which the second one is padded. -/
  | running {p p' : Program} (padded : p.Padded key p') : Beside key (.running p) (.running p')
  /-- The topmost deliveries go on. -/
  | delivering : Beside key .delivering .delivering
  /-- The same panic is under way. -/
  | unwinding (message : String) : Beside key (.unwinding message) (.unwinding message)
  /-- Both have ended. -/
  | finished : Beside key .finished .finished
  /-- The same panic has left both. -/
  | aborted (message : String) : Beside key (.aborted message) (.aborted message)

theorem Control.Beside.of_left {p : Program} {c' : Control}
    (h : Control.Beside key (.running p) c') : ∃ p', c' = .running p' ∧ p.Padded key p' := by
  cases h with
  | running padded => exact ⟨_, rfl, padded⟩

theorem Control.Beside.of_right {c : Control} {p' : Program}
    (h : Control.Beside key c (.running p')) : ∃ p, c = .running p ∧ p.Padded key p' := by
  cases h with
  | running padded => exact ⟨_, rfl, padded⟩

/-- Executions that are the same but for the handler of a key, which only the second one may have,
and for the numbers of registrations. -/
def Execution.Beside (key : String) (e e' : Execution) : Prop :=
  ∃ f pairs, World.Beside key f pairs e.world e'.world ∧
    List.Forall₂ (Frame.Beside key f pairs.lastSeq) e.frames e'.frames ∧
    Control.Beside key e.control e'.control

/-- Whether executions are seen to do the same next, and lie beside each other after that. -/
def Execution.Follows (key : String) (e e' : Execution) : Prop :=
  e.sighting? key = e'.sighting? key ∧ e.step.Beside key e'.step

namespace Execution

variable {w w' : World} {frames frames' : List Frame}

/-- Where programs end, the same call returns, or the deliveries go on. -/
theorem follows_done (world : w.Beside key f pairs w')
    (stack : List.Forall₂ (Frame.Beside key f pairs.lastSeq) frames frames') :
    Follows key ⟨w, frames, .running .done⟩ ⟨w', frames', .running .done⟩ := by
  cases stack with
  | nil => exact ⟨rfl, f, pairs, world, .nil, .finished⟩
  | @cons d d' below below' beside stack =>
    obtain ⟨publication, parcel, current, remaining, guarded, resume⟩ := d
    obtain ⟨publication', parcel', current', remaining', guarded', resume'⟩ := d'
    have same : current.map (·.unnumbered) = current'.map (·.unnumbered) := beside.current
    cases current with
    | none =>
      cases current' with
      | none => exact ⟨rfl, f, pairs, world, .cons beside stack, .delivering⟩
      | some call' => cases same
    | some call =>
      cases current' with
      | none => cases same
      | some call' =>
        refine ⟨congrArg (some ∘ Observation.returned) (Option.some.inj same), f, pairs,
          (world.count _).withHistory _ _, ?_, .delivering⟩
        exact .cons { beside with current := rfl } stack

/-- The same publication goes to the same handlers, under their other numbers. -/
theorem follows_publish {p : Publication} {guarded : Bool} {next next' : Answer → Program}
    (goesOn : ∀ a, (next a).Padded key (next' a)) (world : w.Beside key f pairs w')
    (stack : List.Forall₂ (Frame.Beside key f pairs.lastSeq) frames frames') :
    Follows key ⟨w, frames, .running (.publish p guarded next)⟩
      ⟨w', frames', .running (.publish p guarded next')⟩ := by
  have left := world.snapshot_left p.topic
  have right := world.snapshot_right p.topic
  cases found : pairs.snapshot p.topic with
  | none =>
    rw [found, Option.map_none] at left right
    refine ⟨?_, f, pairs, ?_⟩
    · rw [sighting?, sighting?, act_of_miss rfl left, act_of_miss rfl right]
      rfl
    · simp only [step, stepPublish, left, right]
      exact ⟨(world.count _).withHistory _ _, stack, .running (goesOn _)⟩
  | some list =>
    rw [found, Option.map_some] at left right
    have given (a : Attachment (PaddedHandler key)) (ha : a ∈ list) : a.seq ≤ pairs.lastSeq :=
      world.coherent.bounded (world.coherent.current found a ha)
    obtain ⟨parcel, worlds⟩ := world.publish p (list.map (·.map (·.plain))).length
      (list.map fun a => (a.renumber f).map (·.padded)).length
    refine ⟨?_, f, pairs, ?_⟩
    · have keys : ((list.map (·.map (·.plain))).map fun a => (a.key, 0)) =
          (list.map fun a => (a.renumber f).map (·.padded)).map fun a => (a.key, 0) := by
        rw [List.map_map, List.map_map]
        rfl
      have number : w.publications + 1 = w'.publications + 1 := by rw [world.publications]
      have drawn : (World.parcel w.broker.ids p).1 = (World.parcel w'.broker.ids p).1 := parcel
      rw [sighting?, sighting?, act_of_publish rfl left, act_of_publish rfl right]
      simp only [Act.sighting?, Lookup.number, Lookup.parcel, number, keys, drawn]
    · simp only [step, stepPublish, left, right]
      exact ⟨worlds, .cons ⟨worlds.publications, parcel, rfl, ⟨list, rfl, rfl, given⟩, rfl, goesOn⟩
        stack, .delivering⟩

/-- Where a delivery goes on, the same handler is called, or the publication ends. -/
theorem follows_delivering (world : w.Beside key f pairs w')
    (stack : List.Forall₂ (Frame.Beside key f pairs.lastSeq) frames frames') :
    Follows key ⟨w, frames, .delivering⟩ ⟨w', frames', .delivering⟩ := by
  cases stack with
  | nil => exact ⟨rfl, f, pairs, world, .nil, .finished⟩
  | @cons d d' below below' beside stack =>
    obtain ⟨publication, parcel, current, remaining, guarded, resume⟩ := d
    obtain ⟨publication', parcel', current', remaining', guarded', resume'⟩ := d'
    obtain rfl : publication = publication' := beside.publication
    obtain rfl : parcel = parcel' := beside.parcel
    obtain ⟨list, left, right, given⟩ := beside.remaining
    cases list with
    | nil =>
      obtain rfl : [] = remaining := left
      obtain rfl : [] = remaining' := right
      exact ⟨rfl, f, pairs, world, stack, .running (beside.resume _)⟩
    | cons a list =>
      obtain rfl : a.map (·.plain) :: list.map (·.map (·.plain)) = remaining := left
      obtain rfl : (a.renumber f).map (·.padded) ::
        list.map (fun a => (a.renumber f).map (·.padded)) = remaining' := right
      have depth : below'.length + 1 = below.length + 1 := by rw [stack.length_eq]
      obtain ⟨call, worlds⟩ := world.called a (given a List.mem_cons_self) parcel publication
        (below.length + 1)
      refine ⟨?_, f, pairs, ?_⟩
      · simp only [sighting?, act, Act.sighting?, depth]
        exact congrArg (some ∘ Observation.called) call
      · simp only [step, stepDeliver, depth]
        exact ⟨worlds, .cons { beside with
          current := congrArg (fun c : Call => some c.id) call
          remaining := ⟨list, rfl, rfl, fun b hb => given b (List.mem_cons_of_mem _ hb)⟩ } stack,
          .running (a.handler.bodies _ _ call)⟩

/-- Where the same panic is under way, the same deliveries are dropped. -/
theorem follows_unwinding (message : String) (world : w.Beside key f pairs w')
    (stack : List.Forall₂ (Frame.Beside key f pairs.lastSeq) frames frames') :
    Follows key ⟨w, frames, .unwinding message⟩ ⟨w', frames', .unwinding message⟩ := by
  cases stack with
  | nil => exact ⟨rfl, f, pairs, world, .nil, .aborted message⟩
  | @cons d d' below below' beside stack =>
    obtain ⟨publication, parcel, current, remaining, guarded, resume⟩ := d
    obtain ⟨publication', parcel', current', remaining', guarded', resume'⟩ := d'
    obtain rfl : publication = publication' := beside.publication
    obtain rfl : guarded = guarded' := beside.guarded
    have seen : Option.some (Observation.dropped publication (current.map (·.unnumbered)) message) =
        some (.dropped publication (current'.map (·.unnumbered)) message) := by
      rw [beside.current]
    cases guarded with
    | true => exact ⟨seen, f, pairs, world, stack, .running (beside.resume _)⟩
    | false => exact ⟨seen, f, pairs, world, stack, .unwinding message⟩

/-- Whether the handlers of a key, the one that is registered and one that is registered now, accept
no topic that is registered, nor one that is registered now. -/
structure Silent (key : String) (e : Execution) : Prop where
  /-- The handler that is registered accepts no topic that is. -/
  ignored : e.world.Ignored key
  /-- It accepts no topic that is registered now. -/
  topic : ∀ topic, e.act.change? = some (.registerTopic topic) →
    e.world.broker.registry.Rejects e.world.accepts key topic
  /-- A handler that is registered now accepts no topic that is registered. -/
  handler : ∀ handler, e.act.change? = some (.registerHandler key handler) →
    ∀ topic, e.world.broker.registry.hasTopic topic = true →
      e.world.accepts handler topic = false

namespace Beside

variable {e e' : Execution}

/-- Executions beside each other follow each other, unless one of them writes a note or the second one
registers a handler under the key. -/
theorem follows (h : e.Beside key e') (silent : e'.Silent key) (left : e.notes = false)
    (right : e'.notes = false) (waits : e'.inserts key = false) : Follows key e e' := by
  obtain ⟨w, frames, control⟩ := e
  obtain ⟨w', frames', control'⟩ := e'
  obtain ⟨f, pairs, world, stack, next⟩ := h
  cases next with
  | delivering => exact follows_delivering world stack
  | unwinding message => exact follows_unwinding message world stack
  | finished => exact ⟨rfl, f, pairs, world, stack, .finished⟩
  | aborted message => exact ⟨rfl, f, pairs, world, stack, .aborted message⟩
  | running padded =>
    cases padded with
    | done => exact follows_done world stack
    | panic message => exact ⟨rfl, f, pairs, world, stack, .unwinding message⟩
    | publish goesOn => exact follows_publish goesOn world stack
    | @perform op next next' compared other goesOn =>
      have answers := world.answer_eq other fun _ => silent.ignored
      obtain ⟨pairs', later, worlds⟩ := world.perform other fun topic same =>
        silent.topic topic (by cases same; rfl)
      refine ⟨?_, f, pairs', worlds, stack.imp fun _ _ beside => beside.of_le later,
        .running (goesOn _ _ answers)⟩
      simp only [sighting?, act, Act.sighting?, answers]
    | @subscribe other matcher body body' next next' ne bodies goesOn =>
      obtain ⟨pairs', later, worlds⟩ := world.registerHandler ne
        ⟨⟨matcher, body⟩, ⟨matcher, body'⟩, rfl, bodies⟩
      refine ⟨?_, f, pairs', worlds, stack.imp fun _ _ beside => beside.of_le later,
        .running goesOn⟩
      simp only [sighting?, act, Act.sighting?]
    | insert => simp [inserts] at waits
    | noteLeft => cases left
    | noteRight => cases right

/-- A note of the first execution is not observed. -/
theorem noteLeft (h : e.Beside key e') (notes : e.notes = true) :
    e.sighting? key = none ∧ e.step.Beside key e' := by
  obtain ⟨w, frames, control⟩ := e
  obtain ⟨op, next, rfl, isNote⟩ := exists_of_notes notes
  obtain ⟨f, pairs, world, stack, control⟩ := h
  obtain ⟨p', same, padded⟩ := control.of_left
  have goesOn : (next (w.perform op).2).Padded key p' := by
    rw [w.snd_perform_note isNote]
    exact padded.of_noteLeft isNote
  refine ⟨if_pos isNote, f, pairs, world.noteLeft isNote, stack, ?_⟩
  rw [same]
  exact .running goesOn

/-- Nor is a note of the second execution. -/
theorem noteRight (h : e.Beside key e') (notes : e'.notes = true) :
    e'.sighting? key = none ∧ e.Beside key e'.step := by
  obtain ⟨w', frames', control'⟩ := e'
  obtain ⟨op, next, rfl, isNote⟩ := exists_of_notes notes
  obtain ⟨f, pairs, world, stack, control⟩ := h
  obtain ⟨p, same, padded⟩ := control.of_right
  have goesOn : p.Padded key (next (w'.perform op).2) := by
    rw [w'.snd_perform_note isNote]
    exact padded.of_noteRight isNote
  refine ⟨if_pos isNote, f, pairs, world.noteRight isNote, stack, ?_⟩
  rw [same]
  exact .running goesOn

/-- Nor is a handler that is registered under the key and accepts no topic. -/
theorem insert (h : e.Beside key e') (silent : e'.Silent key) (inserts : e'.inserts key = true) :
    e'.sighting? key = none ∧ e.Beside key e'.step := by
  obtain ⟨w', frames', control'⟩ := e'
  obtain ⟨matcher, body, next, rfl⟩ := exists_of_inserts inserts
  obtain ⟨f, pairs, world, stack, control⟩ := h
  obtain ⟨p, same, padded⟩ := control.of_right
  refine ⟨if_pos rfl, _, pairs, world.insert (silent.handler ⟨matcher, body⟩ rfl),
    stack.imp fun _ _ beside => beside.skip, ?_⟩
  rw [same]
  exact .running padded.of_insert

/-- The second execution does not take the handler of the key out. -/
theorem act_ne (h : e.Beside key e') : e'.act ≠ .perform (.deregisterHandler key) := by
  obtain ⟨w', frames', control'⟩ := e'
  obtain ⟨f, pairs, -, -, control⟩ := h
  intro takesOut
  have m := move ⟨w', frames', control'⟩
  rw [takesOut] at m
  generalize step _ = next at m
  cases m
  obtain ⟨p, -, padded⟩ := control.of_right
  exact padded.ne_deregisterHandler _ rfl

/-- Executions beside each other end together. -/
theorem isOver_eq (h : e.Beside key e') : e.isOver = e'.isOver := by
  obtain ⟨w, frames, control⟩ := e
  obtain ⟨w', frames', control'⟩ := e'
  obtain ⟨f, pairs, -, -, next⟩ := h
  cases next <;> rfl

/-- They have ended in the same way. -/
theorem control_eq (h : e.Beside key e') (ended : e.isOver = true) : e.control = e'.control := by
  obtain ⟨w, frames, control⟩ := e
  obtain ⟨w', frames', control'⟩ := e'
  obtain ⟨f, pairs, -, -, next⟩ := h
  cases next with
  | finished => rfl
  | aborted message => rfl
  | _ => cases ended

/-- Their worlds lie beside each other. -/
theorem worlds (h : e.Beside key e') : ∃ f pairs, e.world.Beside key f pairs e'.world := by
  obtain ⟨f, pairs, world, -, -⟩ := h
  exact ⟨f, pairs, world⟩

/-- One of two executions beside each other makes a step that is not observed, or both make one that
is observed the same. -/
theorem advance (h : e.Beside key e') (silent : e'.Silent key) :
    e.sighting? key = none ∧ e.step.Beside key e' ∨
      e'.sighting? key = none ∧ e.Beside key e'.step ∨ Follows key e e' := by
  cases left : e.notes with
  | true => exact .inl (h.noteLeft left)
  | false =>
    cases right : e'.notes with
    | true => exact .inr (.inl (h.noteRight right))
    | false =>
      cases waits : e'.inserts key with
      | true => exact .inr (.inl (h.insert silent waits))
      | false => exact .inr (.inr (h.follows silent left right waits))

/-- Where one of two executions beside each other is over, both are. -/
theorem of_isOver (h : e.Beside key e') (stopped : e.isOver = true) (m n : Nat) :
    sightings key (e.trail m) = sightings key (e'.trail n) ∧ (run m e).Beside key (run n e') := by
  have stopped' : e'.isOver = true := h.isOver_eq ▸ stopped
  rw [trail_of_isOver stopped, trail_of_isOver stopped', run_of_isOver stopped,
    run_of_isOver stopped']
  exact ⟨rfl, h⟩

end Beside

end Execution

end

end TopicBroker
