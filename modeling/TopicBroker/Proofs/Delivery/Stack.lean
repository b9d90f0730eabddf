import TopicBroker.Proofs.Delivery.Course

/-!
# The stack of deliveries

The deliveries under way form a stack. While a program runs, every delivery of the stack is in the
middle of a call: the program is the body of the topmost call, or belongs to the outermost caller
when there is none. A delivery knows its number, and so do the calls that it makes; later
publications have higher numbers. So an act that belongs to a publication is an act of the topmost
delivery.
-/

namespace TopicBroker

/-- The publication that calls, returns or ends in an act. -/
def Act.publication? : Act → Option Nat
  | .call i => some i.publication
  | .returns c => some c.publication
  | .complete n => some n
  | .unwind n _ _ => some n
  | _ => none

/-- What an act adds to the acts of a publication: itself or nothing. -/
def Act.shareOf (n : Nat) (a : Act) : List Act := if a.publication? = some n then [a] else []

namespace Execution

/-- Which deliveries are in the middle of a call. -/
inductive Balanced : List Frame → Control → Prop
  /-- A program runs: all of them. -/
  | running {frames : List Frame} {program : Program}
      (busy : ∀ f ∈ frames, f.current.isSome = true) : Balanced frames (.running program)
  /-- The topmost delivery goes on: all others. -/
  | delivering {f : Frame} {frames : List Frame} (idle : f.current = none)
      (busy : ∀ g ∈ frames, g.current.isSome = true) : Balanced (f :: frames) .delivering
  /-- A panic is under way: all of them. -/
  | unwinding {frames : List Frame} {message : String}
      (busy : ∀ f ∈ frames, f.current.isSome = true) : Balanced frames (.unwinding message)
  /-- The outermost program has ended: there are none. -/
  | finished : Balanced [] .finished
  /-- A panic has left the outermost program: there are none. -/
  | aborted {message : String} : Balanced [] (.aborted message)

/-- Where the topmost delivery is not in the middle of a call, it goes on. -/
theorem Balanced.eq_delivering {f : Frame} {frames : List Frame} {control : Control}
    (h : Balanced (f :: frames) control) (idle : f.current = none) : control = .delivering := by
  have notBusy : ¬ f.current.isSome = true := by simp [idle]
  cases h with
  | running busy => exact absurd (busy f List.mem_cons_self) notBusy
  | delivering => rfl
  | unwinding busy => exact absurd (busy f List.mem_cons_self) notBusy

/-- Where the topmost delivery is in the middle of a call, it does not go on. -/
theorem Balanced.ne_delivering {f : Frame} {frames : List Frame} {control : Control} {c : CallId}
    (h : Balanced (f :: frames) control) (busy : f.current = some c) : control ≠ .delivering := by
  rintro rfl
  cases h with
  | delivering idle => simp [idle] at busy

/-- The stack of deliveries is in order. -/
structure Sound (e : Execution) : Prop where
  /-- The right deliveries are in the middle of a call. -/
  balanced : Balanced e.frames e.control
  /-- The deliveries have numbers that were given out. -/
  numbered : ∀ f ∈ e.frames, f.publication ≤ e.world.publications
  /-- A call that has not returned belongs to its delivery. -/
  calling : ∀ f ∈ e.frames, ∀ c, f.current = some c → c.publication = f.publication

/-- When nothing happens any more, nothing is on the stack. -/
theorem Sound.frames_eq_nil {e : Execution} (h : e.Sound) (ended : e.isOver = true) :
    e.frames = [] := by
  obtain ⟨w, frames, control⟩ := e
  have balanced : Balanced frames control := h.balanced
  cases balanced with
  | finished => rfl
  | aborted => rfl
  | _ => simp [isOver] at ended

/-- At the start of a program there is nothing on the stack. -/
theorem sound_start (w : World) (program : Program) : (start w program).Sound where
  balanced := .running fun _ hf => absurd hf List.not_mem_nil
  numbered _ hf := absurd hf List.not_mem_nil
  calling _ hf := absurd hf List.not_mem_nil

namespace Move

variable {e e' : Execution} {a : Act}

/-- A step keeps the right deliveries in the middle of a call. -/
theorem balanced (m : Move e a e') (h : Balanced e.frames e.control) :
    Balanced e'.frames e'.control := by
  cases m with
  | finish => exact .finished
  | goOn idle =>
    cases h with
    | running busy => simp [idle] at busy
  | returns =>
    cases h with
    | running busy => exact .delivering rfl fun g hg => busy g (List.mem_cons_of_mem _ hg)
  | panic =>
    cases h with
    | running busy => exact .unwinding busy
  | perform =>
    cases h with
    | running busy => exact .running busy
  | subscribe =>
    cases h with
    | running busy => exact .running busy
  | miss =>
    cases h with
    | running busy => exact .running busy
  | publish =>
    cases h with
    | running busy => exact .delivering rfl busy
  | call =>
    cases h with
    | delivering idle busy =>
      refine .running fun g hg => ?_
      rcases List.mem_cons.mp hg with rfl | below
      · rfl
      · exact busy g below
  | complete =>
    cases h with
    | delivering idle busy => exact .running busy
  | catches =>
    cases h with
    | unwinding busy => exact .running fun g hg => busy g (List.mem_cons_of_mem _ hg)
  | unwind =>
    cases h with
    | unwinding busy => exact .unwinding fun g hg => busy g (List.mem_cons_of_mem _ hg)
  | abort => exact .aborted
  | idle => exact .finished
  | stay => exact h

/-- A delivery after a step is new, or it was there before with the same number. What call it is in
the middle of belongs to it, if that was so before. -/
theorem frame_origin (m : Move e a e') {f : Frame} (hf : f ∈ e'.frames) :
    (∃ l, a = .publish l ∧ f = l.frame) ∨ ∃ g ∈ e.frames, f.publication = g.publication ∧
      ∀ c, f.current = some c → g.current = some c ∨ c.publication = f.publication := by
  have same {frames : List Frame} (mem : f ∈ frames) :
      ∃ g ∈ frames, f.publication = g.publication ∧
        ∀ c, f.current = some c → g.current = some c ∨ c.publication = f.publication :=
    ⟨f, mem, rfl, fun _ h => .inl h⟩
  have below {top : Frame} {frames : List Frame} (mem : f ∈ frames) :
      ∃ g ∈ top :: frames, f.publication = g.publication ∧
        ∀ c, f.current = some c → g.current = some c ∨ c.publication = f.publication :=
    same (List.mem_cons_of_mem _ mem)
  cases m with
  | returns =>
    rcases List.mem_cons.mp hf with rfl | mem
    · exact .inr ⟨_, List.mem_cons_self, rfl, by simp⟩
    · exact .inr (below mem)
  | @publish frames l =>
    rcases List.mem_cons.mp hf with rfl | mem
    · exact .inl ⟨l, rfl, rfl⟩
    · exact .inr (same mem)
  | call waiting called =>
    rcases List.mem_cons.mp hf with rfl | mem
    · obtain ⟨rfl, -⟩ := Prod.mk.inj called
      refine .inr ⟨_, List.mem_cons_self, rfl, fun c h => .inr ?_⟩
      cases h
      rfl
    · exact .inr (below mem)
  | complete => exact .inr (below hf)
  | catches => exact .inr (below hf)
  | unwind => exact .inr (below hf)
  | _ => exact .inr (same hf)

/-- A publication that finds its topic does so in the world of the step. -/
theorem lookup_world {l : Lookup} (m : Move e (.publish l) e') : l.world = e.world := by
  cases m
  rfl

/-- Its delivery comes onto the stack. -/
theorem frames_publish {l : Lookup} (m : Move e (.publish l) e') :
    e'.frames = l.frame :: e.frames := by
  cases m
  rfl

/-- Publications are counted up. -/
theorem publications_le (m : Move e a e') : e.world.publications ≤ e'.world.publications := by
  have counted := m.publications
  omega

/-- A step keeps the stack in order. -/
theorem sound (m : Move e a e') (h : e.Sound) : e'.Sound := by
  refine ⟨m.balanced h.balanced, ?_, ?_⟩
  · intro f hf
    have counted := m.publications
    rcases m.frame_origin hf with ⟨l, rfl, rfl⟩ | ⟨g, hg, number, -⟩
    · have here := m.lookup_world
      have one : (Act.publish l).lookup?.toList.length = 1 := rfl
      have number : l.frame.publication = l.world.publications + 1 := rfl
      rw [here] at number
      omega
    · have old := h.numbered g hg
      omega
  · intro f hf c calling
    rcases m.frame_origin hf with ⟨l, rfl, rfl⟩ | ⟨g, hg, number, origin⟩
    · cases calling
    · rcases origin c calling with before | own
      · rw [number]
        exact h.calling g hg c before
      · exact own

/-- The deliveries stand in the order of their publications, the last one on top. -/
theorem descending (m : Move e a e') (h : e.Sound)
    (ordered : e.frames.Pairwise fun f g => g.publication < f.publication) :
    e'.frames.Pairwise fun f g => g.publication < f.publication := by
  have numbered := h.numbered
  cases m with
  | publish => exact List.pairwise_cons.mpr ⟨fun g hg => Nat.lt_succ_of_le (numbered g hg), ordered⟩
  | complete => exact (List.pairwise_cons.mp ordered).2
  | catches => exact (List.pairwise_cons.mp ordered).2
  | unwind => exact (List.pairwise_cons.mp ordered).2
  | returns => exact List.pairwise_cons.mpr (List.pairwise_cons.mp ordered)
  | call => exact List.pairwise_cons.mpr (List.pairwise_cons.mp ordered)
  | _ => exact ordered

/-- An act that belongs to a publication is an act of the topmost delivery. -/
theorem publication_top (m : Move e a e') (h : e.Sound) {n : Nat}
    (belongs : a.publication? = some n) : ∃ f frames, e.frames = f :: frames ∧ f.publication = n := by
  cases m with
  | returns busy =>
    have own := h.calling _ List.mem_cons_self _ busy
    exact ⟨_, _, rfl, by rw [← own]; exact Option.some.inj belongs⟩
  | call waiting called =>
    obtain ⟨rfl, -⟩ := Prod.mk.inj called
    exact ⟨_, _, rfl, Option.some.inj belongs⟩
  | complete => exact ⟨_, _, rfl, Option.some.inj belongs⟩
  | catches => exact ⟨_, _, rfl, Option.some.inj belongs⟩
  | unwind => exact ⟨_, _, rfl, Option.some.inj belongs⟩
  | _ => cases belongs

variable {f : Frame} {frames : List Frame}

/-- What a step does when the topmost delivery is between two calls: it makes the next call or ends
the delivery. -/
theorem of_idle (m : Move e a e') (h : e.Sound) (stack : e.frames = f :: frames)
    (idle : f.current = none) :
    (f.remaining = [] ∧ a = .complete f.publication ∧ e'.frames = frames) ∨
      ∃ b remaining call, f.remaining = b :: remaining ∧ call.id.publication = f.publication ∧
        a = .call ⟨b, call⟩ ∧
        e'.frames = { f with current := some call.id, remaining } :: frames := by
  have goesOn := h.balanced
  rw [stack] at goesOn
  have control := goesOn.eq_delivering idle
  cases m with
  | call waiting called =>
    cases stack
    obtain ⟨rfl, -⟩ := Prod.mk.inj called
    exact .inr ⟨_, _, _, waiting, rfl, rfl, rfl⟩
  | complete done =>
    cases stack
    exact .inl ⟨done, rfl, rfl⟩
  | idle => cases stack
  | stay ended => simp [isOver, control] at ended
  | _ => cases control

/-- What a step does when the topmost delivery is in the middle of a call: the body goes on, and may
start another delivery; or the call returns; or a panic ends the delivery. -/
theorem of_busy (m : Move e a e') (h : e.Sound) (stack : e.frames = f :: frames) {c : CallId}
    (busy : f.current = some c) :
    (a.publication? = none ∧
        (e'.frames = f :: frames ∨ ∃ l, a = .publish l ∧ e'.frames = l.frame :: f :: frames)) ∨
      (a = .returns c ∧ e'.frames = { f with current := none } :: frames) ∨
      ∃ message, a = .unwind f.publication (some c) message ∧ e'.frames = frames := by
  have stays := h.balanced
  rw [stack] at stays
  have control := stays.ne_delivering busy
  cases m with
  | finish => cases stack
  | goOn idle =>
    cases stack
    simp [idle] at busy
  | returns current =>
    cases stack
    rw [current] at busy
    cases busy
    exact .inr (.inl ⟨rfl, rfl⟩)
  | @publish _ l => exact .inl ⟨rfl, .inr ⟨l, rfl, congrArg (l.frame :: ·) stack⟩⟩
  | call => exact absurd rfl control
  | complete => exact absurd rfl control
  | catches =>
    cases stack
    exact .inr (.inr ⟨_, by rw [busy], rfl⟩)
  | unwind =>
    cases stack
    exact .inr (.inr ⟨_, by rw [busy], rfl⟩)
  | abort => cases stack
  | idle => cases stack
  | _ => exact .inl ⟨rfl, .inl stack⟩

end Move

end Execution

/-- The acts of a publication in the past, in order. -/
def record (n : Nat) (past : List Execution) : List Act := past.flatMap fun e => e.act.shareOf n

@[simp] theorem record_nil (n : Nat) : record n [] = [] := rfl

theorem record_append (n : Nat) (past later : List Execution) :
    record n (past ++ later) = record n past ++ record n later :=
  List.flatMap_append

/-- A step adds the share of its act. -/
@[simp] theorem record_singleton (n : Nat) (e : Execution) : record n [e] = e.act.shareOf n := by
  simp [record]

/-- The acts of a publication are those of the past that belong to it. -/
theorem mem_record {n : Nat} {past : List Execution} {a : Act} :
    a ∈ record n past ↔ (∃ e ∈ past, e.act = a) ∧ a.publication? = some n := by
  simp only [record, List.mem_flatMap, Act.shareOf]
  constructor
  · rintro ⟨e, he, mem⟩
    split at mem
    · next belongs =>
      obtain rfl := List.mem_singleton.mp mem
      exact ⟨⟨e, he, rfl⟩, belongs⟩
    · exact absurd mem List.not_mem_nil
  · rintro ⟨⟨e, he, rfl⟩, belongs⟩
    exact ⟨e, he, by rw [if_pos belongs]; exact List.mem_singleton_self _⟩

namespace Course

open Execution

variable {w : World} {past : List Execution} {e : Execution} {f : Frame}

/-- At every moment of a course the stack is in order. -/
theorem sound (c : Course w past e) : e.Sound := by
  induction c with
  | start program => exact sound_start w program
  | @step past e c ih => exact (move e).sound ih
  | next c ended history program ih => exact sound_start _ program

/-- At every moment of a course the deliveries stand in the order of their publications. -/
theorem descending (c : Course w past e) :
    e.frames.Pairwise fun f g => g.publication < f.publication := by
  induction c with
  | start program => exact .nil
  | @step past e c ih => exact (move e).descending c.sound ih
  | next c ended history program ih => exact .nil

/-- Two deliveries under way are different publications. -/
theorem eq_of_publication_eq (c : Course w past e) {g : Frame} (hf : f ∈ e.frames)
    (hg : g ∈ e.frames) (same : f.publication = g.publication) : f = g := by
  have nodup : (e.frames.map (·.publication)).Nodup :=
    List.pairwise_map.mpr (c.descending.imp fun lt => Nat.ne_of_gt lt)
  exact List.inj_on_of_nodup_map nodup hf hg same

/-- Every delivery under way belongs to a publication of the past. -/
theorem exists_publish (c : Course w past e) (hf : f ∈ e.frames) :
    ∃ before x between l, past = before ++ x :: between ∧ x.act = .publish l ∧
      f.publication = l.number := by
  induction c generalizing f with
  | start program => exact absurd hf List.not_mem_nil
  | @step past e c ih =>
    rcases (move e).frame_origin hf with ⟨l, publishes, rfl⟩ | ⟨g, hg, number, -⟩
    · exact ⟨past, e, [], l, rfl, publishes, rfl⟩
    · obtain ⟨before, x, between, l, rfl, publishes, own⟩ := ih hg
      refine ⟨before, x, between ++ [e], l, ?_, publishes, number.trans own⟩
      rw [List.append_assoc, List.cons_append]
  | next c ended history program ih => exact absurd hf List.not_mem_nil

/-- A publication that is still to come has no acts yet. -/
theorem record_eq_nil (c : Course w past e) {n : Nat} (later : e.world.publications < n) :
    record n past = [] := by
  induction c with
  | start program => rfl
  | @step past e c ih =>
    have counted := (move e).publications_le
    have before := ih (Nat.lt_of_le_of_lt counted later)
    rw [record_append, before, record_singleton, List.nil_append, Act.shareOf, if_neg]
    intro belongs
    obtain ⟨f, frames, top, number⟩ := (move e).publication_top c.sound belongs
    have given := c.sound.numbered f (by rw [top]; exact List.mem_cons_self)
    omega
  | next c ended history program ih => exact ih later

end Course

end TopicBroker
