import TopicBroker.Proofs.Delivery.Stack

/-!
# The calls of a publication

A publication calls the handlers that were attached to its topic when it found it, one after the
other and in their order; every call returns before the next one is made. When all have returned,
the publication ends. When a call panics, the publication ends without calling the others. Nothing
that the handlers do in the meantime has any influence on this, and the deliveries below on the
stack stay as they are.
-/

namespace TopicBroker

namespace Invocation

/-- A call that returns. -/
def round (i : Invocation) : List Act := [.call i, .returns i.call.id]

/-- Whether a call is made for a publication, to the handler of its own attachment. -/
structure Serves (i : Invocation) (l : Lookup) : Prop where
  /-- The call is one of the publication. -/
  publication : i.publication = l.number
  /-- It names the key of the attachment. -/
  key : i.call.id.key = i.attachment.key
  /-- It names the registration of the attachment. -/
  seq : i.call.id.seq = i.attachment.seq
  /-- The handler is given the context of the publication. -/
  context : i.call.context = l.parcel.context
  /-- The handler is given the message of the publication. -/
  message : i.call.message = l.parcel.message

end Invocation

namespace Lookup

/-- How far a publication has come: its acts so far, and the stack. -/
inductive Delivery (l : Lookup) (below : List Frame) : List Act → List Frame → Prop
  /-- Between two calls its delivery is the topmost one. -/
  | between (calls : List Invocation) {remaining : List (Attachment Handler)}
      (called : calls.map (·.attachment) ++ remaining = l.attachments) :
    Delivery l below (calls.flatMap (·.round)) ({ l.frame with remaining } :: below)
  /-- In the middle of a call there may be later deliveries above it. -/
  | inside {calls : List Invocation} {last : Invocation} {remaining : List (Attachment Handler)}
      (above : List Frame) (later : ∀ g ∈ above, l.number < g.publication)
      (called : (calls ++ [last]).map (·.attachment) ++ remaining = l.attachments) :
    Delivery l below (calls.flatMap (·.round) ++ [.call last])
      (above ++ { l.frame with current := some last.call.id, remaining } :: below)
  /-- When all handlers have been called, the delivery is gone. -/
  | completed {calls : List Invocation} {frames : List Frame}
      (gone : ∀ g ∈ frames, g.publication ≠ l.number)
      (called : calls.map (·.attachment) = l.attachments) :
    Delivery l below (calls.flatMap (·.round) ++ [.complete l.number]) frames
  /-- When a call has panicked, the delivery is gone. -/
  | unwound {calls : List Invocation} {last : Invocation} {message : String} {frames : List Frame}
      (gone : ∀ g ∈ frames, g.publication ≠ l.number)
      (called : (calls ++ [last]).map (·.attachment) <+: l.attachments) :
    Delivery l below
      (calls.flatMap (·.round) ++ [.call last, .unwind l.number (some last.call.id) message]) frames

end Lookup

open Execution

namespace Execution.Move

variable {e e' : Execution} {a : Act} {n : Nat}

/-- Where another delivery is the topmost one, no act belongs to a publication. -/
theorem publication?_ne_of_top (m : Move e a e') (sound : e.Sound)
    (other : ∀ f frames, e.frames = f :: frames → f.publication ≠ n) : a.publication? ≠ some n := by
  intro belongs
  obtain ⟨f, frames, top, number⟩ := m.publication_top sound belongs
  exact other f frames top number

/-- No act belongs to a publication whose delivery is gone. -/
theorem shareOf_eq_nil_of_gone (m : Move e a e') (sound : e.Sound)
    (gone : ∀ g ∈ e.frames, g.publication ≠ n) : a.shareOf n = [] := by
  refine if_neg (m.publication?_ne_of_top sound fun f frames top => ?_)
  exact gone f (by rw [top]; exact List.mem_cons_self)

/-- A delivery that is gone does not come back. -/
theorem publication_ne_of_gone (m : Move e a e') (known : n ≤ e.world.publications)
    (gone : ∀ g ∈ e.frames, g.publication ≠ n) : ∀ g ∈ e'.frames, g.publication ≠ n := by
  intro g hg
  rcases m.frame_origin hg with ⟨l, rfl, rfl⟩ | ⟨f, hf, number, -⟩
  · have here := m.lookup_world
    have number : l.frame.publication = l.world.publications + 1 := rfl
    rw [here] at number
    omega
  · rw [number]
    exact gone f hf

/-- While later deliveries are above a delivery, a step leaves it as it is. -/
theorem frames_of_later_above (m : Move e a e') {g : Frame} {above rest : List Frame}
    (stack : e.frames = g :: above ++ rest) (known : n ≤ e.world.publications)
    (later : ∀ f ∈ g :: above, n < f.publication) :
    ∃ above', e'.frames = above' ++ rest ∧ ∀ f ∈ above', n < f.publication := by
  have first : n < g.publication := later g List.mem_cons_self
  have others : ∀ f ∈ above, n < f.publication := fun f hf => later f (List.mem_cons_of_mem _ hf)
  have topped {f : Frame} (same : f.publication = g.publication) :
      ∀ h ∈ f :: above, n < h.publication := by
    intro h hh
    rcases List.mem_cons.mp hh with rfl | mem
    · rw [same]
      exact first
    · exact others h mem
  cases m with
  | finish => cases stack
  | returns =>
    cases stack
    exact ⟨_ :: above, rfl, topped rfl⟩
  | @publish frames l =>
    refine ⟨l.frame :: g :: above, congrArg (l.frame :: ·) stack, fun f hf => ?_⟩
    rcases List.mem_cons.mp hf with rfl | mem
    · exact Nat.lt_succ_of_le known
    · exact later f mem
  | call =>
    cases stack
    exact ⟨_ :: above, rfl, topped rfl⟩
  | complete =>
    cases stack
    exact ⟨above, rfl, others⟩
  | catches =>
    cases stack
    exact ⟨above, rfl, others⟩
  | unwind =>
    cases stack
    exact ⟨above, rfl, others⟩
  | _ => exact ⟨g :: above, stack, later⟩

end Execution.Move

namespace Lookup.Delivery

variable {l : Lookup} {below frames : List Frame} {acts : List Act} {e e' : Execution} {a : Act}

/-- Where a frame of the publication is the topmost one, it is the delivery that began, as far as it
has come. -/
theorem own_top {f : Frame} (h : l.Delivery below acts (f :: frames))
    (own : f.publication = l.number) :
    frames = below ∧ ∃ current remaining, f = { l.frame with current, remaining } := by
  generalize eq : f :: frames = stack at h
  cases h with
  | between =>
    cases eq
    exact ⟨rfl, _, _, rfl⟩
  | inside above later =>
    cases above with
    | nil =>
      cases eq
      exact ⟨rfl, _, _, rfl⟩
    | cons g above =>
      cases eq
      have higher := later f List.mem_cons_self
      omega
  | completed gone => exact absurd own (gone f (eq ▸ List.mem_cons_self))
  | unwound gone => exact absurd own (gone f (eq ▸ List.mem_cons_self))

/-- A publication makes its calls to the handlers of their attachments, with its context and its
message. -/
theorem serves {i : Invocation} (h : l.Delivery below acts e.frames) (m : Move e (.call i) e')
    (own : i.publication = l.number) : i.Serves l := by
  cases m with
  | @call w f frames a remaining call w' waiting called =>
    obtain ⟨rfl, -⟩ := Prod.mk.inj called
    obtain ⟨-, current, remaining, rfl⟩ := h.own_top own
    exact ⟨own, rfl, rfl, rfl, rfl⟩

/-- The calls of a publication so far go to the first ones of the attached handlers, in their order.
-/
theorem calls_prefix (h : l.Delivery below acts frames) :
    ∃ calls : List Invocation, calls.map (·.attachment) <+: l.attachments ∧
      ∀ i, .call i ∈ acts ↔ i ∈ calls := by
  cases h with
  | @between calls remaining called =>
    exact ⟨calls, ⟨remaining, called⟩, fun i => by simp [Invocation.round]⟩
  | @inside calls last remaining above later called =>
    exact ⟨calls ++ [last], ⟨remaining, called⟩, fun i => by simp [Invocation.round]⟩
  | @completed calls frames gone called =>
    exact ⟨calls, called ▸ List.prefix_rfl, fun i => by simp [Invocation.round]⟩
  | @unwound calls last message frames gone called =>
    exact ⟨calls ++ [last], called, fun i => by simp [Invocation.round]⟩

/-- A publication calls only what is attached to its topic. -/
theorem mem_attachments {i : Invocation} (h : l.Delivery below acts frames)
    (made : .call i ∈ acts) : i.attachment ∈ l.attachments := by
  obtain ⟨calls, first, same⟩ := h.calls_prefix
  exact first.subset (List.mem_map_of_mem ((same i).mp made))

/-- Between two calls a step makes the next one or completes the publication. -/
theorem step_between {calls : List Invocation} {remaining : List (Attachment Handler)}
    (called : calls.map (·.attachment) ++ remaining = l.attachments) (m : Move e a e')
    (sound : e.Sound) (stack : e.frames = { l.frame with remaining } :: below)
    (under : ∀ g ∈ below, g.publication < l.number) :
    l.Delivery below (calls.flatMap (·.round) ++ a.shareOf l.number) e'.frames := by
  rcases m.of_idle sound stack rfl with ⟨done, rfl, frames⟩ | ⟨b, rest, call, waiting, number, act⟩
  · have all : calls.map (·.attachment) = l.attachments := by
      have none : remaining = [] := done
      rw [← called, none, List.append_nil]
    have share : (Act.complete l.frame.publication).shareOf l.number = [.complete l.number] :=
      if_pos rfl
    rw [share, frames]
    exact .completed (fun g hg => Nat.ne_of_lt (under g hg)) all
  · obtain ⟨rfl, frames⟩ := act
    have share : (Act.call ⟨b, call⟩).shareOf l.number = [.call ⟨b, call⟩] :=
      if_pos (congrArg some number)
    rw [share, frames]
    refine Delivery.inside [] (fun g hg => absurd hg List.not_mem_nil) ?_
    have waiting' : remaining = b :: rest := waiting
    rw [← called, waiting', List.map_append, List.append_assoc]
    rfl

/-- In the middle of a call a step leaves the publication as it is, returns from the call, or drops
the publication in a panic. -/
theorem step_inside {calls : List Invocation} {last : Invocation}
    {remaining : List (Attachment Handler)}
    (called : (calls ++ [last]).map (·.attachment) ++ remaining = l.attachments) (m : Move e a e')
    (sound : e.Sound) (known : l.number ≤ e.world.publications)
    (stack : e.frames = { l.frame with current := some last.call.id, remaining } :: below)
    (under : ∀ g ∈ below, g.publication < l.number) :
    l.Delivery below (calls.flatMap (·.round) ++ [.call last] ++ a.shareOf l.number) e'.frames := by
  have own : last.call.id.publication = l.number :=
    sound.calling _ (stack ▸ List.mem_cons_self) _ rfl
  rcases m.of_busy sound stack rfl with ⟨foreign, frames⟩ | ⟨rfl, frames⟩ | ⟨message, rfl, frames⟩
  · have share : a.shareOf l.number = [] := if_neg (by simp [foreign])
    rw [share, List.append_nil]
    rcases frames with frames | ⟨l', rfl, frames⟩
    · rw [frames]
      exact Delivery.inside [] (fun g hg => absurd hg List.not_mem_nil) called
    · have here := m.lookup_world
      rw [frames]
      refine Delivery.inside [l'.frame] (fun g hg => ?_) called
      obtain rfl := List.mem_singleton.mp hg
      have number : l'.frame.publication = l'.world.publications + 1 := rfl
      rw [here] at number
      omega
  · have share : (Act.returns last.call.id).shareOf l.number = [.returns last.call.id] :=
      if_pos (congrArg some own)
    have rounds : calls.flatMap (·.round) ++ [.call last] ++ [.returns last.call.id] =
        (calls ++ [last]).flatMap (·.round) := by
      simp [Invocation.round]
    rw [share, rounds, frames]
    exact .between _ called
  · have share : (Act.unwind l.frame.publication (some last.call.id) message).shareOf l.number =
        [.unwind l.number (some last.call.id) message] := if_pos rfl
    rw [share, List.append_assoc, frames]
    exact .unwound (fun g hg => Nat.ne_of_lt (under g hg)) ⟨remaining, called⟩

/-- When a publication is complete, its publisher goes on, and only its own delivery is gone. -/
theorem completes (h : l.Delivery below acts e.frames) (m : Move e (.complete l.number) e') :
    e'.frames = below ∧ e'.control = .running (l.resume .delivered) := by
  generalize number : l.number = n at m
  cases m with
  | complete done =>
    obtain ⟨frames, current, remaining, rfl⟩ := h.own_top number.symm
    exact ⟨frames, rfl⟩

/-- When a panic drops a publication, it ends at the publisher if that is guarded, and goes on
otherwise. Only the own delivery of the publication is gone. -/
theorem panics (h : l.Delivery below acts e.frames) {call : Option CallId} {message : String}
    (m : Move e (.unwind l.number call message) e') :
    e.control = .unwinding message ∧ e'.frames = below ∧
      e'.control =
        if l.guarded then .running (l.resume (.panicked message)) else .unwinding message := by
  generalize number : l.number = n at m
  cases m with
  | catches guarded =>
    obtain ⟨frames, current, remaining, rfl⟩ := h.own_top number.symm
    have guarded' : l.guarded = true := guarded
    exact ⟨rfl, frames, by rw [if_pos guarded']; rfl⟩
  | unwind unguarded =>
    obtain ⟨frames, current, remaining, rfl⟩ := h.own_top number.symm
    have unguarded' : l.guarded = false := unguarded
    exact ⟨rfl, frames, by rw [unguarded']; rfl⟩

/-- A step takes a publication as far as its own acts say. -/
theorem step (h : l.Delivery below acts e.frames) (m : Move e a e') (sound : e.Sound)
    (known : l.number ≤ e.world.publications) (under : ∀ g ∈ below, g.publication < l.number) :
    l.Delivery below (acts ++ a.shareOf l.number) e'.frames := by
  generalize stack : e.frames = frames at h
  cases h with
  | between _ called => exact step_between called m sound stack under
  | inside above later called =>
    cases above with
    | nil => exact step_inside called m sound known stack under
    | cons g above =>
      -- the step is one of a later delivery, so it has no share in this publication
      have share : a.shareOf l.number = [] := by
        refine if_neg (m.publication?_ne_of_top sound fun f frames top => ?_)
        rw [stack] at top
        cases top
        exact Nat.ne_of_gt (later g List.mem_cons_self)
      obtain ⟨above', frames, later'⟩ := m.frames_of_later_above stack known later
      rw [share, List.append_nil, frames]
      exact .inside above' later' called
  | completed gone called =>
    rw [m.shareOf_eq_nil_of_gone sound (stack ▸ gone), List.append_nil]
    exact .completed (m.publication_ne_of_gone known (stack ▸ gone)) called
  | unwound gone called =>
    rw [m.shareOf_eq_nil_of_gone sound (stack ▸ gone), List.append_nil]
    exact .unwound (m.publication_ne_of_gone known (stack ▸ gone)) called

end Lookup.Delivery

namespace Course

variable {w : World} {before after : List Execution} {d e : Execution} {l : Lookup}

/-- A publication that found its topic took its number. -/
theorem number_le (c : Course w (before ++ d :: after) e) (publishes : d.act = .publish l) :
    l.number ≤ e.world.publications := by
  have m := move d
  rw [publishes] at m
  have first : l.number ≤ d.step.world.publications := by
    have counted := m.publications
    rw [Lookup.number, m.lookup_world, counted]
    exact Nat.le_refl _
  refine c.since (P := fun _ x => l.number ≤ x.world.publications) first ?_ ?_
  · intro later x _ known
    exact Nat.le_trans known (move x).publications_le
  · intro later x history program _ _ known
    exact known

/-- The acts of a publication all come after it has found its topic. -/
theorem record_since (c : Course w (before ++ d :: after) e) (publishes : d.act = .publish l) :
    record l.number (before ++ d :: after) = record l.number after := by
  have m := move d
  rw [publishes] at m
  have none : record l.number before = [] := by
    refine c.at_past.record_eq_nil ?_
    rw [Lookup.number, m.lookup_world]
    exact Nat.lt_succ_self _
  have own : d.act.shareOf l.number = [] := by
    rw [publishes]
    rfl
  rw [record_append, none, List.nil_append, ← List.singleton_append, record_append,
    record_singleton, own, List.nil_append]

/-- At every moment after a publication has found its topic, it has come as far as its acts say. -/
theorem delivery (c : Course w (before ++ d :: after) e) (publishes : d.act = .publish l) :
    l.Delivery d.frames (record l.number after) e.frames := by
  have m := move d
  rw [publishes] at m
  have under : ∀ g ∈ d.frames, g.publication < l.number := by
    intro g hg
    rw [Lookup.number, m.lookup_world]
    exact Nat.lt_succ_of_le (c.at_past.sound.numbered g hg)
  have first : l.Delivery d.frames (record l.number []) d.step.frames := by
    generalize d.step = d' at m
    cases m
    exact Lookup.Delivery.between [] rfl
  refine c.since (P := fun later x => l.Delivery d.frames (record l.number later) x.frames) first
    ?_ ?_
  · intro later x c' h
    rw [record_append, record_singleton]
    exact h.step (move x) c'.sound (c'.number_le publishes) under
  · intro later x history program c' ended h
    rw [c'.sound.frames_eq_nil ended] at h
    exact h

/-- Every call of a publication serves it. -/
theorem serves (c : Course w (before ++ d :: after) e) (publishes : d.act = .publish l)
    {i : Invocation} (called : .call i ∈ record l.number after) : i.Serves l := by
  have all : ∀ i, .call i ∈ record l.number after → i.Serves l := by
    refine c.since (P := fun later _ => ∀ i, .call i ∈ record l.number later → i.Serves l) ?_ ?_ ?_
    · intro i called
      exact absurd called List.not_mem_nil
    · intro later x c' h i called
      rw [record_append, List.mem_append] at called
      rcases called with before | now
      · exact h i before
      · obtain ⟨⟨y, hy, act⟩, belongs⟩ := mem_record.mp now
        obtain rfl := List.mem_singleton.mp hy
        have m := move y
        rw [act] at m
        exact (c'.delivery publishes).serves m (Option.some.inj belongs)
    · intro later x history program _ _ h
      exact h
  exact all i called

end Course

end TopicBroker
