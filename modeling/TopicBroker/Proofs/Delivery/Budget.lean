import Mathlib.Algebra.BigOperators.Group.Finset.Basic
import Mathlib.Algebra.Ring.Nat
import TopicBroker.Proofs.Delivery.Runs

/-!
# What a run can cost

A run is paid for in advance. An operation costs one. A publication costs a price that is enough to
call every handler and to return from it. A registration costs the price as well, so there are never
more handlers to be called than were paid for, and besides it sets aside what its body costs when it
is called. Every step takes something of what is left, and so a run is over after at most as many
steps as were paid.
-/

namespace TopicBroker

open Execution

/-- Programs that so much pays for. The body of a handler may cost something at every call: after
`k` calls, `left k` is what its registration still keeps for later ones. -/
inductive Program.Within (price : Nat) : Program → Nat → Prop
  /-- To end costs nothing. -/
  | done {n : Nat} : Within price .done n
  /-- Nor does a panic. -/
  | panic {message : String} {n : Nat} : Within price (.panic message) n
  /-- An operation costs one. -/
  | perform {op : Operation} {next : Answer → Program} {m n : Nat}
      (goesOn : ∀ a, Within price (next a) m) (pays : m + 1 ≤ n) :
    Within price (.perform op next) n
  /-- A registration costs the price, the step itself, and all that its body can cost. -/
  | subscribe {key : String} {matcher : Matcher} {body : Call → Program} {next : Program}
      {m n : Nat} (cost : Call → Nat) (left : Nat → Nat)
      (bodies : ∀ c, Within price (body c) (cost c))
      (kept : ∀ c k, c.id.number = k + 1 → cost c + left (k + 1) ≤ left k)
      (goesOn : Within price next m) (pays : m + 1 + price + left 0 ≤ n) :
    Within price (.subscribe key matcher body next) n
  /-- A publication costs the price. -/
  | publish {p : Publication} {guarded : Bool} {next : Answer → Program} {m n : Nat}
      (goesOn : ∀ a, Within price (next a) m) (pays : m + price ≤ n) :
    Within price (.publish p guarded next) n

/-- What pays for a program, and more, pays for it. -/
theorem Program.Within.of_le {price m n : Nat} {p : Program} (h : p.Within price m)
    (le : m ≤ n) : p.Within price n := by
  cases h with
  | done => exact .done
  | panic => exact .panic
  | perform goesOn pays => exact .perform goesOn (Nat.le_trans pays le)
  | subscribe cost left bodies kept goesOn pays =>
    exact .subscribe cost left bodies kept goesOn (Nat.le_trans pays le)
  | publish goesOn pays => exact .publish goesOn (Nat.le_trans pays le)

/-- Whether what is kept for the calls of a handler pays for them. -/
def Handler.PaidFrom (price : Nat) (left : Nat → Nat) (h : Handler) : Prop :=
  ∀ c k, c.id.number = k + 1 → ∃ cost, (h.body c).Within price cost ∧ cost + left (k + 1) ≤ left k

/-- What is kept for calls does not increase. -/
theorem Handler.PaidFrom.antitone {price : Nat} {left : Nat → Nat} {h : Handler}
    (paid : h.PaidFrom price left) : Antitone left := by
  refine antitone_nat_of_succ_le fun k => ?_
  obtain ⟨cost, -, kept⟩ :=
    paid { (default : Call) with id := { (default : CallId) with number := k + 1 } } k rfl
  exact Nat.le_trans (Nat.le_add_left _ _) kept

/-- Whether a price pays for every publication, if so much pays for all registrations: a publication
calls at most as many handlers as were registered. -/
def CoversCalls (price n : Nat) : Prop := ∀ k, price * k ≤ n → 2 * k + 4 ≤ price

theorem CoversCalls.of_le {price m n : Nat} (h : CoversCalls price n) (le : m ≤ n) :
    CoversCalls price m := fun k pays => h k (Nat.le_trans pays le)

namespace World

variable {price n : Nat} {left : Nat → Nat → Nat} {w : World}

/-- What all registrations of a world together keep for calls, the one with the number `s` after `k`
calls keeping `left s k`. -/
def reserve (left : Nat → Nat → Nat) (w : World) : Nat :=
  ∑ s ∈ Finset.range (w.broker.registry.lastSeq + 1), left s (w.calls.count s)

/-- Worlds in which so much was paid by all registrations: what they keep pays for the calls of
their handlers, and the price is there for each of them. -/
structure Solvent (price : Nat) (left : Nat → Nat → Nat) (w : World) (n : Nat) : Prop where
  /-- The registry is coherent. -/
  coherent : w.broker.registry.Coherent
  /-- What is kept pays for the calls of every handler that is registered. -/
  paid : ∀ {key g}, w.broker.registry.handlers.get? key = some g →
    g.handler.PaidFrom price (left g.seq)
  /-- It was paid. -/
  pays : w.reserve left + price * w.broker.registry.lastSeq ≤ n

/-- A call changes what its own registration keeps, and nothing else. -/
theorem reserve_called (left : Nat → Nat → Nat) (w : World) {a : Attachment Handler}
    (given : a.seq ≤ w.broker.registry.lastSeq) (parcel : Parcel) (publication depth : Nat) :
    (w.called a parcel publication depth).2.reserve left + left a.seq (w.calls.count a.seq) =
      w.reserve left + left a.seq (w.calls.count a.seq + 1) := by
  have own : a.seq ∈ Finset.range (w.broker.registry.lastSeq + 1) :=
    Finset.mem_range.mpr (Nat.lt_succ_of_le given)
  have others : ∑ s ∈ (Finset.range (w.broker.registry.lastSeq + 1)).erase a.seq,
        left s ((w.calls.bump a.seq).count s) =
      ∑ s ∈ (Finset.range (w.broker.registry.lastSeq + 1)).erase a.seq,
        left s (w.calls.count s) := by
    refine Finset.sum_congr rfl fun s hs => ?_
    rw [Tally.count_bump, if_neg (Finset.ne_of_mem_erase hs), Nat.add_zero]
  have counted : (w.calls.bump a.seq).count a.seq = w.calls.count a.seq + 1 := by
    simp [Tally.count_bump]
  have now : (w.called a parcel publication depth).2.reserve left =
      ∑ s ∈ Finset.range (w.broker.registry.lastSeq + 1),
        left s ((w.calls.bump a.seq).count s) := rfl
  rw [now, reserve, ← Finset.add_sum_erase _ _ own, ← Finset.add_sum_erase _ _ own, others, counted]
  omega

/-- No operation takes the number of a registration. -/
theorem lastSeq_perform (w : World) (op : Operation) :
    (w.perform op).1.broker.registry.lastSeq = w.broker.registry.lastSeq := by
  rw [registry_perform]
  cases op with
  | registerTopic name => exact Registry.lastSeq_registerTopic _ _ _
  | deregisterHandler key => exact Registry.lastSeq_deregisterHandler _ _
  | _ => rfl

namespace Solvent

/-- A new broker owes nothing. -/
theorem fresh {ids : Option IdSource} {strategy : MatchStrategy}
    (fresh : Broker.create ids strategy = .ok w) : w.Solvent price (fun _ _ => 0) 0 := by
  obtain ⟨source, -, rfl⟩ := Broker.eq_world_of_create fresh
  exact ⟨Registry.coherent_empty, fun entry => by simp [Broker.world, Registry.empty] at entry,
    Nat.le_of_eq rfl⟩

theorem of_le {m : Nat} (h : w.Solvent price left m) (le : m ≤ n) : w.Solvent price left n :=
  ⟨h.coherent, h.paid, Nat.le_trans h.pays le⟩

/-- What a publication calls costs no more than the price. -/
theorem snapshot_le (h : w.Solvent price left n) (enough : CoversCalls price n) {topic : String}
    {attachments : List (Attachment Handler)}
    (found : w.broker.registry.snapshot topic = some attachments) :
    2 * attachments.length + 2 ≤ price := by
  have numbers : (attachments.map (·.seq)).Nodup :=
    List.pairwise_map.mpr
      ((h.coherent.increasing found).imp fun {_ _} earlier => Nat.ne_of_lt earlier)
  have given : (attachments.map (·.seq)) ⊆ List.range (w.broker.registry.lastSeq + 1) := by
    intro s hs
    obtain ⟨a, ha, rfl⟩ := List.mem_map.mp hs
    have bounded : a.seq ≤ w.broker.registry.lastSeq :=
      h.coherent.bounded (h.coherent.current found a ha)
    exact List.mem_range.mpr (Nat.lt_succ_of_le bounded)
  have few : attachments.length ≤ w.broker.registry.lastSeq + 1 := by
    simpa using (numbers.subperm given).length_le
  have covered := enough _ (Nat.le_trans (Nat.le_add_left _ _) h.pays)
  omega

/-- An operation leaves what registrations keep. -/
theorem perform (h : w.Solvent price left n) (op : Operation) :
    (w.perform op).1.Solvent price left n := by
  cases changes : change? op with
  | some c =>
    obtain ⟨history, eq⟩ := w.perform_eq_apply changes
    have takes : c.takesNumber = false := by
      cases op <;> cases changes <;> rfl
    have last : (w.broker.registry.apply w.accepts c).lastSeq = w.broker.registry.lastSeq := by
      rw [Registry.lastSeq_apply, takes]
      rfl
    rw [eq]
    refine ⟨h.coherent.apply _ c, fun entry => h.paid (Registry.get?_handlers_of_apply takes entry),
      ?_⟩
    simp only [reserve, withRegistry, last]
    exact h.pays
  | none =>
    cases op with
    | registerTopic => cases changes
    | deregisterTopic => cases changes
    | deregisterHandler => cases changes
    | _ => exact ⟨h.coherent, h.paid, h.pays⟩

/-- A registration sets the price and what it keeps aside. The others keep what they kept. -/
theorem registerHandler (h : w.Solvent price left n) (key : String) {handler : Handler}
    {own : Nat → Nat} (paid : handler.PaidFrom price own) :
    ∃ left', (∀ s ≤ w.broker.registry.lastSeq, left' s = left s) ∧
      (w.registerHandler key handler).Solvent price left' (n + price + own 0) := by
  obtain ⟨history, eq⟩ := w.registerHandler_eq key handler
  have others (s : Nat) (given : s ≤ w.broker.registry.lastSeq) :
      Function.update left (w.broker.registry.lastSeq + 1) own s = left s :=
    Function.update_of_ne (by omega) _ _
  refine ⟨_, others, ?_⟩
  rw [eq]
  refine ⟨h.coherent.registerHandler _ key handler, fun {other g} entry => ?_, ?_⟩
  · have look : (w.broker.registry.registerHandler w.accepts key handler).1.handlers.get? other =
        some g := entry
    rw [Registry.get?_handlers_registerHandler] at look
    split at look
    · obtain rfl := Option.some.inj look
      rwa [Function.update_self]
    · rw [others _ (h.coherent.bounded look)]
      exact h.paid look
  · have last : (w.broker.registry.registerHandler w.accepts key handler).1.lastSeq =
        w.broker.registry.lastSeq + 1 := Registry.lastSeq_registerHandler _ _ _ _
    have before : ∑ s ∈ Finset.range (w.broker.registry.lastSeq + 1),
          Function.update left (w.broker.registry.lastSeq + 1) own s (w.calls.count s) =
        w.reserve left := by
      refine Finset.sum_congr rfl fun s hs => ?_
      rw [others s (Nat.le_of_lt_succ (Finset.mem_range.mp hs))]
    have now : own (w.calls.count (w.broker.registry.lastSeq + 1)) ≤ own 0 :=
      paid.antitone (Nat.zero_le _)
    have pays := h.pays
    rw [reserve] at pays
    simp only [reserve, withRegistry, last, Finset.sum_range_succ _ (w.broker.registry.lastSeq + 1),
      before, Function.update_self, Nat.mul_succ]
    omega

/-- A call is paid from what its registration keeps. -/
theorem called (h : w.Solvent price left n) {a : Attachment Handler}
    (given : a.seq ≤ w.broker.registry.lastSeq) (paid : a.handler.PaidFrom price (left a.seq))
    (parcel : Parcel) (publication depth : Nat) :
    ∃ cost m, cost + m ≤ n ∧
      (a.handler.body (w.called a parcel publication depth).1).Within price cost ∧
      (w.called a parcel publication depth).2.Solvent price left m := by
  have counted : (w.calls.bump a.seq).count a.seq = w.calls.count a.seq + 1 := by
    simp [Tally.count_bump]
  obtain ⟨cost, body, kept⟩ := paid (w.called a parcel publication depth).1 _ counted
  have taken := w.reserve_called left given parcel publication depth
  have pays := h.pays
  refine ⟨cost, n - cost, by omega, body, h.coherent, h.paid, ?_⟩
  change _ + price * w.broker.registry.lastSeq ≤ n - cost
  omega

/-- A publication that finds its topic leaves what registrations keep. -/
theorem publish (h : w.Solvent price left n) (p : Publication) (handlers : Nat) :
    (w.publish p handlers).2.Solvent price left n := ⟨h.coherent, h.paid, h.pays⟩

/-- So does what is only counted and written down. -/
theorem count_record (h : w.Solvent price left n) (f : Stats → Stats) (event : Event) :
    ((w.count f).record event).Solvent price left n := ⟨h.coherent, h.paid, h.pays⟩

/-- What is kept pays for the calls of the handlers that a publication finds. -/
theorem paid_of_mem (h : w.Solvent price left n) {topic : String}
    {attachments : List (Attachment Handler)}
    (found : w.broker.registry.snapshot topic = some attachments) {a : Attachment Handler}
    (ha : a ∈ attachments) :
    a.seq ≤ w.broker.registry.lastSeq ∧ a.handler.PaidFrom price (left a.seq) := by
  have entry := h.coherent.current found a ha
  exact ⟨h.coherent.bounded entry, h.paid entry⟩

end Solvent

end World

/-- Whether so much pays for a delivery under way: for calling the handlers that are still to be
called, whose bodies are paid by their registrations, for its end, and for what the publisher does
then. -/
def Frame.Within (price : Nat) (left : Nat → Nat → Nat) (last : Nat) (f : Frame) (n : Nat) : Prop :=
  (∀ a ∈ f.remaining, a.seq ≤ last ∧ a.handler.PaidFrom price (left a.seq)) ∧
    ∃ m, (∀ a, (f.resume a).Within price m) ∧ m + 2 * f.remaining.length + 2 ≤ n

/-- More may be registered while a delivery is under way. -/
theorem Frame.Within.of_same {price last later n : Nat} {left left' : Nat → Nat → Nat} {f : Frame}
    (h : f.Within price left last n) (le : last ≤ later) (same : ∀ s ≤ last, left' s = left s) :
    f.Within price left' later n := by
  refine ⟨fun a ha => ?_, h.2⟩
  obtain ⟨given, paid⟩ := h.1 a ha
  rw [same _ given]
  exact ⟨Nat.le_trans given le, paid⟩

/-- Whether so much pays for what happens next. -/
def Control.Within (price : Nat) : Control → Nat → Prop
  | .running p, n => ∃ m, p.Within price m ∧ m + 2 ≤ n
  | .delivering, n => 1 ≤ n
  | .unwinding _, n => 1 ≤ n
  | .finished, _ => True
  | .aborted _, _ => True

/-- Executions that so much pays for: the world, the deliveries under way, and what happens next. -/
inductive Execution.Within (price : Nat) : Execution → Nat → Prop
  /-- Each of them has its part. -/
  | intro {w : World} {frames : List Frame} {control : Control} {left : Nat → Nat → Nat}
      {kept now n : Nat} {costs : List Nat} (world : w.Solvent price left kept)
      (stack : List.Forall₂ (Frame.Within price left w.broker.registry.lastSeq) frames costs)
      (next : control.Within price now) (pays : kept + costs.sum + now ≤ n) :
    Within price ⟨w, frames, control⟩ n

namespace Execution

/-- What pays for an execution, and more, pays for it. -/
theorem Within.of_le {price m n : Nat} {e : Execution} (h : e.Within price m) (le : m ≤ n) :
    e.Within price n := by
  cases h with
  | intro world stack next pays => exact .intro world stack next (Nat.le_trans pays le)

section

variable {price kept n : Nat} {left : Nat → Nat → Nat} {w : World} {frames : List Frame}
  {costs : List Nat} (world : w.Solvent price left kept)
  (stack : List.Forall₂ (Frame.Within price left w.broker.registry.lastSeq) frames costs)

include world stack

/-- To end takes a step. -/
theorem within_done (pays : kept + costs.sum + 2 ≤ n + 1) :
    (step ⟨w, frames, .running .done⟩).Within price n := by
  have m := move ⟨w, frames, .running .done⟩
  generalize act _ = a, step _ = e' at m
  cases m with
  | finish =>
    have free : Control.finished.Within price 0 := trivial
    exact .intro world stack free (by omega)
  | goOn idle => exact .intro world stack (Nat.le_refl 1) (by omega)
  | returns busy =>
    obtain _ | ⟨frame, stack⟩ := stack
    exact .intro (world.count_record _ _) (.cons frame stack) (Nat.le_refl 1) (by omega)
  | stay ended => cases ended

/-- A publication takes a step, and what is left of the price pays for its delivery. -/
theorem within_publish {p : Publication} {guarded : Bool} {next : Answer → Program} {m : Nat}
    (goesOn : ∀ a, (next a).Within price m) (pays : kept + costs.sum + (m + price) + 2 ≤ n + 1)
    (enough : CoversCalls price kept) :
    (step ⟨w, frames, .running (.publish p guarded next)⟩).Within price n := by
  have m := move ⟨w, frames, .running (.publish p guarded next)⟩
  generalize act _ = a, step _ = e' at m
  cases m with
  | miss absent =>
    have positive := enough 0 (Nat.zero_le _)
    exact .intro (world.count_record _ _) stack ⟨_, goesOn _, Nat.le_refl _⟩ (by omega)
  | @publish frames l found =>
    have few := world.snapshot_le enough found
    have frame : l.frame.Within price left l.world.broker.registry.lastSeq
        (_ + 2 * l.attachments.length + 2) :=
      ⟨fun a ha => world.paid_of_mem found ha, _, goesOn, Nat.le_refl _⟩
    refine .intro (world.publish _ _) (.cons frame stack) (Nat.le_refl 1) ?_
    rw [List.sum_cons]
    omega
  | stay ended => cases ended

/-- What is left for a delivery pays for the next call, or for what the publisher does then. -/
theorem within_delivering (pays : kept + costs.sum + 1 ≤ n + 1) :
    (step ⟨w, frames, .delivering⟩).Within price n := by
  have m := move ⟨w, frames, .delivering⟩
  generalize act _ = a, step _ = e' at m
  cases m with
  | idle =>
    have free : Control.finished.Within price 0 := trivial
    exact .intro world stack free (by omega)
  | complete done =>
    obtain _ | ⟨⟨-, m, goesOn, frame⟩, stack⟩ := stack
    rw [List.sum_cons] at pays
    exact .intro world stack ⟨_, goesOn _, Nat.le_refl _⟩ (by omega)
  | @call w f frames a remaining call w' waiting called =>
    obtain _ | ⟨⟨covered, m, goesOn, frame⟩, stack⟩ := stack
    rw [List.sum_cons] at pays
    obtain ⟨rfl, rfl⟩ := Prod.mk.inj called
    rw [waiting] at covered frame
    obtain ⟨given, paid⟩ := covered a List.mem_cons_self
    obtain ⟨cost, kept', le, body, world'⟩ :=
      world.called given paid f.parcel f.publication (frames.length + 1)
    have later : Frame.Within price left w.broker.registry.lastSeq
        { f with
          current := some (w.called a f.parcel f.publication (frames.length + 1)).1.id
          remaining }
        (m + 2 * remaining.length + 2) :=
      ⟨fun b hb => covered b (List.mem_cons_of_mem _ hb), m, goesOn, Nat.le_refl _⟩
    refine .intro world' (.cons later stack) ⟨cost, body, Nat.le_refl _⟩ ?_
    rw [List.length_cons] at frame
    rw [List.sum_cons]
    omega
  | stay ended => cases ended

/-- A panic takes a step for every delivery that it drops, and one at its end. -/
theorem within_unwinding {message : String} (pays : kept + costs.sum + 1 ≤ n + 1) :
    (step ⟨w, frames, .unwinding message⟩).Within price n := by
  have m := move ⟨w, frames, .unwinding message⟩
  generalize act _ = a, step _ = e' at m
  cases m with
  | abort =>
    have free : (Control.aborted message).Within price 0 := trivial
    exact .intro world stack free (by omega)
  | catches guarded =>
    obtain _ | ⟨⟨-, m, goesOn, frame⟩, stack⟩ := stack
    rw [List.sum_cons] at pays
    exact .intro world stack ⟨_, goesOn _, Nat.le_refl _⟩ (by omega)
  | unwind unguarded =>
    obtain _ | ⟨⟨-, m, goesOn, frame⟩, stack⟩ := stack
    rw [List.sum_cons] at pays
    exact .intro world stack (Nat.le_refl 1) (by omega)
  | stay ended => cases ended

/-- A program pays for its next step. -/
theorem within_running {p : Program} {m : Nat} (program : p.Within price m)
    (pays : kept + costs.sum + m + 2 ≤ n + 1) (enough : CoversCalls price kept) :
    (step ⟨w, frames, .running p⟩).Within price n := by
  cases program with
  | done => exact within_done world stack (by omega)
  | panic => exact .intro world stack (Nat.le_refl 1) (by omega)
  | @perform op next _ _ goesOn paid =>
    have last := w.lastSeq_perform op
    exact .intro (world.perform op) (last ▸ stack) ⟨_, goesOn _, Nat.le_refl _⟩ (by omega)
  | @subscribe key matcher body next _ _ cost own bodies kept goesOn paid =>
    have covered : Handler.PaidFrom price own ⟨matcher, body⟩ :=
      fun c k called => ⟨cost c, bodies c, kept c k called⟩
    obtain ⟨left', same, world'⟩ := world.registerHandler key covered
    have last : w.broker.registry.lastSeq ≤
        (w.registerHandler key ⟨matcher, body⟩).broker.registry.lastSeq := by
      rw [World.registry_registerHandler]
      exact Registry.lastSeq_le_apply _ _ (.registerHandler key _)
    exact .intro world' (stack.imp fun _ _ frame => frame.of_same last same)
      ⟨_, goesOn, Nat.le_refl _⟩ (by omega)
  | publish goesOn paid => exact within_publish world stack goesOn (by omega) enough

end

variable {price m n : Nat} {e : Execution}

/-- Every step takes something of what is left. -/
theorem Within.step (h : e.Within price (n + 1)) (enough : CoversCalls price (n + 1))
    (goesOn : e.isOver = false) : e.step.Within price n := by
  obtain @⟨w, frames, control, left, kept, now, -, costs, world, stack, next, pays⟩ := h
  have enough' : CoversCalls price kept := enough.of_le (by omega)
  cases control with
  | running p =>
    obtain ⟨m, program, le⟩ := next
    exact within_running world stack program (by omega) enough'
  | delivering =>
    have least : 1 ≤ now := next
    exact within_delivering world stack (by omega)
  | unwinding message =>
    have least : 1 ≤ now := next
    exact within_unwinding world stack (by omega)
  | finished => cases goesOn
  | aborted message => cases goesOn

/-- A run that goes on has something left. -/
theorem Within.isOver_of_zero (h : e.Within price 0) : e.isOver = true := by
  obtain @⟨w, frames, control, left, kept, now, -, costs, world, stack, next, pays⟩ := h
  cases control with
  | running p =>
    obtain ⟨m, -, le⟩ := next
    omega
  | delivering =>
    have least : 1 ≤ now := next
    omega
  | unwinding message =>
    have least : 1 ≤ now := next
    omega
  | finished => rfl
  | aborted message => rfl

/-- A run is over after as many steps as were paid. -/
theorem Within.isOver_run (h : e.Within price n) (enough : CoversCalls price n) {fuel : Nat}
    (le : n ≤ fuel) : (run fuel e).isOver = true := by
  induction n generalizing e fuel with
  | zero =>
    have ended := h.isOver_of_zero
    rwa [run_of_isOver ended]
  | succ n ih =>
    cases goesOn : e.isOver with
    | true => rwa [run_of_isOver goesOn]
    | false =>
      obtain ⟨fuel, rfl⟩ := Nat.exists_eq_add_of_le' (Nat.le_trans (Nat.succ_pos n) le)
      rw [run_step goesOn]
      exact ih (h.step enough goesOn) (enough.of_le (Nat.le_succ n)) (by omega)

/-- What pays for a run pays for the rest of it at every moment. -/
theorem Within.run (h : e.Within price n) (enough : CoversCalls price n) (k : Nat) :
    (Execution.run k e).Within price n := by
  induction k with
  | zero => exact h
  | succ k ih =>
    rw [run_succ]
    cases goesOn : (Execution.run k e).isOver with
    | true => rwa [step_of_isOver goesOn]
    | false =>
      cases n with
      | zero => rwa [← run_succ, run_of_isOver h.isOver_of_zero]
      | succ n => exact (ih.step enough goesOn).of_le (Nat.le_succ n)

/-- What pays for an execution pays for the world that it leaves. -/
theorem Within.solvent (h : e.Within price n) : ∃ left, e.world.Solvent price left n := by
  cases h with
  | intro world stack next pays => exact ⟨_, world.of_le (by omega)⟩

end Execution

end TopicBroker
