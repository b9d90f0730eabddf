import Mathlib.Algebra.Ring.Nat
import TopicBroker.Proofs.Delivery.Stack

/-!
# What the counts of a broker say

A publication is counted when it looks its topic up, as found or as missed; a call of a handler is
counted when it returns. Calls nest, and a panic may drop them at any depth, so the number of
returns is not read off finished publications: what balances at every step are the calls made and
the calls that have returned, were dropped by a panic, or are on the stack.
-/

namespace TopicBroker

namespace Act

/-- Whether a handler is called. -/
def isCall : Act → Bool
  | .call _ => true
  | _ => false

/-- Whether a call returns. -/
def isReturn : Act → Bool
  | .returns _ => true
  | _ => false

/-- Whether a panic drops a call that has not returned. -/
def dropsCall : Act → Bool
  | .unwind _ c _ => c.isSome
  | _ => false

end Act

namespace Execution

/-- How many handlers are attached to the topic to which the program publishes now. -/
def snapshotLength (e : Execution) : Nat :=
  ((e.attempt?.bind fun p => e.world.broker.registry.snapshot p.topic).map List.length).getD 0

/-- How many calls are on the stack. -/
def callsUnderWay (e : Execution) : Nat := e.frames.countP (·.current.isSome)

/-- How many handlers the deliveries under way have not called yet. -/
def handlersLeft (e : Execution) : Nat := (e.frames.map (·.remaining.length)).sum

variable (e : Execution)

/-- The handlers of a publication are those of its snapshot. -/
theorem snapshotLength_eq :
    e.snapshotLength = (e.act.lookup?.map (·.attachments.length)).getD 0 := by
  obtain ⟨asks, act, -⟩ | ⟨p, asks, ⟨found, act⟩ | ⟨l, -, found, act⟩⟩ := e.attempt_cases
  · simp [snapshotLength, asks, act]
  · simp [snapshotLength, asks, act, found, Act.lookup?]
  · simp [snapshotLength, asks, act, found, Act.lookup?]

/-- A step counts itself where it is one of those that are counted. -/
theorem countP_append_singleton (p : Execution → Bool) (past : List Execution) :
    (past ++ [e]).countP p = past.countP p + (p e).toNat := by
  rw [List.countP_append, List.countP_singleton]
  cases p e <;> rfl

/-- Every publication finds its topic or misses it, and none does both. -/
theorem countP_attempt (past : List Execution) :
    past.countP (·.attempt?.isSome) = past.countP (·.finds) + past.countP (·.misses) := by
  induction past with
  | nil => rfl
  | cons e past ih =>
    have here : (if e.attempt?.isSome then 1 else 0) =
        (if e.finds then 1 else 0) + if e.misses then 1 else 0 := by
      unfold finds misses
      cases e.attempt? with
      | none => rfl
      | some p => cases h : e.world.broker.registry.hasTopic p.topic <;> simp [h]
    simp only [List.countP_cons]
    omega

namespace Move

variable {e e' : Execution} {a : Act}

/-- A call that is made comes onto the stack, and leaves it when it returns or is dropped. -/
theorem callsUnderWay (m : Move e a e') (h : Balanced e.frames e.control) :
    e'.callsUnderWay + a.isReturn.toNat + a.dropsCall.toNat =
      e.callsUnderWay + a.isCall.toNat := by
  -- a delivery ends in the middle of a call if a panic drops it, and between two calls if it is
  -- complete; which of the two holds is what the stack being in order says
  unfold Execution.callsUnderWay
  cases m with
  | returns busy => simp [Act.isReturn, Act.dropsCall, Act.isCall, busy]
  | publish => simp [Act.isReturn, Act.dropsCall, Act.isCall, Lookup.frame]
  | call =>
    cases h with
    | delivering idle busy => simp [Act.isReturn, Act.dropsCall, Act.isCall, idle]
  | complete =>
    cases h with
    | delivering idle busy => simp [Act.isReturn, Act.dropsCall, Act.isCall, idle]
  | catches =>
    cases h with
    | unwinding busy =>
      simp [Act.isReturn, Act.dropsCall, Act.isCall, busy _ List.mem_cons_self]
  | unwind =>
    cases h with
    | unwinding busy =>
      simp [Act.isReturn, Act.dropsCall, Act.isCall, busy _ List.mem_cons_self]
  | _ => rfl

/-- The handlers of a publication are left to be called until they are called or a panic drops the
publication, which then is in the middle of a call. -/
theorem handlersLeft (m : Move e a e') (h : Balanced e.frames e.control)
    (intact : a.dropsCall = false) :
    e'.handlersLeft + a.isCall.toNat =
      e.handlersLeft + (a.lookup?.map (·.attachments.length)).getD 0 := by
  unfold Execution.handlersLeft
  cases m with
  | publish => simp [Act.isCall, Act.lookup?, Lookup.frame, Nat.add_comm]
  | call waiting => simp [Act.isCall, Act.lookup?, waiting, Nat.add_right_comm]
  | complete done => simp [Act.isCall, Act.lookup?, done]
  | catches =>
    cases h with
    | unwinding busy => exact absurd ((busy _ List.mem_cons_self).symm.trans intact) (by simp)
  | unwind =>
    cases h with
    | unwinding busy => exact absurd ((busy _ List.mem_cons_self).symm.trans intact) (by simp)
  | _ => rfl

end Move

end Execution

open Execution

/-- What a past adds up to: the publications that found a topic, the calls that returned, and the
publications that found none. -/
def tallied (past : List Execution) : Stats where
  emitted := .ofNat (past.countP (·.finds))
  delivered := .ofNat (past.countP (·.act.isReturn))
  topicMisses := .ofNat (past.countP (·.misses))

/-- A step adds what its act counts. -/
theorem tallied_append_singleton (past : List Execution) (e : Execution) :
    tallied (past ++ [e]) = e.act.tally (tallied past) := by
  simp only [tallied, List.countP_append, List.countP_singleton, finds_eq, misses_eq]
  cases e.act <;> simp [Act.tally, Act.lookup?, Act.isReturn, Act.isMiss]

namespace Course

variable {w : World} {past : List Execution} {e : Execution}

/-- At every moment the counts are what the past adds up to. -/
theorem stats_eq (unused : w.broker.stats = {}) (c : Course w past e) :
    e.world.broker.stats = tallied past := by
  induction c with
  | start program => exact unused
  | @step past e c ih => rw [(move e).stats, ih, tallied_append_singleton]
  | next c ended history program ih => exact ih

/-- At every moment the calls that were made have returned, were dropped by a panic, or are on the
stack. -/
theorem calls_balance (c : Course w past e) :
    past.countP (·.act.isCall) =
      past.countP (·.act.isReturn) + past.countP (·.act.dropsCall) + e.callsUnderWay := by
  induction c with
  | start program => rfl
  | @step past e c ih =>
    have one := (move e).callsUnderWay c.sound.balanced
    simp only [countP_append_singleton]
    omega
  | next c ended history program ih =>
    rw [callsUnderWay, c.sound.frames_eq_nil ended] at ih
    exact ih

/-- As long as no panic has dropped a call, all handlers that were attached to the topics of
publications have been called or are left to be called. -/
theorem snapshots_balance (c : Course w past e) (intact : ∀ x ∈ past, x.act.dropsCall = false) :
    (past.map (·.snapshotLength)).sum = past.countP (·.act.isCall) + e.handlersLeft := by
  induction c with
  | start program => rfl
  | @step past e c ih =>
    have before := ih fun x hx => intact x (List.mem_append_left _ hx)
    have one := (move e).handlersLeft c.sound.balanced (intact e (by simp))
    rw [← snapshotLength_eq] at one
    simp only [countP_append_singleton, List.map_append, List.sum_append, List.map_cons,
      List.map_nil, List.sum_singleton]
    omega
  | next c ended history program ih =>
    have before := ih intact
    rw [handlersLeft, c.sound.frames_eq_nil ended] at before
    exact before

end Course

/-- Between the calls of a delivery one may be under way without a call on the stack; otherwise none
is. -/
theorem Execution.Sound.frames_eq_nil_of_calls {e : Execution} (h : e.Sound)
    (none : e.callsUnderWay = 0) (between : e.control ≠ .delivering) : e.frames = [] := by
  have idle : ∀ f ∈ e.frames, ¬ f.current.isSome = true := List.countP_eq_zero.mp none
  cases stack : e.frames with
  | nil => rfl
  | cons f frames =>
    have balanced := h.balanced
    rw [stack] at balanced idle
    exact absurd (balanced.eq_delivering (by simpa using idle f List.mem_cons_self)) between

/-- What the counts `s` of a broker say at a moment of a course. -/
structure Accounts (past : List Execution) (e : Execution) (s : Stats) : Prop where
  /-- The publications whose topic was registered when they looked it up, no matter what became of
  them. -/
  emitted : s.emitted.toNat = past.countP (·.finds)
  /-- The publications whose topic was not registered. -/
  topicMisses : s.topicMisses.toNat = past.countP (·.misses)
  /-- Together these are all publications. -/
  attempted : s.emitted.toNat + s.topicMisses.toNat = past.countP (·.attempt?.isSome)
  /-- The calls that returned. -/
  delivered : s.delivered.toNat = past.countP (·.act.isReturn)
  /-- These are the calls that were made but for those that a panic has dropped and those on the
  stack. -/
  balanced : s.delivered.toNat + past.countP (·.act.dropsCall) + e.callsUnderWay =
    past.countP (·.act.isCall)
  /-- As long as no call was dropped, every handler that a publication has found has returned, is on
  the stack or is still to be called. -/
  pending : (∀ x ∈ past, x.act.dropsCall = false) →
    s.delivered.toNat + e.callsUnderWay + e.handlersLeft = (past.map (·.snapshotLength)).sum
  /-- So all of them have returned when no call is on the stack and no delivery is about to make one.
  -/
  settled : (∀ x ∈ past, x.act.dropsCall = false) → e.callsUnderWay = 0 →
    e.control ≠ .delivering → s.delivered.toNat = (past.map (·.snapshotLength)).sum
  /-- No operation changes the counts, whatever it asks or changes. -/
  performed : ∀ op, (e.world.perform op).1.broker.stats = s
  /-- Registering a handler does not change them either. -/
  subscribed : ∀ key handler, (e.world.registerHandler key handler).broker.stats = s

namespace Course

variable {w : World} {past : List Execution} {e : Execution}

/-- At every moment of a course, also in the middle of calls, the counts of a broker account for all
publications and calls so far, as long as these fit into the words in which they are counted. -/
theorem accounts (unused : w.broker.stats = {}) (c : Course w past e)
    (fewFound : past.countP (·.finds) < UInt64.size)
    (fewMissed : past.countP (·.misses) < UInt64.size)
    (fewReturned : past.countP (·.act.isReturn) < UInt64.size) :
    ∃ s, (e.world.perform .stats).2 = .stats s ∧ Accounts past e s := by
  have counts := c.stats_eq unused
  have emitted : (tallied past).emitted.toNat = past.countP (·.finds) :=
    UInt64.toNat_ofNat_of_lt fewFound
  have topicMisses : (tallied past).topicMisses.toNat = past.countP (·.misses) :=
    UInt64.toNat_ofNat_of_lt fewMissed
  have delivered : (tallied past).delivered.toNat = past.countP (·.act.isReturn) :=
    UInt64.toNat_ofNat_of_lt fewReturned
  have balanced := c.calls_balance
  have pending (intact : ∀ x ∈ past, x.act.dropsCall = false) :
      (tallied past).delivered.toNat + e.callsUnderWay + e.handlersLeft =
        (past.map (·.snapshotLength)).sum := by
    have dropped : past.countP (·.act.dropsCall) = 0 :=
      List.countP_eq_zero.mpr fun x hx => by simp [intact x hx]
    rw [c.snapshots_balance intact, balanced, dropped, delivered, Nat.add_zero]
  refine ⟨tallied past, congrArg Answer.stats counts, emitted, topicMisses, ?_, delivered, ?_,
    pending, ?_, ?_, ?_⟩
  · rw [emitted, topicMisses, countP_attempt]
  · rw [delivered, balanced]
  · intro intact none between
    have left : e.handlersLeft = 0 := by
      rw [handlersLeft, c.sound.frames_eq_nil_of_calls none between]
      rfl
    rw [← pending intact, none, left]
    rfl
  · intro op
    rw [(World.perform_frame _ _).2.2, counts]
  · intro key handler
    rw [(World.registerHandler_frame _ _ _).2.2, counts]

/-- A program whose publication calls `p` and `r`. The handler `p` publishes twice: to `q`, which
panics, and to a topic that is not registered. -/
def ledger : Program :=
  .perform (.registerTopic "a") fun _ => .perform (.registerTopic "b") fun _ =>
    .subscribe "p" (.exact "a")
      (fun call => .publish (.plain call.context "b" default) true fun _ =>
        .publish (.plain call.context "c" default) false fun _ => .done) <|
    .subscribe "q" (.exact "b") (fun _ => .panic "out") <|
    .subscribe "r" (.exact "a") (fun _ => .done) <|
    .publish (.plain (.new 0) "a" default) false fun _ => .done

/-- In the body of `r`, two publications have found their topic and one has missed it; of three calls
the one of `p` has returned, the one of `q` was dropped, and the one of `r` is on the stack. -/
theorem accounts_ledger :
    let past := (Execution.start .plain ledger).trail 14
    let e := Execution.run 14 (.start .plain ledger)
    e.world.broker.stats = { emitted := 2, delivered := 1, topicMisses := 1 } ∧
      past.countP (·.act.isCall) = 3 ∧ past.countP (·.act.dropsCall) = 1 ∧ e.callsUnderWay = 1 ∧
      ∃ s, (e.world.perform .stats).2 = .stats s ∧ Accounts past e s := by
  have c := (Course.start (w := .plain) ledger).run 14
  rw [List.nil_append] at c
  exact ⟨by decide +kernel, by decide +kernel, by decide +kernel, by decide +kernel,
    accounts rfl c (by decide +kernel) (by decide +kernel) (by decide +kernel)⟩

end Course

end TopicBroker
