import TopicBroker.Proofs.Delivery.Budget
import TopicBroker.Scenario.Run

/-!
# Runs of scenarios

The text of a scenario says what its runs can cost: a body runs only at the first calls of its
registration, and everything else is an action that is written down. So with the fuel that it gets,
every run of a scenario comes to its end, and with more fuel nothing would be different. The runs
follow one another as those of programs do, and together they are a course of the broker.
-/

namespace TopicBroker

open Execution

section

variable {price n : Nat} {resume : Correlation → Program}

/-- To get hold of a context costs one. -/
theorem Program.within_withContext (op : Operation)
    (goesOn : ∀ c, (resume c).Within price n) :
    (Program.withContext op resume).Within price (n + 1) := by
  refine .perform (fun a => ?_) (Nat.le_refl _)
  cases a with
  | context c => exact goesOn c
  | _ => exact .done

/-- So does a context that a step uses, and one more if it is cancelled before. -/
theorem ContextChoice.within_resolve (choice : ContextChoice) (call : Option Call)
    (goesOn : ∀ c, (resume c).Within price n) :
    (choice.resolve call resume).Within price (n + 2) := by
  cases choice with
  | given =>
    cases call with
    | none => exact (Program.within_withContext _ goesOn).of_le (Nat.le_succ _)
    | some call => exact (goesOn call.context).of_le (Nat.le_add_right n 2)
  | named name => exact (Program.within_withContext _ goesOn).of_le (Nat.le_succ _)
  | fresh txId source cancelled =>
    refine Program.within_withContext _ fun c => ?_
    cases cancelled with
    | true => exact .perform (fun _ => goesOn _) (Nat.le_refl _)
    | false => exact (goesOn _).of_le (Nat.le_succ n)

/-- What is kept for the first calls pays for one of them, or for none. -/
theorem Step.kept_of_limit {limit cost : Nat} {c : Call} {k : Nat} (called : c.id.number = k + 1) :
    (if c.id.number ≤ limit then cost else 0) + (limit - (k + 1)) * cost ≤ (limit - k) * cost := by
  rw [called]
  split
  · next first =>
    have one : limit - k = limit - (k + 1) + 1 := by omega
    rw [one, Nat.succ_mul, Nat.add_comm]
  · next later =>
    have none : limit - (k + 1) = 0 := by omega
    rw [none]
    omega

end

theorem Step.weight_pos (s : Step) : 0 < s.weight := by
  cases s with
  | registerHandler => exact Nat.lt_add_right _ Nat.one_pos
  | _ => exact Nat.one_pos

mutual

/-- A step costs at most the price of a publication and four operations for each of its actions; one
of them is the note of its answer. -/
theorem Step.within_program {price n : Nat} (strategy : MatchStrategy) (s : Step)
    (call : Option Call) {next : Answer → Program} (goesOn : ∀ a, (next a).Within price (n + 1)) :
    (s.program strategy call next).Within price (n + (price + 4) * s.weight) := by
  have used (choice : ContextChoice) (op : Correlation → Operation) :
      (choice.resolve call fun c => .perform (op c) next).Within price (n + (price + 4) * 1) :=
    (choice.within_resolve call fun c => .perform goesOn (Nat.le_refl _)).of_le (by omega)
  match s with
  | .ask op =>
    simp only [Step.program, Step.weight]
    exact .perform goesOn (by omega)
  | .registerHandler key pattern matcher limit body =>
    simp only [Step.program, Step.weight]
    have bodies (c : Call) :
        (if c.id.number ≤ limit then Step.body strategy c body else Program.done).Within price
          (if c.id.number ≤ limit then (price + 4) * Step.weights body else 0) := by
      split
      · exact Step.within_body strategy body c
      · exact .done
    refine .subscribe _ (fun k => (limit - k) * ((price + 4) * Step.weights body)) bodies
      (fun c k called => Step.kept_of_limit called) (goesOn _) ?_
    rw [Nat.sub_zero, Nat.mul_add, Nat.mul_left_comm limit]
    omega
  | .publish form topic context data guarded =>
    simp only [Step.program, Step.weight]
    refine (context.within_resolve call fun c => .publish goesOn (Nat.le_refl _)).of_le ?_
    omega
  | .keepDerived name origin txId source =>
    simp only [Step.program, Step.weight]
    refine (Program.within_withContext _ fun c => .perform
      (fun _ => .perform goesOn (Nat.le_refl _)) (Nat.le_refl _)).of_le ?_
    omega
  | .showContext context =>
    simp only [Step.program, Step.weight]
    exact used context .viewContext
  | .cancel context =>
    simp only [Step.program, Step.weight]
    exact used context .cancel
  | .keepGiven name =>
    simp only [Step.program, Step.weight]
    exact used .given (.keepContext name)
  | .read kind =>
    simp only [Step.program, Step.weight]
    exact (goesOn _).of_le (by omega)
  | .panic message guarded =>
    cases guarded with
    | true =>
      simp only [Step.program, if_true, Step.weight]
      exact (goesOn _).of_le (by omega)
    | false =>
      simp only [Step.program]
      exact .panic

/-- So does the body of a handler. -/
theorem Step.within_body {price : Nat} (strategy : MatchStrategy) (steps : List Step)
    (call : Call) :
    (Step.body strategy call steps).Within price ((price + 4) * Step.weights steps) := by
  match steps with
  | [] =>
    simp only [Step.body]
    exact .done
  | s :: rest =>
    have later : (Step.body strategy call rest).Within price _ :=
      Step.within_body strategy rest call
    have noted (a : Answer) : (Program.perform (.note (some call.id) s.name a) fun _ =>
        Step.body strategy call rest).Within price ((price + 4) * Step.weights rest + 1) :=
      .perform (fun _ => later) (Nat.le_refl _)
    simp only [Step.body, Step.weights]
    refine (Step.within_program strategy s (some call) noted).of_le ?_
    rw [Nat.mul_add]
    omega

end

namespace Step

/-- The run of a step costs two more than the step, for its end. -/
theorem within_start {price kept : Nat} {left : Nat → Nat → Nat} {w : World}
    (world : w.Solvent price left kept) (s : Step) :
    (s.start w).Within price (kept + (price + 6) * s.weight) := by
  have program : (s.toplevel w.broker.strategy).Within price (0 + (price + 4) * s.weight) :=
    within_program _ s none fun _ => .perform (fun _ => .done) (Nat.le_refl _)
  have cleared : World.Solvent price left { w with history := [] } kept :=
    ⟨world.coherent, world.paid, world.pays⟩
  have positive := s.weight_pos
  refine .intro cleared .nil ⟨_, program, Nat.le_refl _⟩ ?_
  rw [List.sum_nil, Nat.add_mul, Nat.add_mul]
  omega

/-- The runs of steps come to their ends if all of them are paid for. -/
theorem isOver_of_solvent {price kept fuel : Nat} {left : Nat → Nat → Nat} {w : World}
    (world : w.Solvent price left kept) {steps : List Step}
    (enough : CoversCalls price (kept + (price + 6) * weights steps))
    (le : kept + (price + 6) * weights steps ≤ fuel) :
    ∀ e ∈ endsWith fuel w steps, e.isOver = true := by
  induction steps generalizing w left kept with
  | nil => exact fun e he => absurd he List.not_mem_nil
  | cons s rest ih =>
    rw [weights, Nat.mul_add, ← Nat.add_assoc] at enough le
    have start := s.within_start world
    have enough' := enough.of_le (Nat.le_add_right _ _)
    obtain ⟨left', later⟩ := (start.run enough' fuel).solvent
    intro e he
    rcases List.mem_cons.mp he with rfl | he
    · exact start.isOver_run enough' (Nat.le_trans (Nat.le_add_right _ _) le)
    · exact ih later enough le e he

/-- A price that is enough for a scenario of this weight. -/
theorem coversCalls_price (weight : Nat) :
    CoversCalls (2 * weight + 8) ((2 * weight + 8 + 6) * weight) := by
  intro k paid
  by_contra short
  have many : weight + 3 ≤ k := by omega
  have least := Nat.le_trans (Nat.mul_le_mul_left _ many) paid
  rw [Nat.add_mul (2 * weight + 8) 6 weight, Nat.mul_add] at least
  omega

/-- The fuel of a scenario pays for it at this price. -/
theorem price_le_fuel (weight : Nat) : (2 * weight + 8 + 6) * weight ≤ fuel weight := by
  have first : 2 * weight + 8 + 6 ≤ 16 * (weight + 2) := by omega
  exact Nat.mul_le_mul first (Nat.le_add_right _ _)

section

variable {ids : Option IdSource} {strategy : MatchStrategy} {w : World} {steps : List Step}
  {fuel : Nat}

/-- With the fuel that it gets, every run of a scenario comes to its end. -/
theorem isOver_of_mem_endsWith (fresh : Broker.create ids strategy = .ok w)
    (le : Step.fuel (weights steps) ≤ fuel) : ∀ e ∈ endsWith fuel w steps, e.isOver = true := by
  have world : w.Solvent (2 * weights steps + 8) _ 0 := .fresh fresh
  refine isOver_of_solvent world ?_ ?_
  · rw [Nat.zero_add]
    exact coversCalls_price _
  · rw [Nat.zero_add]
    exact Nat.le_trans (price_le_fuel _) le

/-- Runs that have come to their ends are the same with more fuel. -/
theorem endsWith_of_isOver (ended : ∀ e ∈ endsWith fuel w steps, e.isOver = true) (more : Nat) :
    endsWith (fuel + more) w steps = endsWith fuel w steps := by
  induction steps generalizing w with
  | nil => rfl
  | cons s rest ih =>
    have first : Execution.run (fuel + more) (s.start w) = Execution.run fuel (s.start w) := by
      rw [run_add, run_of_isOver (ended _ List.mem_cons_self)]
    have later := ih fun e he => ended e (List.mem_cons_of_mem _ he)
    simp only [endsWith, first, later]

/-- With more fuel a scenario does the same. -/
theorem runAll_eq_of_le (fresh : Broker.create ids strategy = .ok w)
    (le : Step.fuel (weights steps) ≤ fuel) :
    (endsWith fuel w steps).map (·.report) = runAll w steps := by
  obtain ⟨more, rfl⟩ := Nat.exists_eq_add_of_le le
  rw [endsWith_of_isOver (isOver_of_mem_endsWith fresh (Nat.le_refl _)), runAll]

/-- The moments of the runs of steps, in order. -/
def pastWith (fuel : Nat) : World → List Step → List Execution
  | _, [] => []
  | w, s :: rest =>
    (s.start w).trail fuel ++ pastWith fuel (Execution.run fuel (s.start w)).world rest

/-- The world that the runs of steps leave. -/
def worldWith (fuel : Nat) : World → List Step → World
  | w, [] => w
  | w, s :: rest => worldWith fuel (Execution.run fuel (s.start w)).world rest

/-- The moments of a scenario, in order. At the first one there is nothing to be done yet. -/
def past (w : World) (steps : List Step) : List Execution :=
  .start w .done :: pastWith (Step.fuel (weights steps)) w steps

/-- The world that a scenario leaves. -/
def worldAfter (w : World) (steps : List Step) : World :=
  worldWith (Step.fuel (weights steps)) w steps

/-- Runs of steps go on with a course if they come to their ends. -/
theorem course_pastWith {before : List Execution} {e : Execution} (c : Course w before e)
    (stopped : e.isOver = true) (ended : ∀ x ∈ endsWith fuel e.world steps, x.isOver = true) :
    ∃ e', Course w (before ++ pastWith fuel e.world steps) e' ∧ e'.isOver = true ∧
      e'.world = worldWith fuel e.world steps := by
  induction steps generalizing before e with
  | nil => exact ⟨e, by rwa [pastWith, List.append_nil], stopped, rfl⟩
  | cons s rest ih =>
    have first := (c.next stopped [] (s.toplevel e.world.broker.strategy)).run fuel
    obtain ⟨e', later, stopped', world⟩ := ih first (ended _ List.mem_cons_self)
      fun x hx => ended x (List.mem_cons_of_mem _ hx)
    rw [List.append_assoc] at later
    exact ⟨e', later, stopped', world⟩

/-- A scenario is a course of its broker, in which all programs have come to their ends. -/
theorem exists_course (fresh : Broker.create ids strategy = .ok w) :
    ∃ e, Course w (past w steps) e ∧ e.isOver = true ∧ e.world = worldAfter w steps :=
  course_pastWith (Course.start (w := w) .done).step rfl (isOver_of_mem_endsWith fresh (Nat.le_refl _))

end

end Step

/-- Calls with the same messages give a step the same to read. -/
theorem Call.map_data_eq {call call' : Option Call} {f : Call → Call}
    (same : call.map f = call'.map f) (keeps : ∀ c, (f c).message = c.message) :
    call.map (fun c => c.message.data) = call'.map fun c => c.message.data := by
  have read := congrArg (Option.map fun c => c.message.data) same
  simpa only [Option.map_map, Function.comp_def, keeps] using read

end TopicBroker
