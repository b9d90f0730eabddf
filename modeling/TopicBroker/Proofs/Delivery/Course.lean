import TopicBroker.Proofs.Delivery.Effect
import TopicBroker.Proofs.Registry.Coherence

/-!
# The course of a broker

Programs run in the world of a broker one after the other, each of them step by step; a program that
was aborted by a panic does not hinder the next one. A course is a present execution together with
its past: the executions of which a step was made, in order. What happened so far is read off the
acts of the past. Main statements: the registry is the replay of the changes in the past, so it is
coherent at every moment, and what every step keeps is kept over any part of a course.
-/

namespace TopicBroker

open Execution

/-- The executions to which programs lead that run in a world one after the other, with the
executions of which a step was made. The history may be read and cleared between two programs. -/
inductive Course (w : World) : List Execution → Execution → Prop
  /-- The first program starts. -/
  | start (program : Program) : Course w [] (.start w program)
  /-- A step is made. -/
  | step {past : List Execution} {e : Execution} (c : Course w past e) :
    Course w (past ++ [e]) e.step
  /-- The next program starts in the world that the last one left. -/
  | next {past : List Execution} {e : Execution} (c : Course w past e) (ended : e.isOver = true)
      (history : List Event) (program : Program) :
    Course w past (.start { e.world with history } program)

/-- The executions of which a run of at most so many steps makes a step. -/
def Execution.trail : Nat → Execution → List Execution
  | 0, _ => []
  | n + 1, e => if e.isOver then [] else e :: trail n e.step

namespace Execution

/-- A run that is over makes no further steps. -/
theorem trail_of_isOver {e : Execution} (h : e.isOver = true) (n : Nat) : e.trail n = [] := by
  cases n with
  | zero => rfl
  | succ n => simp [trail, h]

/-- The steps of a run can be cut where the run is cut. -/
theorem trail_add (m n : Nat) (e : Execution) :
    e.trail (m + n) = e.trail m ++ (Execution.run m e).trail n := by
  induction m generalizing e with
  | zero => simp [trail, Execution.run]
  | succ m ih =>
    rw [Nat.add_right_comm]
    by_cases ended : e.isOver = true
    · rw [trail_of_isOver ended, trail_of_isOver ended, run_of_isOver ended, trail_of_isOver ended,
        List.nil_append]
    · simp only [trail, Execution.run, ended, if_false, List.cons_append, Bool.false_eq_true]
      rw [ih]

end Execution

namespace Course

variable {w : World} {past before after : List Execution} {d e : Execution}

/-- A run goes on with a course. -/
theorem run (c : Course w past e) (n : Nat) :
    Course w (past ++ e.trail n) (Execution.run n e) := by
  induction n generalizing past e with
  | zero => simpa [trail, Execution.run] using c
  | succ n ih =>
    unfold trail Execution.run
    split
    · simpa using c
    · have rest := ih c.step
      rwa [List.append_assoc, List.singleton_append] at rest

/-- Every execution of the past has a course of its own. -/
theorem at_past (c : Course w (before ++ d :: after) e) : Course w before d := by
  generalize eq : before ++ d :: after = past at c
  induction c generalizing after with
  | start program => simp at eq
  | @step past x c ih =>
    rcases List.eq_nil_or_concat after with rfl | ⟨rest, last, rfl⟩
    · obtain ⟨rfl, same⟩ := List.append_inj' eq rfl
      cases same
      exact c
    · rw [List.concat_eq_append, ← List.cons_append, ← List.append_assoc] at eq
      exact ih (List.append_inj' eq rfl).1
  | next c ended history program ih => exact ih eq

/-- Every execution since a moment of the past has a course through this moment. -/
theorem at_later {x : Execution} (c : Course w (before ++ d :: after) e) (later : x ∈ after) :
    ∃ between rest, after = between ++ x :: rest ∧ Course w (before ++ d :: between) x := by
  obtain ⟨between, rest, rfl⟩ := List.append_of_mem later
  rw [← List.cons_append, ← List.append_assoc] at c
  exact ⟨between, rest, rfl, c.at_past⟩

/-- What holds after a step of the past and is kept by every later step and by the start of programs
holds at the end. It may depend on the steps that were made since then. -/
theorem since {P : List Execution → Execution → Prop} (c : Course w (before ++ d :: after) e)
    (first : P [] d.step)
    (step : ∀ later x, Course w (before ++ d :: later) x → P later x → P (later ++ [x]) x.step)
    (next : ∀ later x history program, Course w (before ++ d :: later) x → x.isOver = true →
      P later x → P later (.start { x.world with history } program)) : P after e := by
  generalize eq : before ++ d :: after = past at c
  -- the past grows at its end only, so either `d` was the last one to make a step or it still stands
  -- in front of the last one
  induction c generalizing after with
  | start program => simp at eq
  | @step past x c ih =>
    rcases List.eq_nil_or_concat after with rfl | ⟨rest, last, rfl⟩
    · obtain ⟨rfl, same⟩ := List.append_inj' eq rfl
      cases same
      exact first
    · rw [List.concat_eq_append, ← List.cons_append, ← List.append_assoc] at eq
      obtain ⟨rfl, same⟩ := List.append_inj' eq rfl
      cases same
      rw [List.concat_eq_append]
      exact step rest _ c (ih rfl)
  | @next past x c ended history program ih =>
    subst eq
    exact next after x history program c ended (ih rfl)

/-- What holds after a step of the past and is kept by every later step and by the start of programs
holds at the end. -/
theorem carry {P : Execution → Prop} (c : Course w (before ++ d :: after) e) (first : P d.step)
    (kept : ∀ x ∈ after, P x → P x.step)
    (started : ∀ x history program, P x → P (.start { x.world with history } program)) : P e := by
  have run : (∀ x ∈ after, P x → P x.step) → P e := by
    refine c.since (P := fun later x => (∀ y ∈ later, P y → P y.step) → P x) ?_ ?_ ?_
    · intro kept
      exact first
    · intro later x _ ih kept
      exact kept x (by simp) (ih fun y hy => kept y (List.mem_append_left _ hy))
    · intro later x history program _ _ ih kept
      exact started x history program (ih kept)
  exact run kept

end Course

/-- A new broker stands in the world of a broker in which nothing has happened. -/
theorem Broker.eq_world_of_create {ids : Option IdSource} {strategy : MatchStrategy} {w : World}
    (h : Broker.create ids strategy = .ok w) :
    ∃ source, ids = some source ∧ w = Broker.world { strategy, ids := source } := by
  cases ids with
  | none => simp [Broker.create] at h
  | some source =>
    cases h
    exact ⟨source, rfl, rfl⟩

/-- The world of a new broker that takes patterns for names and counts its ids. -/
def World.plain : World := Broker.world { strategy := .exact, ids := .counted "id" }

theorem World.create_plain : Broker.create (some (.counted "id")) .exact = .ok World.plain := rfl

/-- The changes that were made in the past, with what the handlers accepted at these moments. -/
def changeLog (past : List Execution) : List (MadeChange Handler) :=
  past.filterMap fun e => e.act.change?.map fun change => ⟨e.world.accepts, change⟩

/-- The changes that were made in the past. -/
def changes (past : List Execution) : List (Change Handler) := (changeLog past).map (·.change)

@[simp] theorem changeLog_nil : changeLog [] = [] := rfl

theorem changeLog_append (past later : List Execution) :
    changeLog (past ++ later) = changeLog past ++ changeLog later := by
  simp [changeLog, List.filterMap_append]

/-- A step logs the change that it makes. -/
theorem changeLog_singleton (e : Execution) :
    changeLog [e] = (e.act.change?.map fun change =>
      (⟨e.world.accepts, change⟩ : MadeChange Handler)).toList := by
  unfold changeLog
  cases h : e.act.change? <;> simp [h]

namespace Course

variable {w : World} {past before after : List Execution} {d e : Execution}
  {ids : Option IdSource} {strategy : MatchStrategy}

/-- At every moment of a course the registry is the replay of the changes in the past. -/
theorem registry_eq_replay (fresh : Broker.create ids strategy = .ok w) (c : Course w past e) :
    e.world.broker.registry = Registry.replay (changeLog past) := by
  induction c with
  | start program =>
    obtain ⟨source, -, rfl⟩ := Broker.eq_world_of_create fresh
    rfl
  | @step past e c ih =>
    rw [(move e).registry, changeLog_append, changeLog_singleton, ih]
    cases e.act.change? <;> simp
  | next c ended history program ih => exact ih

/-- At every moment of a course the registry is coherent. -/
theorem coherent (fresh : Broker.create ids strategy = .ok w) (c : Course w past e) :
    e.world.broker.registry.Coherent := by
  rw [c.registry_eq_replay fresh]
  exact Registry.coherent_replay _

/-- The numbers of registrations only grow. -/
theorem lastSeq_le (c : Course w (before ++ d :: after) e) :
    d.world.broker.registry.lastSeq ≤ e.world.broker.registry.lastSeq := by
  have step (x : Execution) :
      x.world.broker.registry.lastSeq ≤ x.step.world.broker.registry.lastSeq := by
    rw [(move x).registry]
    cases x.act.change? with
    | none => exact Nat.le_refl _
    | some change =>
      rw [Option.map_some, Option.getD_some, Registry.lastSeq_apply]
      omega
  refine c.carry
    (P := fun x => d.world.broker.registry.lastSeq ≤ x.world.broker.registry.lastSeq) ?_ ?_
    fun _ _ _ h => h
  · exact step d
  · intro x _ below
    exact Nat.le_trans below (step x)

/-- What holds of the registry after a change of the past and is kept by all later changes holds at
the end. -/
theorem carry_registry {P : Registry Handler → Prop} {change : Change Handler}
    (c : Course w (before ++ d :: after) e) (made : d.act.change? = some change)
    (first : P (d.world.broker.registry.apply d.world.accepts change))
    (kept : ∀ x ∈ after, ∀ change, x.act.change? = some change → P x.world.broker.registry →
      P (x.world.broker.registry.apply x.world.accepts change)) : P e.world.broker.registry := by
  refine c.carry (P := fun x => P x.world.broker.registry) ?_ ?_ fun _ _ _ h => h
  · rw [(move d).registry, made]
    exact first
  · intro x hx held
    rw [(move x).registry]
    cases made : x.act.change? with
    | none => exact held
    | some change => exact kept x hx change made held

/-- The context of a name stays over any part of a course in which none is kept under it. -/
theorem named_eq (c : Course w (before ++ d :: after) e) {name : String}
    (other : ∀ x ∈ d :: after, ¬ x.act.Keeps name) :
    e.world.contexts.named.get? name = d.world.contexts.named.get? name := by
  refine c.carry
    (P := fun x => x.world.contexts.named.get? name = d.world.contexts.named.get? name) ?_ ?_
    fun _ _ _ h => h
  · exact (move d).named (other d List.mem_cons_self)
  · intro x hx held
    rw [(move x).named (other x (List.mem_cons_of_mem _ hx)), held]

end Course

end TopicBroker
