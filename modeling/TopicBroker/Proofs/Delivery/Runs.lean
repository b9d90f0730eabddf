import TopicBroker.Proofs.Delivery.Calls

/-!
# A publication in a run

What is known of a publication over a whole course holds for the run that goes on from any execution
whose stack is in order: the run need not be part of a course from the first program on. So two runs
can be compared that go on from the same moment with different publications.
-/

namespace TopicBroker

namespace Execution

/-- One step more. -/
theorem run_succ (n : Nat) (e : Execution) : run (n + 1) e = (run n e).step := by
  rw [run_add n 1]
  by_cases ended : (run n e).isOver = true
  · rw [run_of_isOver ended, step_of_isOver ended]
  · simp [run, ended]

/-- The first step before the others, if there is one. -/
theorem run_step {e : Execution} (goesOn : e.isOver = false) (n : Nat) :
    run (n + 1) e = run n e.step := by
  simp [run, goesOn]

/-- A run of one step makes the first one. -/
theorem trail_one {e : Execution} (goesOn : e.isOver = false) : e.trail 1 = [e] := by
  simp [trail, goesOn]

/-- The first moment before the others, if a step is made at it. -/
theorem trail_step {e : Execution} (goesOn : e.isOver = false) (n : Nat) :
    e.trail (n + 1) = e :: e.step.trail n := by
  simp [trail, goesOn]

/-- The steps of a run are made at its moments. -/
theorem exists_of_mem_trail {n : Nat} {e x : Execution} (hx : x ∈ e.trail n) :
    ∃ m < n, x = run m e := by
  induction n generalizing e with
  | zero => exact absurd hx List.not_mem_nil
  | succ n ih =>
    unfold trail at hx
    split at hx
    · exact absurd hx List.not_mem_nil
    · next goesOn =>
      rcases List.mem_cons.mp hx with rfl | later
      · exact ⟨0, Nat.succ_pos n, rfl⟩
      · obtain ⟨m, lt, rfl⟩ := ih later
        rw [Bool.not_eq_true] at goesOn
        exact ⟨m + 1, Nat.succ_lt_succ lt, (run_step goesOn m).symm⟩

/-- The steps up to a moment are among those up to a later one. -/
theorem trail_prefix {m n : Nat} (le : m ≤ n) (e : Execution) : e.trail m <+: e.trail n := by
  obtain ⟨k, rfl⟩ := Nat.exists_eq_add_of_le le
  rw [trail_add]
  exact List.prefix_append _ _

/-- Two runs that have come to their ends have come to the same end by the same steps. -/
theorem run_eq_of_isOver {m n : Nat} {e : Execution} (ended : (run m e).isOver = true)
    (ended' : (run n e).isOver = true) : run m e = run n e ∧ e.trail m = e.trail n := by
  have longer {m : Nat} (ended : (run m e).isOver = true) (k : Nat) :
      run m e = run (m + k) e ∧ e.trail m = e.trail (m + k) := by
    rw [run_add, run_of_isOver ended, trail_add, trail_of_isOver ended, List.append_nil]
    exact ⟨rfl, rfl⟩
  rcases Nat.le_total m n with le | le
  · obtain ⟨k, rfl⟩ := Nat.exists_eq_add_of_le le
    exact longer ended k
  · obtain ⟨k, rfl⟩ := Nat.exists_eq_add_of_le le
    obtain ⟨same, steps⟩ := longer ended' k
    exact ⟨same.symm, steps.symm⟩

/-- Where nothing happens any more, no step does anything. -/
theorem act_of_isOver {e : Execution} (ended : e.isOver = true) : e.act = .rest := by
  unfold isOver at ended
  unfold act
  split at ended
  · next eq => simp [eq]
  · next eq => simp [eq]
  · cases ended

/-- Where a step does something, the run goes on. -/
theorem isOver_of_act {e : Execution} {a : Act} (does : e.act = a) (ne : a ≠ .rest) :
    e.isOver = false := by
  by_contra ended
  rw [Bool.not_eq_false] at ended
  exact ne (does.symm.trans (act_of_isOver ended))

variable {d : Execution} {l : Lookup}

/-- At every moment after a publication has found its topic, the stack is in order, and the
publication has come as far as its acts say. -/
theorem delivery_run (sound : d.Sound) (publishes : d.act = .publish l) (n : Nat) :
    (run n d.step).Sound ∧ l.number ≤ (run n d.step).world.publications ∧
      l.Delivery d.frames (record l.number (d.step.trail n)) (run n d.step).frames := by
  have m := move d
  rw [publishes] at m
  have under : ∀ g ∈ d.frames, g.publication < l.number := by
    intro g hg
    rw [Lookup.number, m.lookup_world]
    exact Nat.lt_succ_of_le (sound.numbered g hg)
  induction n with
  | zero =>
    refine ⟨m.sound sound, ?_, ?_⟩
    · have counted := m.publications
      rw [Lookup.number, m.lookup_world]
      exact Nat.le_of_eq counted.symm
    · change l.Delivery d.frames [] d.step.frames
      rw [m.frames_publish]
      exact Lookup.Delivery.between [] rfl
  | succ n ih =>
    obtain ⟨sound', known, delivery⟩ := ih
    rw [run_succ, trail_add, record_append]
    have m' := move (run n d.step)
    refine ⟨m'.sound sound', Nat.le_trans known m'.publications_le, ?_⟩
    have next := delivery.step m' sound' known under
    by_cases ended : (run n d.step).isOver = true
    · rwa [trail_of_isOver ended, record_nil, List.append_nil, step_of_isOver ended]
    · have share : record l.number ((run n d.step).trail 1) =
          (run n d.step).act.shareOf l.number := by
        rw [← record_singleton]
        simp [trail, ended]
      rwa [share]

/-- Every call that a publication makes in a run serves it. -/
theorem serves_run (sound : d.Sound) (publishes : d.act = .publish l) {n : Nat} {i : Invocation}
    (called : (run n d).act = .call i) (own : i.publication = l.number) : i.Serves l := by
  cases n with
  | zero =>
    have same : d.act = .call i := called
    rw [publishes] at same
    cases same
  | succ n =>
    rw [run_step (isOver_of_act publishes (by simp))] at called
    obtain ⟨-, -, delivery⟩ := delivery_run sound publishes n
    have m := move (run n d.step)
    rw [called] at m
    exact delivery.serves m own

end Execution

end TopicBroker
