import TopicBroker.Proofs.Delivery.Invisibility
import TopicBroker.Proofs.Scenario.Runs

/-!
# Registrations inserted into scenarios

A scenario notes the answers that it gets and goes on in the same way whatever they are. So a
registration under a key that is not used otherwise can be inserted anywhere, between two steps or
inside of the body of a handler, and the programs of the steps are padded then. If only bystanders
are registered in this way, both scenarios are seen to do the same.
-/

namespace TopicBroker

open Execution

/-- Whether a step is no registration and does not take the handler of a key out. -/
def Step.leaves (key : String) : Step → Bool
  | .ask (.deregisterHandler other) => other != key
  | .registerHandler .. => false
  | _ => true

/-- Steps into which registrations under a key are inserted, also inside of the bodies of handlers.
The key is not used otherwise. -/
inductive Step.Inserted (key : String) : List Step → List Step → Prop
  /-- Nothing is left to do. -/
  | nil : Inserted key [] []
  /-- A step stays as it is. -/
  | keep {s : Step} {rest rest' : List Step} (unused : s.leaves key = true)
      (later : Inserted key rest rest') : Inserted key (s :: rest) (s :: rest')
  /-- A handler is registered under another key, and its body is changed. -/
  | register {other pattern : String} {matcher : MatcherChoice} {limit : Nat}
      {body body' rest rest' : List Step} (ne : other ≠ key) (bodies : Inserted key body body')
      (later : Inserted key rest rest') :
    Inserted key (.registerHandler other pattern matcher limit body :: rest)
      (.registerHandler other pattern matcher limit body' :: rest')
  /-- A registration is inserted. -/
  | insert {pattern : String} {matcher : MatcherChoice} {limit : Nat} {body rest rest' : List Step}
      (later : Inserted key rest rest') :
    Inserted key rest (.registerHandler key pattern matcher limit body :: rest')

section

variable {key : String} {call call' : Option Call} {resume resume' : Correlation → Program}

/-- Programs are padded that get hold of a context and go on padded. -/
theorem Program.padded_withContext {op : Operation} (compared : op.isNote = false)
    (other : op ≠ .deregisterHandler key) (shown : ∀ a, op.besides key a = a)
    (goesOn : ∀ c, (resume c).Padded key (resume' c)) :
    (Program.withContext op resume).Padded key (.withContext op resume') := by
  refine .perform compared other fun a a' same => ?_
  rw [shown, shown] at same
  subst same
  cases a with
  | context c => exact goesOn c
  | _ => exact .done

/-- The same holds of a step that uses a context, whichever it is. -/
theorem ContextChoice.padded_resolve (choice : ContextChoice)
    (same : call.map (·.unnumbered) = call'.map (·.unnumbered))
    (goesOn : ∀ c, (resume c).Padded key (resume' c)) :
    (choice.resolve call resume).Padded key (choice.resolve call' resume') := by
  cases choice with
  | given =>
    cases call with
    | none =>
      cases call' with
      | none => exact Program.padded_withContext rfl (by simp) (fun _ => rfl) goesOn
      | some call' => cases same
    | some call =>
      cases call' with
      | none => cases same
      | some call' =>
        have unnumbered : call.unnumbered = call'.unnumbered := Option.some.inj same
        have context : call.context = call'.context := congrArg (·.context) unnumbered
        simp only [resolve, context]
        exact goesOn _
  | named name => exact Program.padded_withContext rfl (by simp) (fun _ => rfl) goesOn
  | fresh txId source cancelled =>
    refine Program.padded_withContext rfl (by simp) (fun _ => rfl) fun c => ?_
    cases cancelled with
    | true => exact .perform rfl (by simp) fun _ _ _ => goesOn _
    | false => exact goesOn _

/-- A step that is no registration goes on whatever it is answered. -/
theorem Step.padded_program (strategy : MatchStrategy) {s : Step} (unused : s.leaves key = true)
    (same : call.map (·.unnumbered) = call'.map (·.unnumbered)) {next next' : Answer → Program}
    (goesOn : ∀ a a', (next a).Padded key (next' a')) :
    (s.program strategy call next).Padded key (s.program strategy call' next') := by
  have data := Call.map_data_eq same fun _ => rfl
  cases s with
  | ask op =>
    simp only [Step.program]
    cases notes : op.isNote with
    | true =>
      cases op with
      | note call action answer => exact .noteLeft (.noteRight (goesOn _ _))
      | _ => cases notes
    | false =>
      refine .perform notes ?_ fun a a' _ => goesOn a a'
      rintro rfl
      simp [Step.leaves] at unused
  | registerHandler => cases unused
  | publish form topic context own guarded =>
    have payload : form.data call own = form.data call' own := by
      cases form <;> simp only [PublishForm.data, data]
    simp only [Step.program, payload]
    exact context.padded_resolve same fun c => .publish fun a => goesOn a a
  | keepDerived name origin txId source =>
    simp only [Step.program]
    have later (c : Correlation) :
        (Program.perform (.keepContext name c) fun _ => .perform (.viewContext c) next).Padded key
          (.perform (.keepContext name c) fun _ => .perform (.viewContext c) next') :=
      .perform rfl (by simp) fun _ _ _ => .perform rfl (by simp) fun a a' _ => goesOn a a'
    cases origin with
    | none => exact Program.padded_withContext rfl (by simp) (fun _ => rfl) fun c => later _
    | some origin => exact Program.padded_withContext rfl (by simp) (fun _ => rfl) fun c => later _
  | showContext context =>
    simp only [Step.program]
    exact context.padded_resolve same fun c => .perform rfl (by simp) fun a a' _ => goesOn a a'
  | cancel context =>
    simp only [Step.program]
    exact context.padded_resolve same fun c => .perform rfl (by simp) fun a a' _ => goesOn a a'
  | keepGiven name =>
    simp only [Step.program]
    exact ContextChoice.given.padded_resolve same fun c =>
      .perform rfl (by simp) fun a a' _ => goesOn a a'
  | read kind =>
    simp only [Step.program]
    exact goesOn _ _
  | panic message guarded =>
    cases guarded with
    | true =>
      simp only [Step.program, if_true]
      exact goesOn _ _
    | false =>
      simp only [Step.program]
      exact .panic message

/-- Bodies are padded that are padded at the first calls and do nothing later. -/
theorem Program.padded_limited {body body' : Call → Program} (limit : Nat)
    (bodies : ∀ d d', d.unnumbered = d'.unnumbered → (body d).Padded key (body' d')) (d d' : Call)
    (same : d.unnumbered = d'.unnumbered) :
    (if d.id.number ≤ limit then body d else .done).Padded key
      (if d'.id.number ≤ limit then body' d' else .done) := by
  have number : d.id.number = d'.id.number := congrArg (·.id.number) same
  rw [number]
  split
  · exact bodies d d' same
  · exact .done

end

variable {key : String} {steps steps' : List Step}

/-- The body of a handler is padded when registrations are inserted into it. -/
theorem Step.Inserted.padded_body (h : Inserted key steps steps') (strategy : MatchStrategy)
    {c c' : Call} (same : c.unnumbered = c'.unnumbered) :
    (Step.body strategy c steps).Padded key (Step.body strategy c' steps') := by
  -- the calls vary because a body that is registered is called later
  induction h generalizing c c' with
  | nil =>
    simp only [Step.body]
    exact .done
  | keep unused later ih =>
    simp only [Step.body]
    have called : (some c).map (·.unnumbered) = (some c').map (·.unnumbered) := congrArg some same
    exact Step.padded_program strategy unused called fun a a' => .noteLeft (.noteRight (ih same))
  | @register _ _ _ limit _ _ _ _ ne bodies later ihBody ih =>
    simp only [Step.body, Step.program]
    exact .subscribe ne (Program.padded_limited limit fun d d' => ihBody)
      (.noteLeft (.noteRight (ih same)))
  | insert later ih =>
    simp only [Step.body, Step.program]
    exact .insert (.noteRight (ih same))

/-- The program of a step is padded when registrations are inserted into it. -/
theorem Step.Inserted.padded_toplevel {s s' : Step} (h : Inserted key [s] [s'])
    (strategy : MatchStrategy) :
    (s.toplevel strategy).Padded key (s'.toplevel strategy) := by
  have noted {p p' : Program} (ended : p.Padded key p') (a a' : Answer) :
      (Program.perform (.note none s.name a) fun _ => p).Padded key
        (.perform (.note none s'.name a') fun _ => p') := .noteLeft (.noteRight ended)
  cases h with
  | keep unused => exact Step.padded_program strategy unused rfl (noted .done)
  | register ne bodies later =>
    simp only [Step.toplevel, Step.program]
    exact .subscribe ne (Program.padded_limited _ fun d d' => bodies.padded_body strategy)
      (noted .done _ _)
  | insert later => cases later

/-- A registration under the key between two steps is padding. -/
theorem Step.padded_insert (strategy : MatchStrategy) (pattern : String) (matcher : MatcherChoice)
    (limit : Nat) (body : List Step) :
    Program.done.Padded key
      ((Step.registerHandler key pattern matcher limit body).toplevel strategy) := by
  simp only [Step.toplevel, Step.program]
  exact .insert (.noteRight .done)

variable {w : World} {ids : Option IdSource} {strategy : MatchStrategy}

namespace Step

variable {fuel fuel' : Nat} {v : World} {before : List Execution} {x : Execution}

/-- The first of the steps stands in both lists, perhaps with another body, or it is inserted. -/
theorem Inserted.of_cons {s' : Step} {rest' : List Step} (h : Inserted key steps (s' :: rest')) :
    (∃ s rest, steps = s :: rest ∧ Inserted key [s] [s'] ∧ Inserted key rest rest') ∨
      (∀ strategy, Program.done.Padded key (s'.toplevel strategy)) ∧ Inserted key steps rest' := by
  cases h with
  | keep unused later => exact .inl ⟨_, _, rfl, .keep unused .nil, later⟩
  | register ne bodies later => exact .inl ⟨_, _, rfl, .register ne bodies .nil, later⟩
  | insert later => exact .inr ⟨fun strategy => padded_insert strategy _ _ _ _, later⟩

/-- Runs of steps into which bystanders are inserted are seen to do the same, if they all come to
their ends. -/
theorem Inserted.sightings_pastWith (h : Inserted key steps steps')
    (fresh : Broker.create ids strategy = .ok w) (c : Course w before x)
    (stopped : x.isOver = true) (worlds : ∃ f pairs, v.Beside key f pairs x.world)
    (bystanders : Bystanders key (before ++ pastWith fuel' x.world steps'))
    (ended : ∀ e ∈ endsWith fuel v steps, e.isOver = true)
    (ended' : ∀ e ∈ endsWith fuel' x.world steps', e.isOver = true) :
    sightings key (pastWith fuel v steps) = sightings key (pastWith fuel' x.world steps') ∧
      ∃ f pairs, (worldWith fuel v steps).Beside key f pairs
        (worldWith fuel' x.world steps') := by
  induction steps' generalizing steps v before x with
  | nil =>
    cases h
    exact ⟨rfl, worlds⟩
  | cons s' rest' ih =>
    rw [pastWith, ← List.append_assoc] at bystanders
    rw [endsWith, List.forall_mem_cons] at ended'
    have goesOn := (c.next stopped [] (s'.toplevel x.world.broker.strategy)).run fuel'
    obtain ⟨f, pairs, beside⟩ := worlds
    rcases h.of_cons with ⟨s, rest, rfl, one, later⟩ | ⟨inserted, later⟩
    · have padded : (s.toplevel v.broker.strategy).Padded key
          (s'.toplevel x.world.broker.strategy) := by
        rw [beside.strategy]
        exact one.padded_toplevel _
      have start : (s.start v).Beside key (s'.start x.world) :=
        ⟨f, pairs, beside.withHistory [] [], .nil, .running padded⟩
      rw [endsWith, List.forall_mem_cons] at ended
      obtain ⟨same, now⟩ := start.ends_beside fresh (c.next stopped [] _) bystanders.of_append
        ended.1 ended'.1
      obtain ⟨same', after⟩ := ih later goesOn ended'.1 now.worlds bystanders ended.2 ended'.2
      rw [pastWith, pastWith, sightings_append, sightings_append, same, same']
      exact ⟨rfl, after⟩
    · have start : (Execution.start v .done).Beside key (s'.start x.world) :=
        ⟨f, pairs, beside.withHistory v.history [], .nil, .running (inserted _)⟩
      obtain ⟨same, now⟩ := start.ends_beside (m := 1) fresh (c.next stopped [] _)
        bystanders.of_append rfl ended'.1
      obtain ⟨same', after⟩ :=
        ih (v := v) later goesOn ended'.1 now.worlds bystanders ended ended'.2
      rw [pastWith, sightings_append, ← same, same']
      exact ⟨rfl, after⟩

/-- A scenario into which bystanders are inserted is seen to do the same on a new broker. Whatever
is asked afterwards is answered the same, if it is not about the key. -/
theorem Inserted.sightings_past (h : Inserted key steps steps')
    (fresh : Broker.create ids strategy = .ok w) (bystanders : Bystanders key (past w steps')) :
    sightings key (past w steps) = sightings key (past w steps') ∧
      ∀ op : Operation, op ≠ .deregisterHandler key → op ≠ .subscriptionsOf key →
        op.besides key ((worldAfter w steps).perform op).2 =
          op.besides key ((worldAfter w steps').perform op).2 := by
  have itself : ∃ f pairs, w.Beside key f pairs w := by
    obtain ⟨source, -, rfl⟩ := Broker.eq_world_of_create fresh
    exact ⟨_, _, .fresh strategy source⟩
  obtain ⟨same, f, pairs, worlds⟩ := h.sightings_pastWith fresh (Course.start .done).step rfl itself
    bystanders (isOver_of_mem_endsWith fresh (Nat.le_refl _))
    (isOver_of_mem_endsWith fresh (Nat.le_refl _))
  refine ⟨?_, fun op other own => worlds.answer_eq other fun asks => absurd asks own⟩
  rw [past, past, sightings_cons, sightings_cons]
  exact congrArg _ same

end Step

end TopicBroker
