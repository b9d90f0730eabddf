import TopicBroker.Proofs.Delivery.Noninterference
import TopicBroker.Proofs.Scenario.Runs

/-!
# Scenarios do not depend on switches

A scenario can cancel contexts and look at them, but what it sees is noted and nothing else. So two
scenarios whose programs are the same but for the steps that cancel contexts, between other steps or
inside of the bodies of handlers, are observed to do the same, and they leave worlds that are alike.
-/

namespace TopicBroker

open Execution

/-- Whether a step registers a handler. -/
def Step.isRegistration : Step → Bool
  | .registerHandler .. => true
  | _ => false

/-- Steps that are the same but for those that cancel contexts, also inside of the bodies of
handlers. Either side may cancel where the other one does not. -/
inductive Step.Recancelled : List Step → List Step → Prop
  /-- Nothing is left to do. -/
  | nil : Recancelled [] []
  /-- A step is the same. -/
  | keep {s : Step} {rest rest' : List Step} (plain : s.isRegistration = false)
      (later : Recancelled rest rest') : Recancelled (s :: rest) (s :: rest')
  /-- A handler is registered whose body is the same but for cancels. -/
  | register {key pattern : String} {matcher : MatcherChoice} {limit : Nat}
      {body body' rest rest' : List Step} (bodies : Recancelled body body')
      (later : Recancelled rest rest') :
    Recancelled (.registerHandler key pattern matcher limit body :: rest)
      (.registerHandler key pattern matcher limit body' :: rest')
  /-- Only the first side cancels a context. -/
  | left {context : ContextChoice} {rest rest' : List Step} (later : Recancelled rest rest') :
    Recancelled (.cancel context :: rest) rest'
  /-- Only the second side cancels a context. -/
  | right {context : ContextChoice} {rest rest' : List Step} (later : Recancelled rest rest') :
    Recancelled rest (.cancel context :: rest')

section

variable {call call' : Option Call} {resume resume' : Correlation → Program}

/-- Values can be set on contexts without looking at their families. -/
theorem Correlation.bare_withValues {c c' : Correlation} (same : c.bare = c'.bare)
    (txId source : Option String) :
    (c.withValues txId source).bare = (c'.withValues txId source).bare := by
  obtain ⟨sameTx, sameSource⟩ := bare_eq_bare_iff.mp same
  rw [bare_eq_bare_iff, withValues, withValues, sameTx, sameSource]
  exact ⟨rfl, rfl⟩

/-- Programs are alike that get hold of a context and go on alike, whatever its switch shows. -/
theorem Program.alike_withContext {op : Operation}
    (gives : ∀ w : World, ∃ c, (w.perform op).2 = .context c)
    (goesOn : ∀ c c', c.bare = c'.bare → (resume c).Alike (resume' c')) :
    (Program.withContext op resume).Alike (.withContext op resume') := by
  refine .perform (.refl op) ?_
  rintro _ _ ⟨w, rfl⟩ ⟨w', rfl⟩ same
  obtain ⟨c, answer⟩ := gives w
  obtain ⟨c', answer'⟩ := gives w'
  rw [answer, answer'] at same ⊢
  exact goesOn c c' (Answer.context.inj same)

/-- The same holds of a step that uses a context, whichever it is. -/
theorem ContextChoice.alike_resolve (choice : ContextChoice)
    (same : call.map (·.bare) = call'.map (·.bare))
    (goesOn : ∀ c c', c.bare = c'.bare → (resume c).Alike (resume' c')) :
    (choice.resolve call resume).Alike (choice.resolve call' resume') := by
  cases choice with
  | given =>
    cases call with
    | none =>
      cases call' with
      | none => exact Program.alike_withContext (fun w => ⟨_, rfl⟩) goesOn
      | some call' => cases same
    | some call =>
      cases call' with
      | none => cases same
      | some call' =>
        exact goesOn _ _ (congrArg Call.context (Option.some.inj same))
  | named name => exact Program.alike_withContext (fun w => ⟨_, rfl⟩) goesOn
  | fresh txId source cancelled =>
    refine Program.alike_withContext (fun w => ⟨_, rfl⟩) fun c c' bare => ?_
    have values := Correlation.bare_withValues bare txId source
    cases cancelled with
    | true => exact .left rfl fun _ _ => .right rfl fun _ _ => goesOn _ _ values
    | false => exact goesOn _ _ values

/-- So are programs of which only the first one gets hold of a context, by a quiet operation. -/
theorem Program.alike_withContext_left {op : Operation} {p : Program} (quiet : op.isQuiet = true)
    (gives : ∀ w : World, ∃ c, (w.perform op).2 = .context c)
    (goesOn : ∀ c, (resume c).Alike p) : (Program.withContext op resume).Alike p := by
  refine .left quiet ?_
  rintro _ ⟨w, rfl⟩
  obtain ⟨c, answer⟩ := gives w
  rw [answer]
  exact goesOn c

/-- The same holds of a step of the first program that uses a context. -/
theorem ContextChoice.alike_resolve_left (choice : ContextChoice) (call : Option Call)
    {p : Program} (goesOn : ∀ c, (resume c).Alike p) : (choice.resolve call resume).Alike p := by
  cases choice with
  | given =>
    cases call with
    | none => exact Program.alike_withContext_left rfl (fun w => ⟨_, rfl⟩) goesOn
    | some call => exact goesOn _
  | named name => exact Program.alike_withContext_left rfl (fun w => ⟨_, rfl⟩) goesOn
  | fresh txId source cancelled =>
    refine Program.alike_withContext_left rfl (fun w => ⟨_, rfl⟩) fun c => ?_
    cases cancelled with
    | true => exact .left rfl fun _ _ => goesOn _
    | false => exact goesOn _

end

/-- The publication of a step is the same but for the family of its context. -/
theorem PublishForm.bare_publication (form : PublishForm) {c c' : Correlation}
    (same : c.bare = c'.bare) (topic : String) (data : Payload) :
    (form.publication c topic data).bare = (form.publication c' topic data).bare := by
  cases form <;> simp only [publication, Publication.bare, same]

/-- Bodies are alike that are alike at the first calls and do nothing later. -/
theorem Program.alike_limited {body body' : Call → Program} (limit : Nat)
    (bodies : ∀ c c', c.bare = c'.bare → (body c).Alike (body' c')) (c c' : Call)
    (same : c.bare = c'.bare) :
    (if c.id.number ≤ limit then body c else .done).Alike
      (if c'.id.number ≤ limit then body' c' else .done) := by
  have number : c.id.number = c'.id.number := congrArg (·.id.number) same
  rw [number]
  split
  · exact bodies c c' same
  · exact .done

namespace Step

variable {steps steps' : List Step}

/-- A step of a scenario goes on alike, whatever it sees of switches. -/
theorem alike_program (strategy : MatchStrategy) {s : Step} (plain : s.isRegistration = false)
    {call call' : Option Call} {next next' : Answer → Program}
    (same : call.map (·.bare) = call'.map (·.bare))
    (goesOn : ∀ a a', a.bare = a'.bare → (next a).Alike (next' a')) :
    (s.program strategy call next).Alike (s.program strategy call' next') := by
  have data := Call.map_data_eq same fun _ => rfl
  cases s with
  | ask op =>
    simp only [program]
    exact .perform (.refl op) fun a a' _ _ => goesOn a a'
  | registerHandler => cases plain
  | publish form topic context own guarded =>
    simp only [program]
    refine context.alike_resolve same fun c c' bare => .publish ?_ goesOn
    have payload : form.data call own = form.data call' own := by
      cases form <;> simp only [PublishForm.data, data]
    rw [payload]
    exact form.bare_publication bare topic _
  | keepDerived name origin txId source =>
    have fetches : ∀ w : World, ∃ c,
        (w.perform ((origin.map Operation.fetchContext).getD .startContext)).2 = .context c := by
      intro w
      cases origin with
      | none => exact ⟨_, rfl⟩
      | some origin => exact ⟨_, rfl⟩
    simp only [program]
    refine Program.alike_withContext fetches fun c c' bare => ?_
    have values := Correlation.bare_withValues bare txId source
    exact .perform (.keepContext name values) fun _ _ _ _ _ =>
      .perform (.viewContext values) fun a a' _ _ => goesOn a a'
  | showContext context =>
    simp only [program]
    exact context.alike_resolve same fun c c' bare =>
      .perform (.viewContext bare) fun a a' _ _ => goesOn a a'
  | cancel context =>
    simp only [program]
    refine context.alike_resolve same fun c c' _ => .left rfl ?_
    rintro _ ⟨w, rfl⟩
    refine .right rfl ?_
    rintro _ ⟨w', rfl⟩
    exact goesOn _ _ rfl
  | keepGiven name =>
    simp only [program]
    exact ContextChoice.given.alike_resolve same fun c c' bare =>
      .perform (.keepContext name bare) fun a a' _ _ => goesOn a a'
  | read kind =>
    simp only [program, data]
    exact goesOn _ _ rfl
  | panic message guarded =>
    cases guarded with
    | true =>
      simp only [program, if_true]
      exact goesOn _ _ rfl
    | false =>
      simp only [program]
      exact .panic message

/-- A step that cancels does nothing that the other program would have to do, too. -/
theorem alike_cancel_left (strategy : MatchStrategy) (context : ContextChoice)
    (call : Option Call) {next : Answer → Program} {p : Program}
    (goesOn : ∀ a, (next a).Alike p) :
    ((Step.cancel context).program strategy call next).Alike p := by
  simp only [program]
  exact context.alike_resolve_left call fun c => .left rfl fun a _ => goesOn a

/-- Bodies are alike that are the same but for cancels. -/
theorem Recancelled.alike_body (h : Recancelled steps steps') (strategy : MatchStrategy)
    {c c' : Call} (same : c.bare = c'.bare) :
    (Step.body strategy c steps).Alike (Step.body strategy c' steps') := by
  -- the calls vary because a body that is registered is called later
  induction h generalizing c c' with
  | nil =>
    simp only [body]
    exact .done
  | keep plain later ih =>
    have called : (some c).map (·.bare) = (some c').map (·.bare) := congrArg some same
    simp only [body]
    exact alike_program strategy plain called fun a a' _ =>
      .left rfl fun _ _ => .right rfl fun _ _ => ih same
  | register bodies later ihBody ih =>
    simp only [body, program]
    exact .subscribe (Program.alike_limited _ fun d d' => ihBody)
      (.left rfl fun _ _ => .right rfl fun _ _ => ih same)
  | left later ih =>
    simp only [body]
    exact alike_cancel_left strategy _ _ fun a => .left rfl fun _ _ => ih same
  | right later ih =>
    simp only [body]
    exact (alike_cancel_left strategy _ _ fun a => .left rfl fun _ _ => (ih same).symm).symm

/-- So are steps outside of all handlers, if they register no handler. -/
theorem alike_toplevel_of_keep (strategy : MatchStrategy) {s : Step}
    (plain : s.isRegistration = false) :
    (s.toplevel strategy).Alike (s.toplevel strategy) :=
  alike_program strategy plain rfl fun _ _ _ => .left rfl fun _ _ => .right rfl fun _ _ => .done

/-- So are steps that register handlers with such bodies. -/
theorem Recancelled.alike_toplevel (bodies : Recancelled steps steps') (strategy : MatchStrategy)
    (key pattern : String) (matcher : MatcherChoice) (limit : Nat) :
    ((registerHandler key pattern matcher limit steps).toplevel strategy).Alike
      ((registerHandler key pattern matcher limit steps').toplevel strategy) := by
  simp only [toplevel, program]
  exact .subscribe (Program.alike_limited limit fun d d' => bodies.alike_body strategy)
    (.left rfl fun _ _ => .right rfl fun _ _ => .done)

/-- A step that cancels leaves nothing to do that the other side would have to do. -/
theorem alike_toplevel_cancel (strategy : MatchStrategy) (context : ContextChoice) :
    ((Step.cancel context).toplevel strategy).Alike .done :=
  alike_cancel_left strategy context none fun _ => .left rfl fun _ _ => .done

variable {fuel fuel' : Nat} {w w' : World}

/-- Steps whose programs are alike do the same in worlds that are alike. -/
theorem ends_alike {s s' : Step} (worlds : w.Alike w')
    (programs : ∀ strategy, (s.toplevel strategy).Alike (s'.toplevel strategy))
    (ended : (run fuel (s.start w)).isOver = true)
    (ended' : (run fuel' (s'.start w')).isOver = true) :
    observed ((s.start w).trail fuel) = observed ((s'.start w').trail fuel') ∧
      (run fuel (s.start w)).world.Alike (run fuel' (s'.start w')).world := by
  have start : (s.start w).Alike (s'.start w') :=
    ⟨{ worlds with }, .nil, .running (worlds.strategy ▸ programs w.broker.strategy)⟩
  obtain ⟨same, alike⟩ := start.ends_alike ended ended'
  exact ⟨same, alike.world⟩

/-- Nothing is observed of a step that cancels, and it leaves the world alike to what it was alike
to. -/
theorem ends_alike_cancel (worlds : w.Alike w') {context : ContextChoice}
    (ended : (run fuel ((Step.cancel context).start w)).isOver = true) :
    observed (((Step.cancel context).start w).trail fuel) = [] ∧
      (run fuel ((Step.cancel context).start w)).world.Alike w' := by
  have start : ((Step.cancel context).start w).Alike (.start w' .done) :=
    ⟨{ worlds with }, .nil, .running (alike_toplevel_cancel _ context)⟩
  obtain ⟨same, alike⟩ := start.ends_alike (n := 1) ended rfl
  exact ⟨same, alike.world⟩

/-- Where the first steps do the same, all do if the others do. -/
theorem observed_cons_of_alike {s s' : Step} {rest rest' : List Step} (worlds : w.Alike w')
    (programs : ∀ strategy, (s.toplevel strategy).Alike (s'.toplevel strategy))
    (ended : ∀ e ∈ endsWith fuel w (s :: rest), e.isOver = true)
    (ended' : ∀ e ∈ endsWith fuel' w' (s' :: rest'), e.isOver = true)
    (later : ∀ {v v' : World}, v.Alike v' → (∀ e ∈ endsWith fuel v rest, e.isOver = true) →
      (∀ e ∈ endsWith fuel' v' rest', e.isOver = true) →
      observed (pastWith fuel v rest) = observed (pastWith fuel' v' rest') ∧
        (worldWith fuel v rest).Alike (worldWith fuel' v' rest')) :
    observed (pastWith fuel w (s :: rest)) = observed (pastWith fuel' w' (s' :: rest')) ∧
      (worldWith fuel w (s :: rest)).Alike (worldWith fuel' w' (s' :: rest')) := by
  rw [endsWith, List.forall_mem_cons] at ended ended'
  obtain ⟨same, now⟩ := ends_alike worlds programs ended.1 ended'.1
  obtain ⟨same', after⟩ := later now ended.2 ended'.2
  rw [pastWith, pastWith, observed_append, observed_append, same, same']
  exact ⟨rfl, after⟩

namespace Recancelled

/-- Runs of steps that are the same but for cancels are observed to do the same, if they all come to
their ends. -/
theorem observed_pastWith (h : Recancelled steps steps') (worlds : w.Alike w')
    (ended : ∀ e ∈ endsWith fuel w steps, e.isOver = true)
    (ended' : ∀ e ∈ endsWith fuel' w' steps', e.isOver = true) :
    observed (pastWith fuel w steps) = observed (pastWith fuel' w' steps') ∧
      (worldWith fuel w steps).Alike (worldWith fuel' w' steps') := by
  induction h generalizing w w' with
  | nil => exact ⟨rfl, worlds⟩
  | keep plain later ih =>
    exact observed_cons_of_alike worlds (fun strategy => alike_toplevel_of_keep strategy plain)
      ended ended' ih
  | register bodies later _ ih =>
    exact observed_cons_of_alike worlds
      (fun strategy => bodies.alike_toplevel strategy _ _ _ _) ended ended' ih
  | left later ih =>
    rw [endsWith, List.forall_mem_cons] at ended
    obtain ⟨same, now⟩ := ends_alike_cancel worlds ended.1
    obtain ⟨same', after⟩ := ih now ended.2 ended'
    rw [pastWith, observed_append, same, same']
    exact ⟨rfl, after⟩
  | right later ih =>
    rw [endsWith, List.forall_mem_cons] at ended'
    obtain ⟨same, now⟩ := ends_alike_cancel worlds.symm ended'.1
    obtain ⟨same', after⟩ := ih now.symm ended ended'.2
    rw [pastWith, observed_append, same, same']
    exact ⟨rfl, after⟩

/-- Two scenarios that are the same but for the steps that cancel contexts are observed to do the
same on a new broker, and they leave worlds that are alike. -/
theorem observed_past {ids : Option IdSource} {strategy : MatchStrategy}
    (h : Recancelled steps steps') (fresh : Broker.create ids strategy = .ok w) :
    observed (past w steps) = observed (past w steps') ∧
      (worldAfter w steps).Alike (worldAfter w steps') := by
  have itself : w.Alike w := by
    obtain ⟨source, -, rfl⟩ := Broker.eq_world_of_create fresh
    exact ⟨rfl, rfl, ⟨.empty, rfl, rfl⟩, rfl, rfl, rfl, rfl, rfl⟩
  obtain ⟨same, alike⟩ := h.observed_pastWith itself
    (isOver_of_mem_endsWith fresh (Nat.le_refl _)) (isOver_of_mem_endsWith fresh (Nat.le_refl _))
  rw [past, past, observed_cons, observed_cons, same]
  exact ⟨rfl, alike⟩

end Recancelled

/-- A scenario without its steps that cancel contexts, also inside of the bodies of handlers. -/
def withoutCancels : List Step → List Step
  | [] => []
  | .cancel _ :: rest => withoutCancels rest
  | .registerHandler key pattern matcher limit body :: rest =>
    .registerHandler key pattern matcher limit (withoutCancels body) :: withoutCancels rest
  | s :: rest => s :: withoutCancels rest

/-- It is the same but for these. -/
theorem recancelled_withoutCancels (steps : List Step) :
    Recancelled steps (withoutCancels steps) := by
  fun_induction withoutCancels steps with
  | case1 => exact .nil
  | case2 context rest ih => exact .left ih
  | case3 key pattern matcher limit body rest ihBody ih => exact .register ihBody ih
  | case4 s rest other plain ih =>
    refine .keep ?_ ih
    cases s with
    | registerHandler => exact absurd rfl (plain _ _ _ _ _)
    | _ => rfl

/-- So nobody observes whether a scenario cancels contexts. -/
theorem observed_past_withoutCancels {ids : Option IdSource} {strategy : MatchStrategy}
    (fresh : Broker.create ids strategy = .ok w) (steps : List Step) :
    observed (past w steps) = observed (past w (withoutCancels steps)) :=
  ((recancelled_withoutCancels steps).observed_past fresh).1

end Step

end TopicBroker
