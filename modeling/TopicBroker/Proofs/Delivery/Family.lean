import TopicBroker.Proofs.Delivery.Tenure
import TopicBroker.Proofs.Delivery.Transaction

/-!
# Families of contexts

A family are the contexts that come from one that was started: by giving them other values, by
copying and keeping them under names, and by publishing with them, which hands them to handlers.
Whatever happens in between, a context is seen to be cancelled exactly if one of its family was. The
values of a context are its own.
-/

namespace TopicBroker

/-- Whether the next step starts a family, with the given context. -/
inductive Execution.Starts (e : Execution) (c : Correlation) : Prop
  /-- A new context is asked for. -/
  | new (act : e.act = .perform .startContext)
      (answer : (e.world.perform .startContext).2 = .context c)
  /-- The context of a name is asked for that is not in use. -/
  | unused {name : String} (act : e.act = .perform (.fetchContext name))
      (unused : e.world.contexts.named.get? name = none)
      (answer : (e.world.perform (.fetchContext name)).2 = .context c)

/-- The contexts of the family that was started in a step of the past. A copy of a context is the
same context, so copying and keeping one need no rule. -/
inductive Descends (past : List Execution) (k : Nat) : Correlation → Prop
  /-- The first context of the family. -/
  | origin {x : Execution} {c : Correlation} (there : past[k]? = some x) (starts : x.Starts c) :
    Descends past k c
  /-- A context with another transaction. -/
  | withTxId {c : Correlation} (above : Descends past k c) (txId : String) :
    Descends past k (c.withTxId txId)
  /-- A context with another source. -/
  | withSource {c : Correlation} (above : Descends past k c) (source : String) :
    Descends past k (c.withSource source)
  /-- A context that a handler is given, whichever way the publication was made. -/
  | handed {l : Lookup} {i : Invocation} (made : ∃ x ∈ past, x.act = .publish l)
      (above : Descends past k l.publication.context) (called : .call i ∈ record l.number past) :
    Descends past k i.call.context

/-- Whether only contexts were cancelled that descend from one that had been started. -/
def Genuine (past : List Execution) : Prop :=
  ∀ before x after d, past = before ++ x :: after → x.act = .perform (.cancel d) →
    ∃ k, Descends before k d

namespace World

/-- The context that an operation cancels. -/
def cancelled? : Operation → Option Correlation
  | .cancel c => some c
  | _ => none

/-- An operation cancels the family of the context that it is about, and no other. -/
theorem cancelled_perform (w : World) (op : Operation) :
    (w.perform op).1.contexts.families.cancelled =
      ((cancelled? op).map (·.family)).toList ++ w.contexts.families.cancelled := by
  cases op with
  | registerTopic name => rw [w.contexts_perform rfl]; rfl
  | deregisterTopic name => rw [w.contexts_perform rfl]; rfl
  | deregisterHandler key => rw [w.contexts_perform rfl]; rfl
  | fetchContext name =>
    simp only [perform, ContextStore.fetch]
    split <;> rfl
  | _ => rfl

/-- The number of families only grows. -/
theorem count_perform (w : World) (op : Operation) :
    w.contexts.families.count ≤ (w.perform op).1.contexts.families.count := by
  cases op with
  | registerTopic name => rw [w.contexts_perform rfl]
  | deregisterTopic name => rw [w.contexts_perform rfl]
  | deregisterHandler key => rw [w.contexts_perform rfl]
  | startContext => exact Nat.le_succ _
  | fetchContext name =>
    simp only [perform, ContextStore.fetch]
    split
    · exact Nat.le_refl _
    · exact Nat.le_succ _
  | _ => exact Nat.le_refl _

/-- The context that the handlers of a publication are given is of the family of the publisher. -/
theorem family_parcel (ids : IdSource) (p : Publication) :
    (parcel ids p).1.context.family = p.context.family := by
  cases p <;> rfl

end World

/-- The context that an act cancels. -/
def Act.cancelled? : Act → Option Correlation
  | .perform op => World.cancelled? op
  | _ => none

theorem Act.cancelled?_eq_some_iff {a : Act} {c : Correlation} :
    a.cancelled? = some c ↔ a = .perform (.cancel c) := by
  cases a with
  | perform op => cases op <;> simp [cancelled?, World.cancelled?]
  | _ => simp [cancelled?]

namespace Execution

namespace Move

variable {e e' : Execution} {a : Act}

/-- An act cancels the family of the context that it is about, and no other. -/
theorem cancelled (m : Move e a e') :
    e'.world.contexts.families.cancelled =
      (a.cancelled?.map (·.family)).toList ++ e.world.contexts.families.cancelled := by
  cases a with
  | perform op =>
    cases m
    exact World.cancelled_perform _ _
  | _ =>
    rw [m.contexts fun op => by simp]
    rfl

/-- The number of families only grows. -/
theorem count_le (m : Move e a e') :
    e.world.contexts.families.count ≤ e'.world.contexts.families.count := by
  cases a with
  | perform op =>
    cases m
    exact World.count_perform _ _
  | _ => rw [m.contexts fun op => by simp]

end Move

/-- A family is started with a context in which nothing is set, and takes the next number. -/
theorem Starts.numbered {e : Execution} {c : Correlation} (h : e.Starts c) :
    c = .new e.world.contexts.families.count ∧
      e.step.world.contexts.families.count = e.world.contexts.families.count + 1 := by
  have m := move e
  cases h with
  | new act answer =>
    rw [act] at m
    generalize e.step = e' at m ⊢
    cases m
    exact ⟨(Answer.context.inj answer).symm, rfl⟩
  | @unused name act unused answer =>
    rw [act] at m
    generalize e.step = e' at m ⊢
    cases m
    simp only [World.perform, ContextStore.fetch] at unused answer ⊢
    rw [unused] at answer ⊢
    exact ⟨(Answer.context.inj answer).symm, rfl⟩

end Execution

open Execution

/-- Every context with the number of a family descends from its first one. -/
theorem Descends.of_family {past : List Execution} {k : Nat} {x : Execution} {b c : Correlation}
    (there : past[k]? = some x) (starts : x.Starts b) (same : c.family = b.family) :
    Descends past k c := by
  obtain ⟨txId, source, family⟩ := c
  have first : Descends past k b := .origin there starts
  obtain ⟨rfl, -⟩ := starts.numbered
  obtain rfl : family = x.world.contexts.families.count := same
  cases txId with
  | none =>
    cases source with
    | none => exact first
    | some source => exact first.withSource source
  | some txId =>
    cases source with
    | none => exact first.withTxId txId
    | some source => exact (first.withTxId txId).withSource source

namespace Course

variable {w : World} {past before after : List Execution} {d e x : Execution} {k k' : Nat}
  {b c : Correlation}

/-- All contexts of a family have its number. -/
theorem family_eq (run : Course w past e) (h : Descends past k c) :
    ∃ x b, past[k]? = some x ∧ x.Starts b ∧ c.family = b.family := by
  induction h with
  | @origin x b there starts => exact ⟨x, b, there, starts, rfl⟩
  | withTxId above txId ih => exact ih
  | withSource above source ih => exact ih
  | @handed l i made above called ih =>
    have given := (run.serves_of_made made called).context
    have same : i.call.context.family = l.publication.context.family := by
      rw [given]
      exact World.family_parcel _ _
    rw [same]
    exact ih

/-- The number of families only grows. -/
theorem count_le (run : Course w (before ++ d :: after) e) :
    d.step.world.contexts.families.count ≤ e.world.contexts.families.count := by
  refine run.carry
    (P := fun x => d.step.world.contexts.families.count ≤ x.world.contexts.families.count)
    (Nat.le_refl _) ?_ fun _ _ _ h => h
  intro x _ below
  exact Nat.le_trans below (move x).count_le

/-- A family that is started later has a higher number. -/
theorem family_lt (run : Course w past e) {y : Execution} (there : past[k]? = some x)
    (starts : x.Starts b) (there' : past[k']? = some y) (starts' : y.Starts c) (lt : k < k') :
    b.family < c.family := by
  obtain ⟨rfl, counted⟩ := starts.numbered
  obtain ⟨rfl, -⟩ := starts'.numbered
  have here : (past.take k')[k]? = some x := by
    rw [List.getElem?_take_of_lt lt]
    exact there
  have between := ((run.at_index there').split here).count_le
  rw [counted] at between
  exact between

/-- A context belongs to one family only. -/
theorem eq_of_descends (run : Course w past e) (h : Descends past k c) (h' : Descends past k' c) :
    k = k' := by
  obtain ⟨x, b, there, starts, same⟩ := run.family_eq h
  obtain ⟨x', b', there', starts', same'⟩ := run.family_eq h'
  have equal : b.family = b'.family := same.symm.trans same'
  rcases Nat.lt_trichotomy k k' with lt | eq | lt
  · have below := run.family_lt there starts there' starts' lt
    omega
  · exact eq
  · have below := run.family_lt there' starts' there starts lt
    omega

/-- Members of a family have the same number. -/
theorem family_eq_of_descends (run : Course w past e) (h : Descends past k b)
    (h' : Descends past k c) : b.family = c.family := by
  obtain ⟨x, first, there, starts, own⟩ := run.family_eq h
  obtain ⟨x', first', there', starts', own'⟩ := run.family_eq h'
  obtain rfl := Option.some.inj (there.symm.trans there')
  rw [own, own', starts.numbered.1, starts'.numbered.1]

/-- What is of the family of a member is a member. -/
theorem descends_of_family (run : Course w past e) (h : Descends past k c)
    (same : b.family = c.family) : Descends past k b := by
  obtain ⟨x, first, there, starts, own⟩ := run.family_eq h
  exact .of_family there starts (same.trans own)

/-- The cancelled families are those of the contexts that were cancelled. -/
theorem cancelled_eq (unused : w.contexts.families.cancelled = []) (run : Course w past e) :
    e.world.contexts.families.cancelled =
      ((past.filterMap fun x => x.act.cancelled?).map (·.family)).reverse := by
  induction run with
  | start program => exact unused
  | @step past e run ih =>
    rw [(move e).cancelled, ih, List.filterMap_append, List.map_append, List.reverse_append]
    congr 1
    cases h : e.act.cancelled? <;> simp [h]
  | next run ended history program ih => exact ih

/-- A context is cancelled exactly if one with its number was. -/
theorem isCancelled_iff (unused : w.contexts.families.cancelled = []) (run : Course w past e) :
    e.world.contexts.families.isCancelled c = true ↔
      ∃ x ∈ past, ∃ d, x.act = .perform (.cancel d) ∧ d.family = c.family := by
  simp only [Families.isCancelled, decide_eq_true_iff, run.cancelled_eq unused, List.mem_reverse,
    List.mem_map, List.mem_filterMap, Act.cancelled?_eq_some_iff]
  constructor
  · rintro ⟨d, ⟨x, hx, act⟩, same⟩
    exact ⟨x, hx, d, act, same⟩
  · rintro ⟨x, hx, d, act, same⟩
    exact ⟨d, ⟨x, hx, act⟩, same⟩

/-- Cancelling a context shows in the contexts with its number, and nothing else shows in any. -/
theorem view_step (x : Execution) (c : Correlation) :
    x.step.world.contexts.view c = { x.world.contexts.view c with
      cancelled := x.act.cancelled?.any (fun d => decide (c.family = d.family)) ||
        (x.world.contexts.view c).cancelled } := by
  have cancelled := (move x).cancelled
  simp only [ContextStore.view, Families.view, Families.isCancelled, cancelled]
  cases x.act.cancelled? with
  | none => rfl
  | some d => simp

/-- What descends from a start of the past still does so later. -/
theorem descends_append (later : List Execution) (h : Descends past k c) :
    Descends (past ++ later) k c := by
  induction h with
  | @origin x c there starts =>
    have bound := (List.getElem?_eq_some_iff.mp there).1
    exact .origin (by rw [List.getElem?_append_left bound]; exact there) starts
  | withTxId above txId ih => exact ih.withTxId txId
  | withSource above source ih => exact ih.withSource source
  | handed made above called ih =>
    obtain ⟨x, hx, publishes⟩ := made
    refine .handed ⟨x, List.mem_append_left _ hx, publishes⟩ ih ?_
    rw [record_append]
    exact List.mem_append_left _ called

/-- A family starts with a context that is not cancelled, unless one with its number was made up. -/
theorem view_starts (unused : w.contexts.families.cancelled = [])
    (run : Course w (before ++ x :: after) e) (genuine : Genuine before) (starts : x.Starts c) :
    x.step.world.contexts.view c = ⟨none, none, false⟩ := by
  have here : (before ++ [x])[before.length]? = some x := by simp
  have notYet : ¬ x.step.world.contexts.families.isCancelled c = true := by
    intro shows
    obtain ⟨y, hy, d, act, same⟩ := (run.at_past.step.isCancelled_iff unused).mp shows
    rcases List.mem_append.mp hy with earlier | now
    · obtain ⟨before', after', rfl⟩ := List.append_of_mem earlier
      obtain ⟨k, member⟩ := genuine before' y after' d rfl act
      obtain ⟨z, b, there, starts', own⟩ := run.at_past.at_past.family_eq member
      have bound := (List.getElem?_eq_some_iff.mp there).1
      have there' : (before' ++ y :: after' ++ [x])[k]? = some z := by
        rw [List.append_assoc, List.getElem?_append_left bound]
        exact there
      have lt : k < (before' ++ y :: after').length := by
        rw [List.length_append]
        omega
      have below := run.at_past.step.family_lt there' starts' here starts lt
      omega
    · obtain rfl := List.mem_singleton.mp now
      cases starts with
      | new started => cases started.symm.trans act
      | unused started => cases started.symm.trans act
  obtain ⟨rfl, -⟩ := starts.numbered
  simp only [ContextStore.view, Families.view, Correlation.new, Bool.not_eq_true] at notYet ⊢
  rw [notYet]

end Course

/-- How contexts hang together at a moment of a course. -/
structure CancelFamilies (past : List Execution) (e : Execution) : Prop where
  /-- A context shows its own transaction and its own source, whatever has happened to others. -/
  values : ∀ c, (e.world.contexts.view c).txId = c.txId ∧
    (e.world.contexts.view c).source = c.source
  /-- A context shows to be cancelled exactly if a context of its family was cancelled. -/
  cancelled : ∀ k c, Descends past k c → ((e.world.contexts.view c).cancelled = true ↔
    ∃ x ∈ past, ∃ d, x.act = .perform (.cancel d) ∧ Descends past k d)
  /-- If no context was made up, that one belonged to the family already when it was cancelled. -/
  earlier : Genuine past → ∀ k c, Descends past k c → (e.world.contexts.view c).cancelled = true →
    ∃ before x after d, past = before ++ x :: after ∧ x.act = .perform (.cancel d) ∧
      Descends before k d
  /-- No context belongs to two families. -/
  apart : ∀ k k' c, Descends past k c → Descends past k' c → k = k'
  /-- If no context was made up, a family starts with a context that is not cancelled. -/
  fresh : ∀ before x after c, past = before ++ x :: after → Genuine before → x.Starts c →
    x.step.world.contexts.view c = ⟨none, none, false⟩
  /-- A context that was cancelled stays cancelled. -/
  lasting : ∀ before x after c, past = before ++ x :: after →
    (x.world.contexts.view c).cancelled = true → (e.world.contexts.view c).cancelled = true
  /-- Cancelling a context does not show in another family. -/
  separate : ∀ x ∈ past, ∀ k k' c d, x.act = .perform (.cancel d) → Descends past k d →
    Descends past k' c → k ≠ k' → x.step.world.contexts.view c = x.world.contexts.view c
  /-- Nothing else shows in any context: no publication, no call, and no name that is given to
  another context. -/
  untouched : ∀ x ∈ past, (∀ d, x.act ≠ .perform (.cancel d)) → ∀ c,
    x.step.world.contexts.view c = x.world.contexts.view c
  /-- A name stands for the context that was kept under it last. -/
  kept : ∀ before x after name c, past = before ++ x :: after →
    x.act = .perform (.keepContext name c) → (∀ y ∈ after, ¬ y.act.Keeps name) →
    e.world.contexts.named.get? name = some c
  /-- Keeping a context under a name leaves the other names. -/
  others : ∀ x ∈ past, ∀ name, ¬ x.act.Keeps name →
    x.step.world.contexts.named.get? name = x.world.contexts.named.get? name

namespace Course

variable {w : World} {past : List Execution} {e : Execution}

/-- At every moment of a course in which nothing was cancelled before, contexts are seen to be
cancelled by families, and are their own in everything else. -/
theorem cancelFamilies (unused : w.contexts.families.cancelled = []) (run : Course w past e) :
    CancelFamilies past e := by
  have cancelled (k : Nat) (c : Correlation) (h : Descends past k c) :
      (e.world.contexts.view c).cancelled = true ↔
        ∃ x ∈ past, ∃ d, x.act = .perform (.cancel d) ∧ Descends past k d := by
    refine (run.isCancelled_iff unused).trans ?_
    constructor
    · rintro ⟨x, hx, d, act, same⟩
      exact ⟨x, hx, d, act, run.descends_of_family h same⟩
    · rintro ⟨x, hx, d, act, member⟩
      exact ⟨x, hx, d, act, run.family_eq_of_descends member h⟩
  refine ⟨fun c => ⟨rfl, rfl⟩, cancelled, ?_, fun k k' c => run.eq_of_descends, ?_, ?_, ?_, ?_, ?_,
    ?_⟩
  · intro genuine k c h shows
    obtain ⟨x, hx, d, act, member⟩ := (cancelled k c h).mp shows
    obtain ⟨before, after, rfl⟩ := List.append_of_mem hx
    obtain ⟨k', then_⟩ := genuine before x after d rfl act
    obtain rfl := run.eq_of_descends member (descends_append _ then_)
    exact ⟨before, x, after, d, rfl, act, then_⟩
  · intro before x after c split genuine starts
    subst split
    exact run.view_starts unused genuine starts
  · intro before x after c split shows
    subst split
    have step (y : Execution) (shows : (y.world.contexts.view c).cancelled = true) :
        (y.step.world.contexts.view c).cancelled = true := by
      rw [view_step, shows, Bool.or_true]
    exact run.carry (P := fun y => (y.world.contexts.view c).cancelled = true) (step x shows)
      (fun y _ => step y) fun _ _ _ h => h
  · intro x _ k k' c d act member other ne
    have apart : ¬ c.family = d.family := fun same =>
      ne (run.eq_of_descends (run.descends_of_family member same) other)
    rw [view_step, Act.cancelled?_eq_some_iff.mpr act, Option.any_some, decide_eq_false apart,
      Bool.false_or]
  · intro x _ passive c
    have none : x.act.cancelled? = none := by
      refine Option.eq_none_iff_forall_ne_some.mpr fun d some => ?_
      exact passive d (Act.cancelled?_eq_some_iff.mp some)
    rw [view_step, none]
    rfl
  · intro before x after name c split act other
    subst split
    refine run.carry (P := fun y => y.world.contexts.named.get? name = some c) ?_ ?_
      fun _ _ _ h => h
    · have m := move x
      rw [act] at m
      generalize x.step = x' at m ⊢
      cases m
      simp [World.perform, ContextStore.keep, Table.get?_insert]
    · intro y hy held
      rw [(move y).named (other y hy), held]
  · intro x _ name other
    exact (move x).named other

/-- A program that publishes with one context, whose handler keeps what it is given, then uses the
name of the context for another one, and cancels what the handler has kept. -/
def kinship : Program :=
  .perform (.registerTopic "a") fun _ =>
    .subscribe "k" (.exact "a")
      (fun call => .perform (.keepContext "given" (call.context.withSource "k")) fun _ => .done) <|
    .perform (.fetchContext "own") fun
      | .context c => .perform (.keepContext "own" c) fun _ =>
        .publish (.plain c "a" default) false fun _ => .perform .startContext fun
          | .context d => .perform (.keepContext "own" d) fun _ =>
            .perform (.fetchContext "given") fun
              | .context g => .perform (.cancel g) fun _ => .done
              | _ => .done
          | _ => .done
      | _ => .done

/-- What the handler has kept and the first context are cancelled together. The context that has
taken over the name is not. -/
theorem cancelFamilies_kinship :
    let e := Execution.run 30 (.start .plain kinship)
    (e.world.contexts.named.get? "given").map e.world.contexts.view =
        some ⟨some "id-1", some "k", true⟩ ∧
      e.world.contexts.view (.new 0) = ⟨none, none, true⟩ ∧
      (e.world.contexts.named.get? "own").map e.world.contexts.view = some ⟨none, none, false⟩ ∧
      CancelFamilies ((Execution.start .plain kinship).trail 30) e := by
  have run := (Course.start (w := .plain) kinship).run 30
  rw [List.nil_append] at run
  exact ⟨by decide +kernel, by decide +kernel, by decide +kernel, cancelFamilies rfl run⟩

end Course

end TopicBroker
