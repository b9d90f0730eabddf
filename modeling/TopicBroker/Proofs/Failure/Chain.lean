import Mathlib.Data.List.Induction
import Mathlib.Logic.Function.Basic
import TopicBroker.Failure

/-!
# Contexts around a cause

Contexts can be given in several ways, to a bare cause and to a report alike, and outcomes with their
reports can be copied. Main statement: whatever ways are mixed, there is one context for each that was
given, in order, the cause keeps its say in everything else, and a copy goes its own way from the
moment on at which it was taken.
-/

namespace TopicBroker

namespace Report

/-- A report with further contexts around all others. -/
def within (r : Report) (contexts : List ReportContext) : Report :=
  { r with contexts := r.contexts ++ contexts }

/-- Contexts that are added one after the other are added together. -/
@[simp] theorem within_within (r : Report) (contexts more : List ReportContext) :
    (r.within contexts).within more = r.within (contexts ++ more) := by
  simp [within]

/-- One more context. -/
theorem context_eq_within (r : Report) (u : ContextUse) :
    r.context u.form.text u.place = r.within [u.entry] := rfl

@[simp] theorem within_nil (r : Report) : r.within [] = r := by simp [within]

/-- Around a text stand the contexts from the last to the first, each with a colon. -/
theorem around_eq (contexts : List ReportContext) (text : String) :
    around contexts text = String.join (contexts.reverse.map (·.message ++ ": ")) ++ text := by
  induction contexts using List.reverseRecOn with
  | nil => simp [around]
  | append_singleton contexts c ih =>
    have outer : around (contexts ++ [c]) text = c.message ++ ": " ++ around contexts text := by
      simp [around]
    rw [outer, ih, List.reverse_append, List.reverse_singleton, List.singleton_append, List.map_cons,
      String.join_cons]
    simp only [String.append_assoc]

end Report

namespace Outcome

variable {α : Type}

/-- A value passes all contexts unchanged. -/
@[simp] theorem attachAll_ok (value : α) (uses : List ContextUse) :
    attachAll (.ok value) uses = .ok value := by
  induction uses with
  | nil => rfl
  | cons use uses ih => rw [attachAll, List.foldl_cons, attach_ok, ← attachAll, ih]

/-- Contexts that are given one after the other are given together. -/
theorem attachAll_attachAll (outcome : Except Failure α) (uses more : List ContextUse) :
    attachAll (attachAll outcome uses) more = attachAll outcome (uses ++ more) := by
  rw [attachAll, attachAll, attachAll, List.foldl_append]

/-- A failure stays one, and its report gets all the contexts. -/
theorem attachAll_error (failure : Failure) (uses : List ContextUse) :
    ∃ last : Failure, attachAll (α := α) (.error failure) uses = .error last ∧
      last.report = failure.report.within (uses.map (·.entry)) := by
  induction uses generalizing failure with
  | nil => exact ⟨failure, rfl, (Report.within_nil _).symm⟩
  | cons use uses ih =>
    obtain ⟨last, given, report⟩ := ih (.reported (failure.report.context use.form.text use.place))
    refine ⟨last, ?_, ?_⟩
    · rw [attachAll, List.foldl_cons, attach_error, ← attachAll, given]
    · -- what was a bare cause is a report by now, and is not made into one again
      rw [report, Failure.report, Report.context_eq_within, Report.within_within, List.map_cons,
        List.singleton_append]

end Outcome

/-- What is done with outcomes that are kept in variables. -/
inductive Handling where
  /-- The outcome in a variable is given a context. -/
  | attach (target : String) (use : ContextUse)
  /-- The outcome in a variable is copied into another one. -/
  | copy (source target : String)

namespace Handling

/-- The variable that changes. -/
def target : Handling → String
  | .attach target _ => target
  | .copy _ target => target

/-- Whether something is copied into a variable. -/
def CopiesInto (target : String) (h : Handling) : Prop := ∃ source, h = .copy source target

/-- The context that is given to the outcome in a variable. -/
def use? (target : String) : Handling → Option ContextUse
  | .attach given use => if given = target then some use else none
  | .copy .. => none

/-- The contexts that are given to the outcome in a variable, in order. -/
def usesOf (target : String) (hs : List Handling) : List ContextUse := hs.filterMap (use? target)

/-- The first thing that is done gives its context first, if it gives one. -/
theorem usesOf_cons (target : String) (h : Handling) (hs : List Handling) :
    usesOf target (h :: hs) = (h.use? target).toList ++ usesOf target hs := by
  rw [usesOf, usesOf, List.filterMap_cons]
  cases h.use? target <;> rfl

variable {α : Type}

/-- The variables afterwards. -/
def perform (vars : String → Except Failure α) : Handling → String → Except Failure α
  | .attach target use =>
    Function.update vars target (Outcome.attach (vars target) use)
  | .copy source target => Function.update vars target (vars source)

/-- The variables after several things were done with them. -/
def performAll (vars : String → Except Failure α) (hs : List Handling) :
    String → Except Failure α :=
  hs.foldl perform vars

/-- What is done with a variable shows in this variable only. -/
theorem perform_apply (vars : String → Except Failure α) {h : Handling} {name : String}
    (own : ¬ h.CopiesInto name) :
    h.perform vars name = Outcome.attachAll (vars name) (h.use? name).toList := by
  cases h with
  | attach target use =>
    by_cases same : target = name
    · subst same
      rw [perform, Function.update_self, use?, if_pos rfl]
      rfl
    · rw [perform, Function.update_of_ne (Ne.symm same), use?, if_neg same]
      rfl
  | copy source target =>
    have other : name ≠ target := fun same => own ⟨source, by rw [same]⟩
    rw [perform, Function.update_of_ne other]
    rfl

/-- A variable into which nothing is copied holds its outcome with the contexts that were given to
it. -/
theorem performAll_apply (vars : String → Except Failure α) {hs : List Handling}
    {name : String} (own : ∀ h ∈ hs, ¬ h.CopiesInto name) :
    performAll vars hs name = Outcome.attachAll (vars name) (usesOf name hs) := by
  induction hs generalizing vars with
  | nil => rfl
  | cons h hs ih =>
    have rest := ih (h.perform vars) fun x hx => own x (List.mem_cons_of_mem _ hx)
    rw [performAll, List.foldl_cons, ← performAll, rest, perform_apply _ (own h List.mem_cons_self),
      Outcome.attachAll_attachAll, usesOf_cons]

/-- A copy holds what was copied, with the contexts that were given to the copy itself. -/
theorem performAll_copy (vars : String → Except Failure α) (before : List Handling)
    {after : List Handling} {source target : String} (own : ∀ h ∈ after, ¬ h.CopiesInto target) :
    performAll vars (before ++ .copy source target :: after) target =
      Outcome.attachAll (performAll vars before source) (usesOf target after) := by
  have cut : performAll vars (before ++ .copy source target :: after) =
      performAll ((Handling.copy source target).perform (performAll vars before)) after := by
    rw [performAll, List.foldl_append, List.foldl_cons]
    rfl
  rw [cut, performAll_apply _ own, perform, Function.update_self]

/-- A copy that is left alone holds what was copied, whatever is done with the other variables. -/
theorem performAll_copy_of_ne (vars : String → Except Failure α) (before : List Handling)
    {after : List Handling} {source target : String} (alone : ∀ h ∈ after, h.target ≠ target) :
    performAll vars (before ++ .copy source target :: after) target =
      performAll vars before source := by
  have own : ∀ h ∈ after, ¬ h.CopiesInto target := by
    rintro h hh ⟨from_, rfl⟩
    exact alone _ hh rfl
  have unused : usesOf target after = [] := by
    refine List.filterMap_eq_nil_iff.mpr fun h hh => ?_
    have other := alone h hh
    cases h with
    | attach given use => exact if_neg other
    | copy => rfl
  rw [performAll_copy vars before own, unused]
  rfl

end Handling

/-- What a report is after contexts were given to a failure. -/
structure Enclosed (failure : Failure) (uses : List ContextUse) (r : Report) : Prop where
  /-- Behind the contexts that there were stands one for each that was given, in order, with its text
  and its place. -/
  contexts : r.contexts =
    failure.report.contexts ++ uses.map fun u => ⟨u.form.text, some u.place⟩
  /-- As a text, the report is the contexts from the last to the first, and then the cause. -/
  message : r.message =
    String.join (r.contexts.reverse.map (·.message ++ ": ")) ++ failure.report.cause.text
  /-- Callers are told the contexts in the order in which they were given. -/
  response : r.response.contexts = failure.report.response.contexts ++
    uses.map fun u => u.form.text ++ " (" ++ u.place.describe ++ ")"
  /-- The kind is that of the cause. -/
  status : r.status = failure.report.cause.status
  /-- The level is that of its kind. -/
  logLevel : r.logLevel = failure.report.cause.status.logLevel
  /-- Callers are told what the cause says. -/
  clientMessage : r.clientMessage = failure.report.cause.clientMessage
  /-- So are logs. -/
  tags : r.tags = failure.report.cause.tags
  /-- The report comes from the cause. -/
  source : r.source = some failure.report.cause
  /-- What the cause holds can be got at, whatever its type is. -/
  downcast : ∀ type, r.downcast? type = failure.report.cause.downcast? type

/-- More contexts around a report enclose its failure. -/
theorem enclosed_within (failure : Failure) (uses : List ContextUse) :
    Enclosed failure uses (failure.report.within (uses.map (·.entry))) where
  contexts := rfl
  message := Report.around_eq _ _
  response := by
    simp only [Report.response, Report.contextTexts, Report.within, List.map_append, List.map_map]
    rfl
  status := rfl
  logLevel := rfl
  clientMessage := rfl
  tags := rfl
  source := rfl
  downcast _ := rfl

namespace Outcome

/-- What contexts do to outcomes, in whatever ways they are given. -/
structure Enclosing (α : Type) : Prop where
  /-- A failure stays one, and its report shows the contexts around the cause. -/
  failure : ∀ (failure : Failure) (uses : List ContextUse), ∃ last : Failure,
    attachAll (α := α) (.error failure) uses = .error last ∧ Enclosed failure uses last.report
  /-- A value passes unchanged. -/
  value : ∀ (value : α) (uses : List ContextUse), attachAll (.ok value) uses = .ok value
  /-- A copy has the contexts that there were when it was taken, whatever is done with the other
  outcomes before and afterwards, -/
  kept : ∀ (vars : String → Except Failure α) (before after : List Handling) (source target : String),
    (∀ h ∈ after, h.target ≠ target) →
      Handling.performAll vars (before ++ .copy source target :: after) target =
        Handling.performAll vars before source
  /-- and behind them those that it is given itself. -/
  extended : ∀ (vars : String → Except Failure α) (before after : List Handling)
    (source target : String), (∀ h ∈ after, ¬ h.CopiesInto target) →
      Handling.performAll vars (before ++ .copy source target :: after) target =
        attachAll (Handling.performAll vars before source) (Handling.usesOf target after)

/-- Contexts enclose a cause, and never bury it. -/
theorem enclosing (α : Type) : Enclosing α where
  failure failure uses := by
    obtain ⟨last, given, report⟩ := attachAll_error (α := α) failure uses
    exact ⟨last, given, report ▸ enclosed_within failure uses⟩
  value := attachAll_ok
  kept vars before _ _ _ := Handling.performAll_copy_of_ne vars before
  extended vars before _ _ _ := Handling.performAll_copy vars before

/-- Three contexts that are given in three ways. -/
def nesting : List ContextUse :=
  [⟨.onOutcome "open", ⟨"file", 3⟩⟩, ⟨.onDemand fun _ => "read", ⟨"file", 12⟩⟩,
    ⟨.inPlaceWith "start" "up", ⟨"main", 7⟩⟩]

/-- A bare cause in three contexts, and the copy of its report that was taken after the first one. -/
theorem enclosing_nesting :
    (∃ last : Failure,
      attachAll (α := Unit) (.error (.bare (.generic .notFound "no file"))) nesting = .error last ∧
        last.report.message = "start up: read: open: no file" ∧
        last.report.response.contexts = ["open (file:3)", "read (file:12)", "start up (main:7)"] ∧
        last.report.downcast? .generic = some (.notFound, "no file")) ∧
      Handling.performAll (α := Unit) (fun _ => .error (.bare (.generic .notFound "no file")))
          ([.attach "x" ⟨.onReport "open", ⟨"file", 3⟩⟩] ++ .copy "x" "y" ::
            [.attach "x" ⟨.inPlace "read", ⟨"file", 12⟩⟩]) "y" =
        Handling.performAll (fun _ => .error (.bare (.generic .notFound "no file")))
          [.attach "x" ⟨.onReport "open", ⟨"file", 3⟩⟩] "x" := by
  have rules := enclosing Unit
  obtain ⟨last, given, shown⟩ := rules.failure (.bare (.generic .notFound "no file")) nesting
  refine ⟨⟨last, given, ?_, ?_, shown.downcast .generic⟩, rules.kept _ _ _ _ _ (by decide)⟩
  · rw [shown.message, shown.contexts]
    decide +kernel
  · rw [shown.response]
    decide +kernel

end Outcome

end TopicBroker
