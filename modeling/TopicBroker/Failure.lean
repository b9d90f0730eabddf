import TopicBroker.Failure.Report

/-!
# Failures

A failure is a bare cause or a report of one. Contexts are given to outcomes: a value passes
unchanged, a bare cause becomes a report.
-/

namespace TopicBroker

/-- A bare cause or a report. -/
inductive Failure where
  /-- A bare cause. -/
  | bare (cause : Cause)
  /-- A report. -/
  | reported (report : Report)
  deriving Repr, DecidableEq, Inhabited

/-- The report of a failure. -/
def Failure.report : Failure → Report
  | .bare cause => { cause }
  | .reported report => report

/-- The ways to give a context to an outcome. -/
inductive ContextForm where
  /-- The context is added to the report. -/
  | onReport (text : String)
  /-- The context is given to the outcome. -/
  | onOutcome (text : String)
  /-- The text is made only if there is a failure. -/
  | onDemand (text : Unit → String)
  /-- The context is given where the outcome is looked at. -/
  | inPlace (text : String)
  /-- As before, with an argument that follows the text and a blank. -/
  | inPlaceWith (text argument : String)

/-- The text of a context. -/
def ContextForm.text : ContextForm → String
  | .onReport text => text
  | .onOutcome text => text
  | .onDemand text => text ()
  | .inPlace text => text
  | .inPlaceWith text argument => text ++ " " ++ argument

/-- A context that is given somewhere in a program. -/
structure ContextUse where
  /-- The way in which it is given. -/
  form : ContextForm
  /-- The place. -/
  place : Place

/-- A context as it stands in a report. -/
def ContextUse.entry (u : ContextUse) : ReportContext :=
  { message := u.form.text, place := some u.place }

namespace Outcome

variable {α : Type}

/-- Give a context to an outcome; its text is made only if there is a failure. -/
def contextWith (place : Place) (text : Unit → String) : Except Failure α → Except Failure α
  | .ok value => .ok value
  | .error failure => .error (.reported (failure.report.context (text ()) place))

/-- Give a context to an outcome. -/
def context (place : Place) (text : String) (outcome : Except Failure α) : Except Failure α :=
  contextWith place (fun _ => text) outcome

/-- Give a context in one of the ways. -/
def attach (outcome : Except Failure α) (use : ContextUse) : Except Failure α :=
  match use.form with
  | .onReport text =>
    outcome.mapError fun failure => .reported (failure.report.context text use.place)
  | .onOutcome text => context use.place text outcome
  | .onDemand text => contextWith use.place text outcome
  | .inPlace text => context use.place text outcome
  | .inPlaceWith text argument => context use.place (text ++ " " ++ argument) outcome

/-- Give several contexts, one after the other. -/
def attachAll (outcome : Except Failure α) (uses : List ContextUse) : Except Failure α :=
  uses.foldl attach outcome

/-- A value passes unchanged. -/
@[simp] theorem attach_ok (value : α) (use : ContextUse) : attach (.ok value) use = .ok value := by
  obtain ⟨form, place⟩ := use
  cases form <;> rfl

/-- All ways add the text of the context and its place to the report. -/
@[simp] theorem attach_error (failure : Failure) (use : ContextUse) :
    attach (α := α) (.error failure) use =
      .error (.reported (failure.report.context use.form.text use.place)) := by
  obtain ⟨form, place⟩ := use
  cases form <;> rfl

/-- Fail without context unless a condition holds. -/
def ensure (condition : Bool) (cause : Cause) : Except Report Unit :=
  if condition then .ok () else .error { cause }

/-- Fail without context. -/
def bail (cause : Cause) : Except Report Unit := ensure false cause

end Outcome

end TopicBroker
