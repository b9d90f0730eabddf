import TopicBroker.Proofs.Failure.Chain

/-!
# What failures do not tell

Faults inside of a program, and those of which nothing is known, are reported without their texts: what
callers and tags get is the type of the cause, its kind, and the contexts. Main statements: two such
causes of one type and one kind cannot be told apart from outside, and of any other cause callers get
the text and nothing of its contexts.
-/

namespace TopicBroker

/-- The name of a type of causes. -/
def CauseType.name : CauseType → String
  | .broker => "BrokerError"
  | .settings => "SettingsError"
  | .generic => "GenericError"
  | .foreign typeName => typeName

/-- Texts are kept from callers where something is unknown or internal. -/
theorem StatusCode.isHidden_iff {s : StatusCode} :
    s.isHidden = true ↔ s = .unknown ∨ s = .internal := by
  cases s <;> simp [isHidden]

namespace Cause

/-- Whether a cause leaves it to others what callers are told and what its tags are. The errors of a
broker do not, and foreign errors need not. -/
def KeepsDefaults : Cause → Prop
  | .broker _ => False
  | .settings _ => True
  | .generic .. => True
  | .foreign error => error.clientMessage = none ∧ error.tags = none ∧ error.label = none

/-- Whether a cause is one of this library. -/
def IsOwn (c : Cause) : Prop := ∀ error, c ≠ .foreign error

variable {c : Cause}

/-- A cause that keeps the defaults says nothing to callers by itself. -/
theorem KeepsDefaults.ownClientMessage (h : c.KeepsDefaults) : c.ownClientMessage = none := by
  cases c with
  | broker error => exact h.elim
  | settings error => rfl
  | generic code text => rfl
  | foreign error => exact h.1

/-- Nor has it tags of its own, and it bears the name of its type. -/
theorem KeepsDefaults.tags_eq (h : c.KeepsDefaults) : c.tags = errorTags c.type.name c.status := by
  cases c with
  | broker error => exact h.elim
  | settings error => rfl
  | generic code text => rfl
  | foreign error =>
    obtain ⟨-, tags, label⟩ := h
    simp only [Cause.tags, ownTags, tags, typeName, label, Option.getD_none]
    rfl

/-- Callers are not told its text if it is unknown or internal. -/
theorem KeepsDefaults.clientMessage_eq (h : c.KeepsDefaults)
    (hidden : c.status = .unknown ∨ c.status = .internal) : c.clientMessage = "Internal error" := by
  rw [Cause.clientMessage, h.ownClientMessage, StatusCode.isHidden_iff.mpr hidden]
  rfl

/-- What a cause of this library says to callers by itself is its text. -/
theorem IsOwn.ownClientMessage (own : c.IsOwn) :
    c.ownClientMessage = none ∨ c.ownClientMessage = some c.text := by
  cases c with
  | broker error => exact .inr rfl
  | settings error => exact .inl rfl
  | generic code text => exact .inl rfl
  | foreign error => exact absurd rfl (own error)

/-- Callers are told the text of a cause of this library that is neither unknown nor internal. -/
theorem IsOwn.clientMessage_eq (own : c.IsOwn) (known : c.status ≠ .unknown)
    (outside : c.status ≠ .internal) : c.clientMessage = c.text := by
  have shown : c.status.isHidden = false :=
    Bool.eq_false_iff.mpr (mt StatusCode.isHidden_iff.mp (not_or.mpr ⟨known, outside⟩))
  rw [clientMessage, shown]
  rcases own.ownClientMessage with silent | told
  · rw [silent]
    rfl
  · rw [told]
    rfl

end Cause

/-- Whether two failures differ at most in what their causes keep from callers: they have the same
contexts, and causes of one type and one kind that is kept from callers. -/
structure Failure.Twins (f f' : Failure) : Prop where
  /-- The contexts are the same, at the same places. -/
  contexts : f.report.contexts = f'.report.contexts
  /-- The causes are of one type. -/
  type : f.report.cause.type = f'.report.cause.type
  /-- They are of one kind. -/
  status : f.report.cause.status = f'.report.cause.status
  /-- The one says nothing of its own. -/
  left : f.report.cause.KeepsDefaults
  /-- Nor does the other one. -/
  right : f'.report.cause.KeepsDefaults
  /-- It is not known what went wrong, or it is a fault inside of the program. -/
  hidden : f.report.cause.status = .unknown ∨ f.report.cause.status = .internal

/-- Whether two reports are the same for all who do not look at their causes. -/
structure Report.LooksLike (r r' : Report) : Prop where
  /-- Callers are told the same text. -/
  clientMessage : r.clientMessage = r'.clientMessage
  /-- They get the same response: code, text and contexts. -/
  response : r.response = r'.response
  /-- The tags are the same. -/
  tags : r.tags = r'.tags
  /-- The kind is the same. -/
  status : r.status = r'.status
  /-- Both are logged at the same level. -/
  logLevel : r.logLevel = r'.logLevel

/-- Reports look the same when their contexts are the same and their causes have the same kind, text
for callers and tags. -/
theorem Report.looksLike_of_eq {r r' : Report} (contexts : r.contexts = r'.contexts)
    (status : r.status = r'.status) (clientMessage : r.clientMessage = r'.clientMessage)
    (tags : r.tags = r'.tags) : r.LooksLike r' where
  clientMessage := clientMessage
  response := by rw [response, response, status, clientMessage, contextTexts, contextTexts, contexts]
  tags := tags
  status := status
  logLevel := by rw [logLevel, logLevel, status]

namespace Failure.Twins

variable {f f' : Failure}

/-- Callers are told the same of both causes. -/
theorem clientMessage_eq (h : f.Twins f') :
    f.report.cause.clientMessage = "Internal error" ∧
      f'.report.cause.clientMessage = "Internal error" :=
  ⟨h.left.clientMessage_eq h.hidden, h.right.clientMessage_eq (h.status ▸ h.hidden)⟩

/-- In the same contexts, the reports of both look the same. -/
theorem looksLike_within (h : f.Twins f') (contexts : List ReportContext) :
    (f.report.within contexts).LooksLike (f'.report.within contexts) := by
  obtain ⟨left, right⟩ := h.clientMessage_eq
  refine Report.looksLike_of_eq ?_ h.status (left.trans right.symm) ?_
  · rw [Report.within, Report.within, h.contexts]
  · show f.report.cause.tags = f'.report.cause.tags
    rw [h.left.tags_eq, h.right.tags_eq, h.type, h.status]

end Failure.Twins

namespace Outcome

/-- What is told of failures to which contexts are given. -/
structure Discretion (α : Type) : Prop where
  /-- Of two failures that differ in what is kept from callers, the same is told in the same contexts,
  in whatever ways these are given. -/
  hidden : ∀ (f f' : Failure) (uses uses' : List ContextUse), f.Twins f' →
    uses.map (·.entry) = uses'.map (·.entry) → ∃ last last' : Failure,
      attachAll (α := α) (.error f) uses = .error last ∧
      attachAll (α := α) (.error f') uses' = .error last' ∧
      last.report.LooksLike last'.report ∧ last.report.clientMessage = "Internal error"
  /-- Of a cause of this library that is neither unknown nor internal, callers are told the whole
  text, and nothing else in whatever contexts it stands. -/
  shown : ∀ (f : Failure) (uses : List ContextUse), f.report.cause.IsOwn →
    f.report.cause.status ≠ .unknown → f.report.cause.status ≠ .internal → ∃ last : Failure,
      attachAll (α := α) (.error f) uses = .error last ∧
      last.report.clientMessage = f.report.cause.text ∧
      last.report.response.message = f.report.cause.text

/-- Failures tell callers the texts of causes that are neither unknown nor internal, and no others. -/
theorem discretion (α : Type) : Discretion α where
  hidden f f' uses uses' twins same := by
    obtain ⟨last, given, report⟩ := attachAll_error (α := α) f uses
    obtain ⟨last', given', report'⟩ := attachAll_error (α := α) f' uses'
    refine ⟨last, last', given, given', ?_, ?_⟩
    · rw [report, report', same]
      exact twins.looksLike_within _
    · rw [report]
      exact twins.clientMessage_eq.1
  shown f uses own known outside := by
    obtain ⟨last, given, report⟩ := attachAll_error (α := α) f uses
    refine ⟨last, given, ?_⟩
    rw [report]
    have told := own.clientMessage_eq known outside
    exact ⟨told, told⟩

/-- Something unknown, once bare and once with another text in a report, in contexts that are given in
different ways; a foreign fault inside of the program, with two texts; something that is not supported;
and a topic that was not found. -/
theorem discretion_diskFull :
    let disk : ForeignError :=
      { typeName := "PlainError", text := "disk full", debugText := "PlainError(1)" }
    (∃ last last' : Failure,
      attachAll (α := Unit) (.error (.bare (.generic .unknown "disk full"))) nesting = .error last ∧
      attachAll (α := Unit) (.error (.reported { cause := .generic .unknown "bad password" }))
        (nesting.map fun u => ⟨.inPlace u.form.text, u.place⟩) = .error last' ∧
      last.report.LooksLike last'.report ∧ last.report.clientMessage = "Internal error") ∧
      (∃ last last' : Failure,
        attachAll (α := Unit) (.error (.bare (.foreign disk))) nesting = .error last ∧
        attachAll (α := Unit) (.error (.bare (.foreign { disk with text := "bad password" })))
          nesting = .error last' ∧
        last.report.LooksLike last'.report ∧ last.report.clientMessage = "Internal error") ∧
      (∃ last : Failure,
        attachAll (α := Unit) (.error (.bare (.generic .unsupported "no such codec"))) nesting =
          .error last ∧
        last.report.clientMessage = "no such codec" ∧
        last.report.response.message = "no such codec") ∧
      ∃ last : Failure,
        attachAll (α := Unit) (.error (.bare (.broker (.topicNotFound "a")))) nesting = .error last ∧
        last.report.clientMessage = "topic not found: a" ∧
        last.report.response.message = "topic not found: a" :=
  ⟨(discretion Unit).hidden _ _ _ _ ⟨rfl, rfl, rfl, trivial, trivial, .inl rfl⟩ rfl,
    (discretion Unit).hidden _ _ _ _
      ⟨rfl, rfl, rfl, ⟨rfl, rfl, rfl⟩, ⟨rfl, rfl, rfl⟩, .inr rfl⟩ rfl,
    (discretion Unit).shown (.bare (.generic .unsupported "no such codec")) _ nofun nofun nofun,
    (discretion Unit).shown (.bare (.broker (.topicNotFound "a"))) _ nofun nofun nofun⟩

end Outcome

end TopicBroker
