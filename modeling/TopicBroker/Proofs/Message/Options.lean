import Mathlib.Data.List.Induction
import TopicBroker.Message

/-!
# What options hold

Options are built up by fixing one part of a message after the other. Whatever was fixed before, a
part holds the value that was given to it last, and nothing if none was. So the parts do not get into
each other's way, and of several values for the same part only the last one matters.
-/

namespace TopicBroker

/-- A part of a message that options can fix. -/
inductive MessagePart where
  /-- The id. -/
  | id
  /-- The transaction. -/
  | txId
  /-- The source. -/
  | source
  /-- The time in milliseconds since 1970. -/
  | occurredAt
  deriving Repr, DecidableEq

/-- The values of a part. -/
abbrev MessagePart.Value : MessagePart → Type
  | .occurredAt => Int
  | _ => String

namespace MessageOption

/-- The part to which a value is given. -/
def part : MessageOption → MessagePart
  | .id _ => .id
  | .txId _ => .txId
  | .source _ => .source
  | .occurredAt _ => .occurredAt

/-- The value that is given to a part. -/
def value? : MessageOption → (part : MessagePart) → Option part.Value
  | .id value, .id => some value
  | .txId value, .txId => some value
  | .source value, .source => some value
  | .occurredAt value, .occurredAt => some value
  | _, _ => none

/-- A value is given to one part only. -/
theorem isSome_value? (a : MessageOption) (part : MessagePart) :
    (a.value? part).isSome = true ↔ a.part = part := by
  cases a <;> cases part <;> simp [value?, MessageOption.part]

/-- All other parts are given none. -/
theorem value?_of_ne {a : MessageOption} {part : MessagePart} (other : a.part ≠ part) :
    a.value? part = none := by
  rw [← Option.not_isSome_iff_eq_none, isSome_value?]
  exact other

/-- The last one of several values that is given to a part. -/
def last? (parts : List MessageOption) (part : MessagePart) : Option part.Value :=
  (parts.filterMap (·.value? part)).getLast?

@[simp] theorem last?_nil (part : MessagePart) : last? [] part = none := rfl

/-- What comes later counts, if anything comes later. -/
theorem last?_append (earlier later : List MessageOption) (part : MessagePart) :
    last? (earlier ++ later) part = (last? later part).or (last? earlier part) := by
  rw [last?, last?, last?, List.filterMap_append, List.getLast?_append]

/-- A single value is the last one of its part. -/
theorem last?_singleton (a : MessageOption) (part : MessagePart) :
    last? [a] part = a.value? part := by
  unfold last?
  cases given : a.value? part <;> simp [given]

/-- The first value counts if none comes later. -/
theorem last?_cons (a : MessageOption) (rest : List MessageOption) (part : MessagePart) :
    last? (a :: rest) part = (last? rest part).or (a.value? part) := by
  rw [← List.singleton_append, last?_append, last?_singleton]

/-- A value is given to a part last exactly if it is given, and none is given to this part
afterwards. -/
theorem last?_eq_some_iff {parts : List MessageOption} {part : MessagePart} {value : part.Value} :
    last? parts part = some value ↔ ∃ before a after, parts = before ++ a :: after ∧
      a.value? part = some value ∧ ∀ b ∈ after, b.part ≠ part := by
  constructor
  · intro last
    induction parts using List.reverseRecOn with
    | nil => cases last
    | append_singleton parts b ih =>
      rw [last?_append, last?_singleton] at last
      by_cases own : b.part = part
      · obtain ⟨own', given⟩ := Option.isSome_iff_exists.mp ((isSome_value? b part).mpr own)
        rw [given, Option.some_or] at last
        exact ⟨parts, b, [], rfl, given.trans last, fun _ hb => absurd hb List.not_mem_nil⟩
      · rw [value?_of_ne own, Option.none_or] at last
        obtain ⟨before, a, after, rfl, given, silent⟩ := ih last
        refine ⟨before, a, after ++ [b], by simp, given, fun x hx => ?_⟩
        rcases List.mem_append.mp hx with earlier | here
        · exact silent x earlier
        · rw [List.mem_singleton.mp here]
          exact own
  · rintro ⟨before, a, after, rfl, given, silent⟩
    have none : after.filterMap (·.value? part) = [] :=
      List.filterMap_eq_nil_iff.mpr fun b hb => value?_of_ne (silent b hb)
    rw [last?_append, last?_cons, last?, none, given]
    rfl

end MessageOption

open MessageOption

namespace MessageOptions

/-- What options hold for a part. -/
def get (o : MessageOptions) : (part : MessagePart) → Option part.Value
  | .id => o.id
  | .txId => o.txId
  | .source => o.source
  | .occurredAt => o.occurredAt

/-- Options are the same if they hold the same for every part. -/
theorem ext_get {o o' : MessageOptions} (same : ∀ part, o.get part = o'.get part) : o = o' := by
  obtain ⟨id, txId, source, occurredAt⟩ := o
  obtain ⟨id', txId', source', occurredAt'⟩ := o'
  have eqId : id = id' := same .id
  have eqTxId : txId = txId' := same .txId
  have eqSource : source = source' := same .source
  have eqTime : occurredAt = occurredAt' := same .occurredAt
  rw [eqId, eqTxId, eqSource, eqTime]

/-- Fixing a part changes this part and no other. -/
theorem get_set (o : MessageOptions) (a : MessageOption) (part : MessagePart) :
    (o.set a).get part = (a.value? part).or (o.get part) := by
  cases a <;> cases part <;> rfl

theorem setAll_append (o : MessageOptions) (earlier later : List MessageOption) :
    o.setAll (earlier ++ later) = (o.setAll earlier).setAll later :=
  List.foldl_append

/-- After several parts were fixed, a part holds the last value that was given to it, and if there
was none, what it held before. -/
theorem get_setAll (o : MessageOptions) (parts : List MessageOption) (part : MessagePart) :
    (o.setAll parts).get part = (last? parts part).or (o.get part) := by
  induction parts using List.reverseRecOn with
  | nil => rfl
  | append_singleton parts a ih =>
    have last : o.setAll (parts ++ [a]) = (o.setAll parts).set a := setAll_append o parts [a]
    rw [last, get_set, ih, last?_append, last?_singleton, Option.or_assoc]

/-- Only the last value of every part matters. -/
theorem setAll_congr (o : MessageOptions) {parts parts' : List MessageOption}
    (same : ∀ part, last? parts part = last? parts' part) : o.setAll parts = o.setAll parts' :=
  ext_get fun part => by rw [get_setAll, get_setAll, same]

/-- Different parts can be fixed in any order. -/
theorem setAll_swap (o : MessageOptions) {a b : MessageOption} (apart : a.part ≠ b.part)
    (before after : List MessageOption) :
    o.setAll (before ++ a :: b :: after) = o.setAll (before ++ b :: a :: after) := by
  refine o.setAll_congr fun part => ?_
  have swapped : (b.value? part).or (a.value? part) = (a.value? part).or (b.value? part) := by
    by_cases own : a.part = part
    · rw [value?_of_ne (own ▸ apart.symm), Option.none_or, Option.or_none]
    · rw [value?_of_ne own, Option.or_none, Option.none_or]
  have later : last? (a :: b :: after) part = last? (b :: a :: after) part := by
    rw [last?_cons, last?_cons, last?_cons, last?_cons, Option.or_assoc, Option.or_assoc, swapped]
  rw [last?_append, last?_append, later]

/-- A value is irrelevant if another one is given to the same part later. -/
theorem setAll_overwritten (o : MessageOptions) {a b : MessageOption} (same : a.part = b.part)
    (before between after : List MessageOption) :
    o.setAll (before ++ a :: between ++ b :: after) =
      o.setAll (before ++ between ++ b :: after) := by
  refine o.setAll_congr fun part => ?_
  have hidden : (b.value? part).or ((last? between part).or (a.value? part)) =
      (b.value? part).or (last? between part) := by
    by_cases own : a.part = part
    · obtain ⟨value, given⟩ :=
        Option.isSome_iff_exists.mp ((isSome_value? b part).mpr (same ▸ own))
      rw [given, Option.some_or, Option.some_or]
    · rw [value?_of_ne own, Option.or_none]
  have earlier : (last? (b :: after) part).or (last? (a :: between) part) =
      (last? (b :: after) part).or (last? between part) := by
    rw [last?_cons, last?_cons, Option.or_assoc, Option.or_assoc, hidden]
  rw [last?_append, last?_append, last?_append, last?_append, ← Option.or_assoc, ← Option.or_assoc,
    earlier]

end MessageOptions

end TopicBroker
