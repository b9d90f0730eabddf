import TopicBroker.Document

/-!
# Refused documents

What is said of a document that holds something else than was expected.
-/

namespace TopicBroker

/-- Why a document is refused, as a text. -/
abbrev Refusal := String

namespace Document

/-- A value of another kind. -/
def refused (d : Document) (expected : String) : Refusal :=
  "invalid type: " ++ d.describe ++ ", expected " ++ expected

/-- A value of the right kind that is out of range. -/
def outOfRange (d : Document) (expected : String) : Refusal :=
  "invalid value: " ++ d.describe ++ ", expected " ++ expected

/-- A list with more items than there are places for. -/
def tooLong (n : Nat) : Refusal :=
  "invalid length " ++ Decimal.ofNat n ++ ", expected fewer elements in array"

/-- A text. -/
def readText : Document → Except Refusal String
  | .text s => .ok s
  | d => .error (d.refused "a string")

/-- A text or null. -/
def readOptionalText : Document → Except Refusal (Option String)
  | .null => .ok none
  | d => some <$> d.readText

/-- A truth value. -/
def readTruth : Document → Except Refusal Bool
  | .bool b => .ok b
  | d => .error (d.refused "a boolean")

end Document

end TopicBroker
