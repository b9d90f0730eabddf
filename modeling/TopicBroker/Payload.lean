/-!
# Payloads

The value that a message carries, together with its type. A payload can be read only at the type at
which it was made; numbers are not converted.
-/

namespace TopicBroker

/-- The types that a payload may have. -/
inductive PayloadKind where
  /-- No information. -/
  | unit
  /-- A truth value. -/
  | bool
  /-- A signed word of 64 bits. -/
  | int64
  /-- An unsigned word of 64 bits. -/
  | uint64
  /-- An unsigned word of 32 bits. -/
  | uint32
  /-- A text. -/
  | text
  /-- Signed words of 64 bits in order. -/
  | list
  deriving Repr, DecidableEq, Inhabited

namespace PayloadKind

/-- The values of a type. -/
def Value : PayloadKind → Type
  | .unit => Unit
  | .bool => Bool
  | .int64 => Int64
  | .uint64 => UInt64
  | .uint32 => UInt32
  | .text => String
  | .list => List Int64

/-- The name of a type in diagnostic texts. -/
def typeName : PayloadKind → String
  | .unit => "()"
  | .bool => "bool"
  | .int64 => "i64"
  | .uint64 => "u64"
  | .uint32 => "u32"
  | .text => "alloc::string::String"
  | .list => "alloc::vec::Vec<i64>"

end PayloadKind

/-- A value with its type. -/
structure Payload where
  /-- The type. -/
  kind : PayloadKind
  /-- The value. -/
  value : kind.Value

namespace Payload

instance : Inhabited Payload := ⟨⟨.unit, ()⟩⟩

/-- The payload without information. -/
def unit : Payload := ⟨.unit, ()⟩

/-- The name of the payload's type. -/
def typeName (p : Payload) : String := p.kind.typeName

/-- Whether a payload has the given type. -/
def is (p : Payload) (kind : PayloadKind) : Bool := p.kind == kind

/-- The value of a payload that has the given type. -/
def read? (p : Payload) (kind : PayloadKind) : Option kind.Value :=
  if h : p.kind = kind then some (h ▸ p.value) else none

/-- The payload as a diagnostic text. -/
def describe (p : Payload) : String := "Payload<" ++ p.typeName ++ ">"

/-- A payload is read at its own type. -/
@[simp] theorem read?_self (kind : PayloadKind) (value : kind.Value) :
    (Payload.mk kind value).read? kind = some value := by
  simp [read?]

/-- Reading succeeds exactly at the payload's own type. -/
theorem isSome_read? (p : Payload) (kind : PayloadKind) :
    (p.read? kind).isSome = p.is kind := by
  by_cases h : p.kind = kind <;> simp [read?, is, h]

end Payload

end TopicBroker
