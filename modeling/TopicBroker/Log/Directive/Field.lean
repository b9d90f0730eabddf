import TopicBroker.Number.Shortest
import TopicBroker.Number.Word
import TopicBroker.Pattern.Regex
import TopicBroker.Text.Fields

/-!
# Fields in log directives

A directive may ask for a field of a certain name, and even for its value: a truth value, a number,
or a pattern for its text.
-/

namespace TopicBroker

/-- The value that a field has to have. -/
inductive FieldValue where
  /-- A truth value. -/
  | truth (value : Bool)
  /-- A number with a fraction or an exponent. -/
  | float (value : Binary64)
  /-- A number without sign. -/
  | unsigned (value : Nat)
  /-- A negative number. -/
  | signed (value : Int)
  /-- A text that the pattern matches. -/
  | pattern (text : String)
  deriving Repr, DecidableEq, Inhabited

namespace FieldValue

/-- Whether a text is a pattern for texts: a regular expression that asks nowhere whether a word of
letters beyond ASCII begins or ends. -/
def isPattern (s : String) : Bool :=
  (Regex.Expr.ofText? s).any fun e => !e.hasLook Regex.Look.isUnicode

/-- The value that a text stands for. -/
def ofText? (s : String) : Option FieldValue :=
  if s = "true" then some (.truth true)
  else if s = "false" then some (.truth false)
  else
    match Decimal.intValue? s.toList with
    | some i =>
      if s.startsWith "-" then
        if Word.holdsSigned 64 i then some (.signed i)
        else (Binary64.ofChars? s.toList).map .float
      else if Word.holds 64 i then some (.unsigned i.toNat)
      else (Binary64.ofChars? s.toList).map .float
    | none =>
      match Binary64.ofChars? s.toList with
      | some x => some (.float x)
      | none => if isPattern s then some (.pattern s) else none

/-- The value as a text. -/
def describe : FieldValue → String
  | .truth b => if b then "true" else "false"
  | .float x => x.toText
  | .unsigned n => Decimal.ofNat n
  | .signed i => Decimal.ofInt i
  | .pattern text => text

/-- The place of a kind of values among all kinds. -/
def rank : FieldValue → Nat
  | .truth _ => 0
  | .float .nan => 2
  | .float _ => 1
  | .unsigned _ => 3
  | .signed _ => 4
  | .pattern _ => 5

/-- The order of values: by kind, and within a kind by value. -/
def order (v w : FieldValue) : Ordering :=
  match v, w with
  | .truth a, .truth b => compare a b
  | .float a, .float b => (compare v.rank w.rank).then (compare a.inUnits b.inUnits)
  | .unsigned a, .unsigned b => compare a b
  | .signed a, .signed b => compare a b
  | .pattern a, .pattern b => compare a b
  | _, _ => compare v.rank w.rank

end FieldValue

/-- A field that a record has to have. -/
structure FieldMatch where
  /-- The name of the field. -/
  name : String
  /-- The value, if it matters. -/
  value : Option FieldValue
  deriving Repr, DecidableEq, Inhabited

namespace FieldMatch

/-- The field that a text asks for: a name, and behind an equals sign a value. -/
def ofText? (s : String) : Option FieldMatch :=
  match Text.fields '=' s with
  | name :: value :: _ => (FieldValue.ofText? value).map fun v => ⟨name, some v⟩
  | name :: [] => some ⟨name, none⟩
  | [] => some ⟨"", none⟩

/-- The field as a text. -/
def describe (m : FieldMatch) : String :=
  match m.value with
  | none => m.name
  | some v => m.name ++ "=" ++ v.describe

/-- The order of two values, of which either may not matter. -/
def valueOrder : Option FieldValue → Option FieldValue → Ordering
  | some v, some w => v.order w
  | none, none => .eq
  | none, some _ => .lt
  | some _, none => .gt

/-- The order of fields: those whose value does not matter first, then by name and value. -/
def order (m n : FieldMatch) : Ordering :=
  (compare m.value.isSome n.value.isSome).then
    ((compare m.name n.name).then (valueOrder m.value n.value))

end FieldMatch

end TopicBroker
