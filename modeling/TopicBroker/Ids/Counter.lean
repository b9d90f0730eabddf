import TopicBroker.Number.Decimal
import TopicBroker.Text.Quoted

/-!
# Counted ids

Ids made of a fixed text, a dash and a number that counts from one in a word of 64 bits. Main
statement: different numbers give different ids.
-/

namespace TopicBroker

/-- A generator of counted ids. -/
structure Counter where
  /-- The text in front of every number. -/
  label : String
  /-- The number of the next id. -/
  next : UInt64
  deriving Repr, DecidableEq, Inhabited

namespace Counter

/-- A generator that has issued nothing. -/
def new (label : String) : Counter := ⟨label, 1⟩

/-- The text in front of every number where none is chosen. -/
def defaultLabel : String := "msg"

/-- The id with a given number. -/
def idText (label : String) (n : Nat) : String := label ++ "-" ++ Decimal.ofNat n

/-- Draw an id. -/
def generate (c : Counter) : String × Counter :=
  (idText c.label c.next.toNat, { c with next := c.next + 1 })

/-- Draw a number of ids, first one first. -/
def generateMany : Nat → Counter → List String × Counter
  | 0, c => ([], c)
  | n + 1, c =>
    let (id, c) := c.generate
    let (ids, c) := generateMany n c
    (id :: ids, c)

/-- How many ids were issued. -/
def issued (c : Counter) : UInt64 := c.next - 1

/-- The generator as a diagnostic text. -/
def describe (c : Counter) : String :=
  "CounterIdGenerator \x7b prefix: " ++ Text.quote c.label ++ ", issued: " ++
    Decimal.ofNat c.issued.toNat ++ " \x7d"

/-- Ids with one label and different numbers differ. -/
theorem idText_injective {label : String} {m n : Nat} (h : idText label m = idText label n) :
    m = n := by
  have lists := congrArg String.toList h
  simp only [idText, String.toList_append, Decimal.ofNat, String.toList_ofList] at lists
  exact Decimal.digits_injective (List.append_cancel_left lists)

end Counter

end TopicBroker
