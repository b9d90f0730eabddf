import TopicBroker.Ids.Counter
import TopicBroker.Ids.Uuid

/-!
# Sources of ids

A source gives one id after the other out of an endless sequence; what was drawn does not come
back.
-/

namespace TopicBroker

/-- A source of ids. -/
structure IdSource where
  /-- The whole sequence. -/
  ids : Nat → String
  /-- How many ids were drawn. -/
  drawn : Nat := 0

namespace IdSource

/-- The next id and the source behind it. -/
def draw (s : IdSource) : String × IdSource := (s.ids s.drawn, { s with drawn := s.drawn + 1 })

/-- Draw an id only where none is given. -/
def fill (s : IdSource) : Option String → String × IdSource
  | some id => (id, s)
  | none => s.draw

/-- Counted ids; the number is kept in a word of 64 bits. -/
def counted (label : String) : IdSource :=
  { ids := fun n => Counter.idText label (UInt64.ofNat (n + 1)).toNat }

/-- The given ids over and over. -/
def cycling (ids : List String) : IdSource :=
  { ids := fun n => (ids[n % ids.length]?).getD "" }

/-- Random ids. -/
def random (seed : UInt64) : IdSource := { ids := Uuid.nth seed }

/-- Drawing takes one id off the sequence. -/
theorem drawn_draw (s : IdSource) : s.draw.2.drawn = s.drawn + 1 := rfl

/-- A source of counted ids draws what a counter generates. -/
theorem counted_eq_generate (label : String) (n : Nat) :
    (counted label).ids n = (Counter.generate ⟨label, UInt64.ofNat (n + 1)⟩).1 := rfl

end IdSource

end TopicBroker
