import TopicBroker.Log.Record
import TopicBroker.Text.Keyword

/-!
# Log thresholds

Up to which level records are written. Main statement: a threshold lets a level through exactly if
its verbosity is not exceeded.
-/

namespace TopicBroker

/-- Up to which level records are written. -/
inductive LogThreshold where
  /-- No record is written. -/
  | off
  /-- Records of this level and of all levels above it in importance are written. -/
  | upTo (level : LogLevel)
  deriving Repr, DecidableEq, Inhabited

namespace LogThreshold

/-- How much is written: the number of levels that are. -/
def verbosity : LogThreshold → Nat
  | .off => 0
  | .upTo level => level.verbosity

/-- Whether records of a level are written. -/
def allows (t : LogThreshold) (level : LogLevel) : Bool := level.verbosity ≤ t.verbosity

/-- The more verbose of two thresholds. -/
def max (s t : LogThreshold) : LogThreshold := if s.verbosity < t.verbosity then t else s

/-- A threshold that is off lets nothing through. -/
theorem allows_off (level : LogLevel) : off.allows level = false := by cases level <;> rfl

/-- What one of two thresholds allows, the more verbose one does. -/
theorem allows_max (s t : LogThreshold) (level : LogLevel) :
    (s.max t).allows level = (s.allows level || t.allows level) := by
  simp only [allows, max]
  rw [← Bool.decide_or]
  apply decide_eq_decide.2
  split <;> omega

/-- The name of a threshold. -/
def name : LogThreshold → String
  | .off => "off"
  | .upTo .error => "error"
  | .upTo .warn => "warn"
  | .upTo .info => "info"
  | .upTo .debug => "debug"
  | .upTo .trace => "trace"

/-- All thresholds in the order of their verbosity. -/
def all : List LogThreshold :=
  [.off, .upTo .error, .upTo .warn, .upTo .info, .upTo .debug, .upTo .trace]

/-- The threshold that a number stands for, possibly with a plus sign. -/
def ofNumeral? : List Char → Option LogThreshold
  | '+' :: cs => (Decimal.natValue? cs).bind fun n => all[n]?
  | cs => (Decimal.natValue? cs).bind fun n => all[n]?

/-- The threshold that a text stands for: a verbosity, or a name in letters of any case. -/
def ofText? (s : String) : Option LogThreshold :=
  (ofNumeral? s.toList).or <| all.find? fun t => t.name == Text.asciiLower s

/-- Every threshold is read back from its name. -/
theorem ofText?_name (t : LogThreshold) : ofText? t.name = some t := by
  rcases t with _ | level
  · decide +kernel
  · cases level <;> decide +kernel

end LogThreshold

end TopicBroker
