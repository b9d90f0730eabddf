import TopicBroker.Pattern.Regex.Automaton
import TopicBroker.Pattern.Regex.Mode
import TopicBroker.Pattern.Regex.Reader
import TopicBroker.Pattern.Regex.Size

/-!
# Regular expression patterns

A pattern is a regular expression that is searched for anywhere in a name. A text that is not well
formed, means nothing or is too large is no pattern.
-/

namespace TopicBroker

/-- A regular expression that was accepted, ready for searching. -/
structure Regex where
  /-- Its automaton. -/
  automaton : Regex.Automaton

namespace Regex

/-- The expression that a text holds. -/
def Expr.ofText? (s : String) : Option Expr := (Tree.ofText? s).bind Expr.ofTree?

/-- The regular expression that a text holds. -/
def ofText? (s : String) : Option Regex := do
  let e ← Expr.ofText? s
  if e.fits then some ⟨.ofExpr e⟩ else none

/-- Whether the expression matches somewhere in a name. -/
def matches? (r : Regex) (name : String) : Bool := r.automaton.isIn name

end Regex

end TopicBroker
