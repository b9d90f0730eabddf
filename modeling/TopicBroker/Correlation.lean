/-!
# Correlation contexts

A context travels with publications: the id of a transaction, the name of a source, and a switch
that cancels the work. Contexts that come from one another share the switch, so a context names the
family of contexts that it belongs to, and the switches are kept by family.
-/

namespace TopicBroker

/-- A context of a publication. -/
structure Correlation where
  /-- The transaction, if one is set. -/
  txId : Option String
  /-- The source, if one is set. -/
  source : Option String
  /-- The family, which shares one switch. -/
  family : Nat
  deriving Repr, DecidableEq, Inhabited

namespace Correlation

/-- A context in which nothing is set. -/
def new (family : Nat) : Correlation := ⟨none, none, family⟩

/-- The context with another transaction. -/
def withTxId (c : Correlation) (txId : String) : Correlation := { c with txId := some txId }

/-- The context with another source. -/
def withSource (c : Correlation) (source : String) : Correlation := { c with source := some source }

/-- The context with those of two values that are given. -/
def withValues (c : Correlation) (txId source : Option String) : Correlation :=
  { c with txId := txId.or c.txId, source := source.or c.source }

end Correlation

/-- All families of contexts and the ones that are cancelled. -/
structure Families where
  /-- How many families there are; they are numbered from zero. -/
  count : Nat := 0
  /-- The cancelled families, the last one first. -/
  cancelled : List Nat := []
  deriving Repr, DecidableEq, Inhabited

namespace Families

/-- Start a family with a new context. -/
def start (f : Families) : Correlation × Families :=
  (.new f.count, { f with count := f.count + 1 })

/-- Cancel the family of a context. -/
def cancel (f : Families) (c : Correlation) : Families :=
  { f with cancelled := c.family :: f.cancelled }

/-- Whether the family of a context is cancelled. -/
def isCancelled (f : Families) (c : Correlation) : Bool := decide (c.family ∈ f.cancelled)

/-- Cancelling a context shows in exactly the contexts of its family. -/
theorem isCancelled_cancel (f : Families) (c d : Correlation) :
    (f.cancel c).isCancelled d = (decide (d.family = c.family) || f.isCancelled d) := by
  simp [isCancelled, cancel]

end Families

/-- What a context shows: its values and the state of its switch. -/
structure CorrelationView where
  /-- The transaction. -/
  txId : Option String
  /-- The source. -/
  source : Option String
  /-- Whether the switch is set. -/
  cancelled : Bool
  deriving Repr, DecidableEq, Inhabited

/-- What a context shows. -/
def Families.view (f : Families) (c : Correlation) : CorrelationView :=
  ⟨c.txId, c.source, f.isCancelled c⟩

end TopicBroker
