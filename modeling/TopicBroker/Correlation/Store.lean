import TopicBroker.Correlation
import TopicBroker.Table

/-!
# Named contexts

Contexts that are kept under names, together with all families of contexts. Replacing the context
of a name leaves the other members of its family as they are.
-/

namespace TopicBroker

/-- Contexts under names. -/
structure ContextStore where
  /-- The contexts. -/
  named : Table Correlation := .empty
  /-- The families they and all other contexts belong to. -/
  families : Families := {}
  deriving Inhabited

/-- A change of the contexts that are kept under names. -/
inductive ContextStep where
  /-- Keep a new context, which starts a family. -/
  | start (name : String)
  /-- Keep the context of another name with the values that are given. -/
  | derive (name origin : String) (txId source : Option String)
  /-- Cancel the family of a context. -/
  | cancel (name : String)
  deriving Repr, DecidableEq

namespace ContextStore

/-- A context that belongs to no name yet. -/
def start (s : ContextStore) : Correlation × ContextStore :=
  let (c, families) := s.families.start
  (c, { s with families })

/-- The context of a name; an unused name gives a new one. -/
def fetch (s : ContextStore) (name : String) : Correlation × ContextStore :=
  match s.named.get? name with
  | some c => (c, s)
  | none => s.start

/-- Keep a context under a name. -/
def keep (s : ContextStore) (name : String) (c : Correlation) : ContextStore :=
  { s with named := s.named.insert name c }

/-- Cancel the family of a context. -/
def cancel (s : ContextStore) (c : Correlation) : ContextStore :=
  { s with families := s.families.cancel c }

/-- What a context shows. -/
def view (s : ContextStore) (c : Correlation) : CorrelationView := s.families.view c

/-- What every named context shows. -/
def views (s : ContextStore) : Table CorrelationView := s.named.map fun _ c => s.view c

/-- Make a change. -/
def apply (s : ContextStore) : ContextStep → ContextStore
  | .start name =>
    let (c, s) := s.start
    s.keep name c
  | .derive name origin txId source =>
    let (c, s) := s.fetch origin
    s.keep name (c.withValues txId source)
  | .cancel name =>
    let (c, s) := s.fetch name
    s.cancel c

/-- What the named contexts show after each of several changes. -/
def history (s : ContextStore) : List ContextStep → List (Table CorrelationView)
  | [] => []
  | step :: rest => (s.apply step).views :: (s.apply step).history rest

end ContextStore

end TopicBroker
