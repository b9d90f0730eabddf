import TopicBroker.Text.Keyword

/-!
# Strategies

How a broker reads the patterns of its handlers, and how it makes ids. Both are chosen by a word.
-/

namespace TopicBroker

/-- How a pattern is read. -/
inductive MatchStrategy where
  /-- As a regular expression that is searched for in the name. -/
  | regex
  /-- As a glob pattern for the whole name. -/
  | glob
  /-- As the name itself. -/
  | exact
  deriving Repr, DecidableEq, Inhabited

namespace MatchStrategy

/-- The strategy of a broker for which none is chosen. -/
def default : MatchStrategy := .regex

/-- The words that choose a strategy. -/
def words : List (String × MatchStrategy) := [("regex", .regex), ("glob", .glob), ("exact", .exact)]

/-- The strategy that a text chooses. -/
def ofText? (s : String) : Option MatchStrategy := Text.keyword? words s

/-- The name of a strategy in diagnostic texts. -/
def name : MatchStrategy → String
  | .regex => "Regex"
  | .glob => "Glob"
  | .exact => "Exact"

end MatchStrategy

/-- How ids are made. -/
inductive IdGeneratorKind where
  /-- At random. -/
  | uuid
  /-- By counting. -/
  | counter
  deriving Repr, DecidableEq, Inhabited

namespace IdGeneratorKind

/-- How ids are made where nothing is chosen. -/
def default : IdGeneratorKind := .uuid

/-- The words that choose how ids are made. -/
def words : List (String × IdGeneratorKind) := [("uuid", .uuid), ("counter", .counter)]

/-- The kind of ids that a text chooses. -/
def ofText? (s : String) : Option IdGeneratorKind := Text.keyword? words s

/-- The name of a kind in diagnostic texts. -/
def name : IdGeneratorKind → String
  | .uuid => "Uuid"
  | .counter => "Counter"

end IdGeneratorKind

end TopicBroker
