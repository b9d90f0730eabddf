import TopicBroker.Pattern.Glob
import TopicBroker.Pattern.Regex
import TopicBroker.Strategy
import TopicBroker.Text.Quoted

/-!
# Matchers

A matcher decides which topics a handler is attached to. Apart from patterns there are matchers with
a condition of their own, which may also depend on switches that change while the broker runs. A
pattern that could not be read accepts no topic.
-/

namespace TopicBroker

/-- The switches that conditions may depend on, by name. -/
abbrev Flags := String → Bool

/-- What decides whether a handler wants a topic. -/
inductive Matcher where
  /-- A regular expression, if the pattern is one. -/
  | regex (pattern : String) (compiled : Option Regex)
  /-- A glob pattern, if the pattern is one. -/
  | glob (pattern : String) (compiled : Option Glob)
  /-- A name. -/
  | exact (name : String)
  /-- A condition on switches and name. -/
  | custom (pattern : String) (condition : Flags → String → Bool)

namespace Matcher

instance : Inhabited Matcher := ⟨.exact ""⟩

/-- The matcher for a pattern. -/
def compile : MatchStrategy → String → Matcher
  | .regex, pattern => .regex pattern (Regex.ofText? pattern)
  | .glob, pattern => .glob pattern (Glob.ofText? pattern)
  | .exact, pattern => .exact pattern

/-- The matcher for all names that start with a text. -/
def startingWith (text : String) : Matcher :=
  .custom text fun _ name => text.toList.isPrefixOf name.toList

/-- The matcher for every name while a switch is on. -/
def whileOn (flag : String) : Matcher := .custom flag fun flags _ => flags flag

/-- The pattern as it was given. -/
def pattern : Matcher → String
  | .regex pattern _ => pattern
  | .glob pattern _ => pattern
  | .exact name => name
  | .custom pattern _ => pattern

/-- Whether a matcher accepts a name while the switches stand as given. -/
def accepts (m : Matcher) (flags : Flags) (name : String) : Bool :=
  match m with
  | .regex _ compiled => compiled.any (·.matches? name)
  | .glob _ compiled => compiled.any (·.matches? name)
  | .exact expected => expected == name
  | .custom _ condition => condition flags name

/-- Whether a pattern could be read; a name always can, and has no such state. -/
def isValid? : Matcher → Option Bool
  | .regex _ compiled => some compiled.isSome
  | .glob _ compiled => some compiled.isSome
  | .exact _ | .custom .. => none

/-- The matcher as a diagnostic text. -/
def describe : Matcher → String
  | .regex pattern compiled =>
    "RegexMatcher \x7b pattern: " ++ Text.quote pattern ++ ", compiled: " ++
      (if compiled.isSome then "Some(Regex(" ++ Text.quote pattern ++ "))" else "None") ++ " \x7d"
  | .glob pattern _ => "GlobMatcher \x7b pattern: " ++ Text.quote pattern ++ ", .. \x7d"
  | .exact name => "ExactMatcher \x7b name: " ++ Text.quote name ++ " \x7d"
  | .custom pattern _ => Text.quote pattern

/-- A handler with the matcher, as a diagnostic text. -/
def describeHandler (m : Matcher) : String := "Handler \x7b matcher: " ++ m.describe ++ ", .. \x7d"

/-- A pattern that could not be read accepts nothing. -/
theorem accepts_of_invalid {m : Matcher} (h : m.isValid? = some false) (flags : Flags)
    (name : String) : m.accepts flags name = false := by
  cases m with
  | regex _ compiled => cases compiled <;> simp_all [isValid?, accepts]
  | glob _ compiled => cases compiled <;> simp_all [isValid?, accepts]
  | exact => simp [isValid?] at h
  | custom => simp [isValid?] at h

end Matcher

end TopicBroker
