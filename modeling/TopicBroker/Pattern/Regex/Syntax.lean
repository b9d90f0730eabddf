/-!
# Syntax of regular expressions

What the text of a regular expression says, before any of it is interpreted: literals, classes,
groups with their flags, repetitions and alternatives, as they were written.
-/

namespace TopicBroker.Regex

/-- A switch that changes how the rest of a group is interpreted. -/
inductive Flag where
  /-- `i`: letters match in either case. -/
  | ignoreCase
  /-- `m`: the line anchors match at every line. -/
  | multiLine
  /-- `s`: the dot matches a line end too. -/
  | dotAll
  /-- `U`: repetitions prefer the fewest turns. -/
  | swapGreed
  /-- `u`: classes range over all characters. -/
  | unicode
  /-- `R`: a carriage return before a line feed belongs to the line end. -/
  | crlf
  /-- `x`: blanks and comments are skipped. -/
  | extended
  deriving Repr, DecidableEq, Inhabited

/-- Flags as they are set in one place: each is switched on or off. -/
abbrev Settings := List (Flag × Bool)

/-- What a list of settings says about a flag. -/
def Settings.state? (settings : Settings) (flag : Flag) : Option Bool := settings.lookup flag

/-- A condition on a position, which consumes nothing. -/
inductive Anchor where
  /-- `^` -/
  | startLine
  /-- `$` -/
  | endLine
  /-- `\A` -/
  | startText
  /-- `\z` -/
  | endText
  /-- `\b` -/
  | wordBoundary
  /-- `\B` -/
  | notWordBoundary
  /-- `\b{start}` -/
  | wordStart
  /-- `\b{end}` -/
  | wordEnd
  /-- `\b{start-half}` -/
  | wordStartHalf
  /-- `\b{end-half}` -/
  | wordEndHalf
  deriving Repr, DecidableEq, Inhabited

/-- A literal character; one written as two hexadecimal digits may stand for a byte. -/
structure Literal where
  /-- The character. -/
  char : Char
  /-- Whether it was written as `\x` and two digits. -/
  isHexPair : Bool := false
  deriving Repr, DecidableEq, Inhabited

/-- A class that one letter after a backslash names. -/
inductive Shorthand where
  /-- `\d` -/
  | digit
  /-- `\s` -/
  | space
  /-- `\w` -/
  | word
  deriving Repr, DecidableEq, Inhabited

/-- What stands after `\p`: a name alone, or a property's name and a value. -/
inductive PropertyName where
  /-- A general category, a script or a binary property. -/
  | plain (name : String)
  /-- A property and one of its values, or all values but this one. -/
  | valued (name : String) (differs : Bool) (value : String)
  deriving Repr, DecidableEq, Inhabited

/-- An operation on two sets in a class. -/
inductive SetOp where
  /-- `&&` -/
  | intersection
  /-- `--` -/
  | difference
  /-- `~~` -/
  | symmetricDifference
  deriving Repr, DecidableEq, Inhabited

/-- The inside of a class in brackets. -/
inductive ClassTerm where
  /-- Nothing. -/
  | empty
  /-- One character. -/
  | literal (l : Literal)
  /-- All characters from the first to the second. -/
  | range (low high : Literal)
  /-- A class with a name between colons, such as `[:alpha:]`. -/
  | named (negated : Bool) (members : List (Nat × Nat))
  /-- A class after `\p`. -/
  | property (negated : Bool) (name : PropertyName)
  /-- A class after a backslash. -/
  | shorthand (negated : Bool) (kind : Shorthand)
  /-- A class in its own brackets. -/
  | bracketed (negated : Bool) (inner : ClassTerm)
  /-- All of several terms. -/
  | union (terms : List ClassTerm)
  /-- Two terms joined by an operation. -/
  | combine (op : SetOp) (left right : ClassTerm)
  deriving Inhabited

/-- A regular expression as written. -/
inductive Tree where
  /-- Nothing was written. -/
  | empty
  /-- Flags for the rest of the group. -/
  | flags (settings : Settings)
  /-- One character. -/
  | literal (l : Literal)
  /-- `.` -/
  | dot
  /-- A condition on the position. -/
  | anchor (a : Anchor)
  /-- A class after `\p`. -/
  | property (negated : Bool) (name : PropertyName)
  /-- A class after a backslash. -/
  | shorthand (negated : Bool) (kind : Shorthand)
  /-- A class in brackets. -/
  | bracketed (negated : Bool) (inner : ClassTerm)
  /-- A repetition, without an upper limit if there is no `most`; a question mark behind it, which
  changes how many turns are preferred, is noted. -/
  | repetition (body : Tree) (least : Nat) (most : Option Nat) (marked : Bool)
  /-- A group, which captures or sets flags. -/
  | group (captures : Bool) (settings : Settings) (body : Tree)
  /-- Alternatives. -/
  | alternation (branches : List Tree)
  /-- Parts one after the other. -/
  | concat (parts : List Tree)
  deriving Inhabited

mutual

/-- How deeply the terms of a class are nested. -/
def ClassTerm.depth : ClassTerm → Nat
  | .bracketed _ inner => inner.depth + 1
  | .union terms => ClassTerm.maxDepth terms + 1
  | .combine _ left right => max left.depth right.depth + 1
  | _ => 0

/-- The depth of the deepest of several terms. -/
def ClassTerm.maxDepth : List ClassTerm → Nat
  | [] => 0
  | t :: rest => max t.depth (ClassTerm.maxDepth rest)

end

mutual

/-- How deeply the parts of an expression are nested. -/
def Tree.depth : Tree → Nat
  | .bracketed _ inner => inner.depth + 1
  | .repetition body _ _ _ => body.depth + 1
  | .group _ _ body => body.depth + 1
  | .alternation branches => Tree.maxDepth branches + 1
  | .concat parts => Tree.maxDepth parts + 1
  | _ => 0

/-- The depth of the deepest of several expressions. -/
def Tree.maxDepth : List Tree → Nat
  | [] => 0
  | t :: rest => max t.depth (Tree.maxDepth rest)

end

/-- The expression that consists of the given parts. -/
def Tree.ofParts : List Tree → Tree
  | [] => .empty
  | [t] => t
  | parts => .concat parts

/-- The expression with the given alternatives. -/
def Tree.ofBranches : List Tree → Tree
  | [] => .empty
  | [t] => t
  | branches => .alternation branches

/-- The class term that consists of the given terms. -/
def ClassTerm.ofTerms : List ClassTerm → ClassTerm
  | [] => .empty
  | [t] => t
  | terms => .union terms

/-- Whether a repetition may follow: it needs something that can be repeated. -/
def Tree.isRepeatable : Tree → Bool
  | .empty | .flags _ => false
  | _ => true

end TopicBroker.Regex
