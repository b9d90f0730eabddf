import TopicBroker.Pattern.Regex.Expr
import TopicBroker.Text.Property

/-!
# Automata

An expression is compiled to an automaton whose states read one character, check a condition, or
branch. A text is searched in one pass that keeps all states reached so far, so the time is bounded
by the product of the sizes of text and automaton.
-/

namespace TopicBroker.Regex

open Text

/-- A state of an automaton; states are named by their index. -/
inductive State where
  /-- The expression has matched. -/
  | accept
  /-- Read one character of the set and go on. -/
  | read (set : CodeSet) (next : Nat)
  /-- Go on if the condition holds here. -/
  | check (l : Look) (next : Nat)
  /-- Go on with both. -/
  | fork (left right : Nat)
  deriving Inhabited

/-- The characters next to a position. -/
structure Position where
  /-- The character before, if there is one. -/
  before : Option Char
  /-- The character after, if there is one. -/
  after : Option Char

namespace Position

/-- Whether a character belongs to a word. -/
def isWord (unicode : Bool) (c : Char) : Bool :=
  if unicode then Property.word.containsChar c else c.isAlphanum || c == '_'

/-- Whether a word character comes before. -/
def wordBefore (p : Position) (unicode : Bool) : Bool := p.before.any (isWord unicode)

/-- Whether a word character comes after. -/
def wordAfter (p : Position) (unicode : Bool) : Bool := p.after.any (isWord unicode)

/-- Whether a condition holds at a position. -/
def satisfies (p : Position) : Look → Bool
  | .start => p.before.isNone
  | .finish => p.after.isNone
  | .lineStart false => p.before.all (· == '\n')
  | .lineStart true =>
    p.before.all (· == '\n') || (p.before == some '\r' && p.after != some '\n')
  | .lineEnd false => p.after.all (· == '\n')
  | .lineEnd true =>
    p.after.all (· == '\r') || (p.after == some '\n' && p.before != some '\r')
  | .boundary u => p.wordBefore u != p.wordAfter u
  | .notBoundary u => p.wordBefore u == p.wordAfter u
  | .wordStart u => !p.wordBefore u && p.wordAfter u
  | .wordEnd u => p.wordBefore u && !p.wordAfter u
  | .noWordBefore u => !p.wordBefore u
  | .noWordAfter u => !p.wordAfter u

end Position

/-- Apply a function a number of times. -/
def iterate {α : Type} (f : α → α) : Nat → α → α
  | 0, a => a
  | n + 1, a => iterate f n (f a)

mutual

/-- Add the states of an expression in front of the state `next`; the result is its first state. -/
def Expr.addTo : Expr → Nat × Array State → Nat × Array State
  | .empty, built => built
  | .look l, (next, states) => (states.size, states.push (.check l next))
  | .literal chars, built =>
    chars.foldr (fun c (next, states) =>
      (states.size, states.push (.read (.single c.toNat) next))) built
  | .one set, (next, states) => (states.size, states.push (.read set next))
  | .capture body, built => body.addTo built
  | .turns body least none _, (next, states) =>
    let loop := states.size
    let (first, states) := body.addTo (loop, states.push .accept)
    iterate body.addTo least (loop, states.setIfInBounds loop (.fork first next))
  | .turns body least (some most) _, (next, states) =>
    let option (built : Nat × Array State) : Nat × Array State :=
      let (first, states) := body.addTo built
      (states.size, states.push (.fork first next))
    iterate body.addTo least (iterate option (most - least) (next, states))
  | .concat parts, built => addParts parts built
  | .choice branches, built => addBranches branches built

/-- Add the states of a sequence. -/
def addParts : List Expr → Nat × Array State → Nat × Array State
  | [], built => built
  | e :: rest, built => e.addTo (addParts rest built)

/-- Add the states of alternatives, each of which goes on with the state `next`. -/
def addBranches : List Expr → Nat × Array State → Nat × Array State
  | [], (_, states) => (states.size, states.push (.read .empty 0))
  | [e], built => e.addTo built
  | e :: rest, (next, states) =>
    let (left, states) := e.addTo (next, states)
    let (right, states) := addBranches rest (next, states)
    (states.size, states.push (.fork left right))

end

/-- A compiled expression. -/
structure Automaton where
  /-- The states. -/
  states : Array State
  /-- The first state. -/
  start : Nat

namespace Automaton

/-- Compile an expression. -/
def ofExpr (e : Expr) : Automaton :=
  let (start, states) := e.addTo (0, #[.accept])
  ⟨states, start⟩

/-- What is known of one position during a search. -/
structure Frontier where
  /-- For each state the last position, counted from one, at which it was reached. -/
  marks : Array Nat
  /-- States that read a character from here. -/
  readers : List (CodeSet × Nat)
  /-- Whether the expression has matched. -/
  accepted : Bool

/-- Follow all states that consume nothing. Each state is followed once and adds at most two, which
bounds the fuel needed. -/
def explore (a : Automaton) (p : Position) (stamp : Nat) : Nat → List Nat → Frontier → Frontier
  | 0, _, f => f
  | _ + 1, [], f => f
  | fuel + 1, i :: rest, f =>
    if f.marks[i]? == some stamp then explore a p stamp fuel rest f
    else
      let marked := { f with marks := f.marks.setIfInBounds i stamp }
      match a.states[i]? with
      | none => explore a p stamp fuel rest marked
      | some .accept => { marked with accepted := true }
      | some (.read set next) =>
        explore a p stamp fuel rest { marked with readers := (set, next) :: marked.readers }
      | some (.check l next) =>
        explore a p stamp fuel (if p.satisfies l then next :: rest else rest) marked
      | some (.fork left right) => explore a p stamp fuel (left :: right :: rest) marked

/-- Search the rest of a text from the given states and, anew, from the first one. -/
def search (a : Automaton) (before : Option Char) (stamp : Nat) (marks : Array Nat)
    (current : List Nat) : List Char → Bool
  | [] => (a.explore ⟨before, none⟩ stamp (3 * a.states.size + current.length + 2)
      (a.start :: current) ⟨marks, [], false⟩).accepted
  | c :: rest =>
    let f := a.explore ⟨before, some c⟩ stamp (3 * a.states.size + current.length + 2)
      (a.start :: current) ⟨marks, [], false⟩
    f.accepted ||
      a.search (some c) (stamp + 1) f.marks
        (f.readers.filterMap fun r => if r.1.containsChar c then some r.2 else none) rest

/-- Whether the expression matches somewhere in a text. -/
def isIn (a : Automaton) (s : String) : Bool :=
  a.search none 1 (Array.replicate a.states.size 0) [] s.toList

end Automaton

end TopicBroker.Regex
