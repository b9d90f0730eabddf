import Std.Data.HashMap
import TopicBroker.Pattern.Regex.Bytes
import TopicBroker.Pattern.Regex.Expr

/-!
# Size of a compiled expression

A pattern is refused when its automaton over the bytes of UTF-8 takes more than ten megabytes, read
forwards or backwards. The automaton is not built: its states are counted in the order in which they
would be added, and every state has a fixed cost for itself and for each transition or branch. Where
states of a set are shared, the sharing goes through a table with few places, in which a later state
takes the place of an earlier one; so the numbers of the states matter.
-/

namespace TopicBroker.Regex

open Text (CodeSet)

/-- Bytes that a state takes. -/
def stateCost : Nat := 32

/-- Bytes that a transition of a state with several takes. -/
def transitionCost : Nat := 8

/-- Bytes that one branch of a branching state takes. -/
def branchCost : Nat := 4

/-- How many bytes an automaton may take. -/
def sizeLimit : Nat := 10 * 1048576

/-- What has been added to an automaton so far. -/
structure Meter where
  /-- The number of states, which is the number of the next one. -/
  states : Nat
  /-- The bytes that they take. -/
  bytes : Nat
  deriving Repr, DecidableEq, Inhabited

namespace Meter

/-- Whether the automaton is small enough. -/
def fits (m : Meter) : Bool := m.bytes ≤ sizeLimit

/-- Add states without several transitions. -/
def add (m : Meter) (count : Nat) : Meter := ⟨m.states + count, m.bytes + count * stateCost⟩

/-- Add a state with transitions. -/
def addSparse (m : Meter) (transitions : Nat) : Meter :=
  ⟨m.states + 1, m.bytes + stateCost + transitions * transitionCost⟩

/-- Add a state with branches. -/
def addBranching (m : Meter) (branches : Nat) : Meter :=
  ⟨m.states + 1, m.bytes + stateCost + branches * branchCost⟩

/-- Take a step a number of times, as long as the automaton is small enough. -/
def times (step : Meter → Meter) : Nat → Meter → Meter
  | 0, m => m
  | n + 1, m => if m.fits then times step n (step m) else m

/-- Mix numbers into one word of 64 bits, one after the other. -/
def mix (numbers : List Nat) : UInt64 :=
  numbers.foldl (fun h n => (h ^^^ n.toUInt64) * 1099511628211) 14695981039346656037

/-- A table of states by what they are made of. -/
structure Places where
  /-- The number of places. -/
  count : Nat
  /-- What stands at a place: the last state that was put there, and what it is made of. -/
  entries : Std.HashMap Nat (List Nat × Nat) := ∅

/-- The place for a state that is made of the given numbers. -/
def Places.place (p : Places) (key : List Nat) : Nat := (mix key).toNat % p.count

/-- The state that is made of the given numbers, if it still has its place. -/
def Places.find? (p : Places) (key : List Nat) : Option Nat :=
  match p.entries[p.place key]? with
  | some (k, state) => if k == key then some state else none
  | none => none

/-- Give a state its place. -/
def Places.put (p : Places) (key : List Nat) (state : Nat) : Places :=
  { p with entries := p.entries.insert (p.place key) (key, state) }

/-- A transition: the bytes that it reads and the state to which it leads. -/
abbrev Transition := (Nat × Nat) × Nat

/-- The state with the given transitions, which is added unless it has its place. -/
def shared (transitions : List Transition) (p : Places) (m : Meter) : Nat × Places × Meter :=
  let key := transitions.flatMap fun ((first, last), next) => [first, last, next]
  match p.find? key with
  | some state => (state, p, m)
  | none => (m.states, p.put key m.states, m.addSparse transitions.length)

/-- Add the tree of some runs, which share their beginnings, in front of the state `target`; the
tree is not deeper than the first argument. -/
def addTree (target : Nat) : Nat → List ByteRanges → Places → Meter → Nat × Places × Meter
  | 0, _, p, m => (target, p, m)
  | depth + 1, runs, p, m =>
    let groups := runs.splitBy fun a b => a.head? == b.head?
    let (transitions, p, m) := groups.foldl (fun (done, p, m) group =>
      match group with
      | (range :: rest) :: _ =>
        let (next, p, m) :=
          if rest.isEmpty then (target, p, m) else addTree target depth (group.map List.tail) p m
        ((range, next) :: done, p, m)
      | _ => (done, p, m)) (([] : List Transition), p, m)
    shared transitions.reverse p m

/-- Add one run, read from its first byte on, so that it leads from the state that is returned to
the state `target`. -/
def addRun : ByteRanges → Nat → Places → Meter → Nat × Places × Meter
  | [], target, p, m => (target, p, m)
  | (first, last) :: rest, target, p, m =>
    let key := [target, first, last]
    match p.find? key with
    | some state => addRun rest state p m
    | none => addRun rest m.states (p.put key m.states) (m.add 1)

/-- Add a set. Forwards it is a tree whose equal parts are shared; backwards it is a branch for each
run, in which equal ends are shared. -/
def addSet (backwards : Bool) (s : CodeSet) (m : Meter) : Meter :=
  if s.below 0x80 then (m.add 1).addSparse s.ranges.size
  else
    let runs := setRuns s
    if backwards then
      let m := m.addBranching runs.length
      let target := m.states
      (runs.foldl (fun (p, m) run => (addRun run target p m).2) (⟨1000, ∅⟩, m.add 1)).2
    else (addTree m.states 4 runs ⟨10000, ∅⟩ (m.add 1)).2.2

/-- The stretches between the empty members of a list. -/
def stretches {α : Type} : List (List α) → List (List (List α))
  | [] => [[]]
  | [] :: rest => [] :: stretches rest
  | text :: rest =>
    match stretches rest with
    | [] => [[text]]
    | stretch :: more => (text :: stretch) :: more

/-- Put a text to those that begin with the same byte. -/
def group {α : Type} [BEq α] (first : α) (rest : List α) :
    List (α × List (List α)) → List (α × List (List α))
  | [] => [(first, [rest])]
  | (byte, texts) :: more =>
    if byte == first then (byte, texts ++ [rest]) :: more
    else (byte, texts) :: group first rest more

/-- The ends of texts by their first bytes. -/
def byFirst {α : Type} [BEq α] (texts : List (List α)) : List (α × List (List α)) :=
  texts.foldl (fun groups text =>
    match text with
    | [] => groups
    | first :: rest => group first rest groups) []

/-- Add the tree of several texts, none of them longer than the first argument. Where a text ends,
those that come later are not joined with those that came before. -/
def addTexts : Nat → List (List UInt8) → Meter → Meter
  | 0, _, m => m
  | depth + 1, texts, m =>
    let ends := min (texts.takeWhile List.isEmpty).length 1 +
      ((texts.dropWhile List.isEmpty).filter List.isEmpty).length
    let chunks := ((stretches texts).map byFirst).filter fun chunk => !chunk.isEmpty
    if chunks.isEmpty then m
    else
      let m := chunks.foldl (fun m chunk =>
        let m := chunk.foldl (fun m (_, rests) => addTexts depth rests m) m
        if chunk.length == 1 then m.add 1 else m.addSparse chunk.length) m
      m.addBranching (chunks.length + ends)

end Meter

/-- The bytes of a text. -/
def textBytes (chars : List Char) : List UInt8 := chars.flatMap String.utf8EncodeChar

namespace Expr

/-- The bytes of an expression that is a text. -/
def textBytes? : Expr → Option (List UInt8)
  | .literal chars => some (textBytes chars)
  | _ => none

mutual

/-- Add the states of an expression to an automaton. Read backwards, nothing is captured. -/
def measure (backwards : Bool) : Expr → Meter → Meter
  | .empty, m | .look _, m => m.add 1
  | .literal chars, m => m.add (textBytes chars).length
  | .one set, m => m.addSet backwards set
  | .capture body, m =>
    if backwards then body.measure backwards m else (body.measure backwards (m.add 1)).add 1
  | .turns body least none _, m =>
    if least == 0 then
      if body.minLength?.any (0 < ·) then body.measure backwards (m.addBranching 2)
      else (((body.measure backwards m).addBranching 2).addBranching 2).add 1
    else (m.times (body.measure backwards) least).addBranching 2
  | .turns body least (some most) _, m =>
    if least == 0 && most == 1 then (body.measure backwards (m.addBranching 2)).add 1
    else
      let m := if least == 0 then m.add 1 else m.times (body.measure backwards) least
      if least == most then m
      else (m.add 1).times (fun m => body.measure backwards (m.addBranching 2)) (most - least)
  | .concat parts, m => measureParts backwards parts m
  | .choice branches, m =>
    match branches.mapM textBytes? with
    | some texts =>
      let texts := if backwards then texts.map List.reverse else texts
      m.add 1 |>.addTexts (texts.foldl (fun n text => max n text.length) 0 + 1) texts
    | none => measureBranches backwards branches branches.length m

/-- Add the states of a sequence. -/
def measureParts (backwards : Bool) : List Expr → Meter → Meter
  | [], m => m
  | e :: rest, m =>
    if backwards then e.measure backwards (measureParts backwards rest m)
    else measureParts backwards rest (e.measure backwards m)

/-- Add the states of alternatives; the state that branches to all of them and the one in which they
meet come behind the second. -/
def measureBranches (backwards : Bool) : List Expr → Nat → Meter → Meter
  | [], _, m => m
  | e :: rest, count, m =>
    let m := e.measure backwards m
    let m := if rest.length + 2 == count then (m.addBranching count).add 1 else m
    measureBranches backwards rest count m

end

/-- The automaton of an expression that is searched for anywhere, or only at one end of the text if
it needs that end. -/
def automaton (e : Expr) (backwards : Bool) : Meter :=
  let m : Meter := ⟨0, 0⟩
  let m :=
    if e.needs (if backwards then .finish else .start) backwards then m.add 1
    else ((m.addBranching 2).add 1).addSparse 1
  ((if backwards then e else .capture e).measure backwards m).add 1

/-- Whether an expression is small enough. -/
def fits (e : Expr) : Bool := (e.automaton false).fits && (e.automaton true).fits

end Expr

end TopicBroker.Regex
