/-!
# Sets of code points

A set of Unicode code points is kept as inclusive ranges in increasing order, with a gap between
any two neighbours. Membership is a binary search; the set operations rebuild the normal form.
-/

namespace TopicBroker.Text

/-- A set of code points as increasing, separated, inclusive ranges. -/
structure CodeSet where
  /-- The ranges, lowest first. -/
  ranges : Array (Nat × Nat)
  deriving Inhabited, Repr, DecidableEq

namespace CodeSet

/-- The largest code point. -/
def maxCode : Nat := 0x10FFFF

/-- Join ranges that overlap or touch; the input is ordered by first code point. -/
def coalesce : List (Nat × Nat) → List (Nat × Nat)
  | [] => []
  | [r] => [r]
  | (a, b) :: (c, d) :: rest =>
    if c ≤ b + 1 then coalesce ((a, max b d) :: rest) else (a, b) :: coalesce ((c, d) :: rest)
  termination_by l => l.length

/-- The set of all code points in the given ranges, which may come in any order and overlap. -/
def ofRanges (rs : List (Nat × Nat)) : CodeSet :=
  ⟨(coalesce ((rs.filter fun r => r.1 ≤ r.2).mergeSort fun r s => r.1 ≤ s.1)).toArray⟩

/-- The empty set. -/
def empty : CodeSet := ⟨#[]⟩

/-- All code points from `a` to `b`. -/
def range (a b : Nat) : CodeSet := ofRanges [(a, b)]

/-- One code point. -/
def single (a : Nat) : CodeSet := ⟨#[(a, a)]⟩

/-- All code points. -/
def all : CodeSet := range 0 maxCode

/-- Binary search for `c` among the ranges from `lo` up to but not including `hi`. -/
def containsBetween (s : CodeSet) (c lo hi : Nat) : Bool :=
  if lo < hi then
    let mid := (lo + hi) / 2
    match s.ranges[mid]? with
    | none => false
    | some (a, b) =>
      if c < a then containsBetween s c lo mid
      else if b < c then containsBetween s c (mid + 1) hi
      else true
  else false
  termination_by hi - lo

/-- Membership. -/
def contains (s : CodeSet) (c : Nat) : Bool := s.containsBetween c 0 s.ranges.size

/-- Membership of a character's code point. -/
def containsChar (s : CodeSet) (c : Char) : Bool := s.contains c.toNat

/-- Whether no code point is a member. -/
def isEmpty (s : CodeSet) : Bool := s.ranges.isEmpty

/-- Whether every member is below `bound`. -/
def below (s : CodeSet) (bound : Nat) : Bool := s.ranges.all fun r => r.2 < bound

/-- Union. -/
def union (s t : CodeSet) : CodeSet := ofRanges (s.ranges.toList ++ t.ranges.toList)

/-- The ranges between the given increasing ranges, from `start` to `last`. -/
def gaps (last : Nat) : Nat → List (Nat × Nat) → List (Nat × Nat)
  | start, [] => if start ≤ last then [(start, last)] else []
  | start, (a, b) :: rest =>
    if start < a then (start, a - 1) :: gaps last (b + 1) rest else gaps last (b + 1) rest

/-- The members of `0..last` that are not in the set. -/
def complementUpTo (last : Nat) (s : CodeSet) : CodeSet := ofRanges (gaps last 0 s.ranges.toList)

/-- Complement among all code points. -/
def complement (s : CodeSet) : CodeSet := s.complementUpTo maxCode

/-- Intersection. -/
def inter (s t : CodeSet) : CodeSet := (s.complement.union t.complement).complement

/-- Difference. -/
def diff (s t : CodeSet) : CodeSet := s.inter t.complement

/-- Symmetric difference. -/
def symmDiff (s t : CodeSet) : CodeSet := (s.diff t).union (t.diff s)

/-- Union of a list of sets. -/
def unions (sets : List CodeSet) : CodeSet := ofRanges (sets.flatMap fun s => s.ranges.toList)

/-- The value of a hexadecimal digit in upper case. -/
def hexValue (c : Char) : Nat :=
  if c.isDigit then c.toNat - 48 else c.toNat - 55

/-- The value of a run of hexadecimal digits. -/
def hexNumber (cs : List Char) : Nat := cs.foldl (fun n c => 16 * n + hexValue c) 0

/-- One written range: `41` or `41-5A`, in hexadecimal. -/
def readRange (cs : List Char) : Nat × Nat :=
  let low := cs.takeWhile (· != '-')
  match cs.dropWhile (· != '-') with
  | [] => (hexNumber low, hexNumber low)
  | _ :: high => (hexNumber low, hexNumber high)

/-- Cut at blanks. -/
def words : List Char → List (List Char)
  | [] => [[]]
  | c :: rest =>
    match words rest with
    | [] => [[c]]
    | w :: ws => if c == ' ' then [] :: w :: ws else (c :: w) :: ws

/-- The set written as rows of blank-separated hexadecimal ranges. -/
def ofRows (rows : List String) : CodeSet :=
  ofRanges (rows.flatMap fun row => (words row.toList).map readRange)

end CodeSet

end TopicBroker.Text
