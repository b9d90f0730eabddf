import Std.Data.HashSet
import TopicBroker.Number.Word

/-!
# Random ids

Ids of 128 bits in the usual notation: five groups of lower-case hexadecimal digits. Six bits are
fixed and mark an id as random; the others are mixed from a seed and a running number.
-/

namespace TopicBroker.Uuid

/-- Spread the bits of a word over the whole word. -/
def mix (x : UInt64) : UInt64 :=
  let x := (x ^^^ (x >>> 30)) * 0xBF58476D1CE4E5B9
  let x := (x ^^^ (x >>> 27)) * 0x94D049BB133111EB
  x ^^^ (x >>> 31)

/-- The word with the given number after a seed. -/
def word (seed : UInt64) (n : Nat) : UInt64 :=
  mix (seed + 0x9E3779B97F4A7C15 * UInt64.ofNat (n + 1))

/-- A hexadecimal digit in lower case. -/
def digit (n : Nat) : Char := Char.ofNat (if n < 10 then 48 + n else 87 + n)

/-- The lowest digits of a number, highest first. -/
def digits : Nat → Nat → List Char
  | 0, _ => []
  | count + 1, n => digits count (n / 16) ++ [digit (n % 16)]

/-- The version of random ids. -/
def version : Nat := 4

/-- An id with the given halves, in which version and variant are put. -/
def ofWords (high low : UInt64) : String :=
  let high := high.toNat
  let low := low.toNat
  let time := digits 8 (high >>> 32) ++ ['-'] ++ digits 4 (high >>> 16)
  let middle := digits 4 (version * Word.size 12 + high % Word.size 12)
  let variant := digits 4 (Word.size 15 + (low >>> 48) % Word.size 14)
  String.ofList (time ++ ['-'] ++ middle ++ ['-'] ++ variant ++ ['-'] ++ digits 12 low)

/-- The id with the given number after a seed. -/
def nth (seed : UInt64) (n : Nat) : String := ofWords (word seed (2 * n)) (word seed (2 * n + 1))

/-- Whether a character is a hexadecimal digit in lower case. -/
def isDigit (c : Char) : Bool := c.isDigit || ('a' ≤ c && c ≤ 'f')

/-- Whether a text is a random id in the usual notation. -/
def isRandom (s : String) : Bool :=
  let cs := s.toList
  let groups := s.splitOn "-"
  groups.map String.length == [8, 4, 4, 4, 12] && cs.all (fun c => c == '-' || isDigit c) &&
    cs[14]? == some '4' && cs[19]?.any fun c => c == '8' || c == '9' || c == 'a' || c == 'b'

/-- How many different texts a list holds. -/
def distinct (ids : List String) : Nat := (Std.HashSet.ofList ids).size

end TopicBroker.Uuid
