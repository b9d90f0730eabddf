import TopicBroker.Text.CodeSet

/-!
# Bytes of characters

Every character is written in one to four bytes, so that a set of characters is a set of byte
sequences. A range of code points is cut until one range of bytes at each place describes each
piece.
-/

namespace TopicBroker.Regex

open Text (CodeSet)

/-- A run of byte ranges; the texts it stands for take one byte from each. -/
abbrev ByteRanges := List (Nat × Nat)

/-- The UTF-8 bytes of a code point. -/
def utf8Bytes (c : Nat) : List Nat :=
  let low (shift : Nat) := 0x80 + (c >>> shift) % 64
  if c < 0x80 then [c]
  else if c < 0x800 then [0xC0 + c / 64, low 0]
  else if c < 0x10000 then [0xE0 + c / 4096, low 6, low 0]
  else [0xF0 + c / 262144, low 12, low 6, low 0]

/-- Where a range must be cut so that one run of byte ranges describes each side: the last code
point of the first side. -/
def cutPoint? (a b : Nat) : Option Nat :=
  let block (i : Nat) : Option Nat :=
    let size := 1 <<< (6 * i)
    if a / size == b / size then none
    else if a % size != 0 then some (a - a % size + size - 1)
    else if b % size != size - 1 then some (b - b % size - 1)
    else none
  ([0x7F, 0x7FF, 0xFFFF].find? fun m => a ≤ m && m < b).or <|
    if b < 0x80 then none else [1, 2, 3].findSome? block

/-- The runs of byte ranges that describe a range of code points without surrogates, in increasing
order. Few cuts are needed, which bounds the fuel. -/
def byteRuns : Nat → Nat → Nat → List ByteRanges
  | 0, _, _ => []
  | fuel + 1, a, b =>
    if b < a then []
    else
      match cutPoint? a b with
      | some m => byteRuns fuel a m ++ byteRuns fuel (m + 1) b
      | none => [(utf8Bytes a).zip (utf8Bytes b)]

/-- The runs of byte ranges that describe a set without surrogates, in increasing order. -/
def setRuns (s : CodeSet) : List ByteRanges := s.ranges.toList.flatMap fun (a, b) => byteRuns 40 a b

end TopicBroker.Regex
