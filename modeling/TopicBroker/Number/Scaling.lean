import TopicBroker.Number.Binary64
import TopicBroker.Number.Word

/-!
# Quick reading of decimals

A decimal can be read with little effort by rounding twice: its leading digits, as many as fit in a
word, are rounded to a floating point number, and this number is scaled by a rounded power of ten.
The result is near the decimal, but not always the number nearest to it. Main statement: a
significand that takes digits keeps within its word.
-/

namespace TopicBroker

namespace Binary64

/-- A finite number of the given magnitude as a quotient of naturals. -/
def ratio (mantissa : Nat) (exponent : Int) : Nat × Nat := scaled mantissa 1 (-exponent)

/-- The product of two finite numbers, rounded. -/
def product : Binary64 → Binary64 → Binary64
  | .finite s m e, .finite t n f =>
    let (a, b) := ratio m e
    let (c, d) := ratio n f
    ofRatio (s != t) (a * c) (b * d)
  | _, _ => .nan

/-- The quotient of two finite numbers, of which the second is not zero, rounded. -/
def quotient : Binary64 → Binary64 → Binary64
  | .finite s m e, .finite t n f =>
    let (a, b) := ratio m e
    let (c, d) := ratio n f
    ofRatio (s != t) (a * d) (b * c)
  | _, _ => .nan

/-- Whether a number is zero. -/
def isZero : Binary64 → Bool
  | .finite _ m _ => m == 0
  | _ => false

/-- Whether a number is infinite. -/
def isInfinite : Binary64 → Bool
  | .infinite _ => true
  | _ => false

/-- The largest power of ten that is finite. -/
def topPower : Nat := 308

/-- The number nearest to a power of ten. -/
def powerOfTen (n : Nat) : Binary64 := ofDecimal false 1 n

/-- A number times a power of ten, rounded after each step; there is none if it is too large. Powers
far below zero are taken in several steps, of which three lead from any word to zero. -/
def scale? : Nat → Binary64 → Int → Option Binary64
  | 0, x, _ => some x
  | fuel + 1, x, power =>
    if power.natAbs ≤ topPower then
      let y :=
        if 0 ≤ power then x.product (powerOfTen power.natAbs)
        else x.quotient (powerOfTen power.natAbs)
      if y.isInfinite then none else some y
    else if x.isZero then some x
    else if 0 < power then none
    else scale? fuel (x.quotient (powerOfTen topPower)) (power + topPower)

end Binary64

/-- Leading digits of a numeral as a number, and the digits that were not taken. -/
structure Significand where
  /-- The number that the digits taken so far denote. -/
  value : Nat
  /-- The digits that are left. -/
  rest : List Char
  deriving Repr, DecidableEq

namespace Significand

/-- Take digits behind those of a number, as long as the number fits in a word of 64 bits. -/
def take (value : Nat) : List Char → Significand
  | [] => ⟨value, []⟩
  | c :: cs =>
    let longer := 10 * value + Decimal.digitValue c
    if longer < Word.size 64 then take longer cs else ⟨value, c :: cs⟩

/-- A number that fits in a word still does after taking digits. -/
theorem value_take_lt {value : Nat} (cs : List Char) (h : value < Word.size 64) :
    (take value cs).value < Word.size 64 := by
  induction cs generalizing value with
  | nil => simpa [take] using h
  | cons c cs ih =>
    rw [take]
    split
    · next fits => exact ih fits
    · exact h

end Significand

/-- The value of a numeral, read quickly: digits, digits behind a point, an exponent. Digits before
the point that do not fit in the word count as zeros, those behind it are left aside. -/
def Binary64.ofParts? (negative : Bool) (whole fraction : List Char) (exponent : Int) :
    Option Binary64 :=
  let before := Significand.take 0 whole
  let behind := Significand.take before.value fraction
  let taken : Int := (fraction.length : Int) - (behind.rest.length : Int)
  scale? 4 (ofRatio negative behind.value 1) (exponent + before.rest.length - taken)

end TopicBroker
