import TopicBroker.Number.Decimal

/-!
# Binary floating point numbers

The numbers of the 64-bit binary format, kept exactly: a finite number is
`± mantissa · 2 ^ exponent`. A quotient of naturals is rounded to the nearest such number, a half to
the even mantissa. Reading a numeral is rounding its exact value.
-/

namespace TopicBroker

/-- A number of the 64-bit binary format. -/
inductive Binary64 where
  /-- No number. -/
  | nan
  /-- Larger in magnitude than every finite number. -/
  | infinite (negative : Bool)
  /-- The number `± mantissa · 2 ^ exponent`. -/
  | finite (negative : Bool) (mantissa : Nat) (exponent : Int)
  deriving Inhabited, Repr, DecidableEq

namespace Binary64

/-- The exponent of the numbers nearest to zero. -/
def minExponent : Int := -1074

/-- The exponent of the largest numbers. -/
def maxExponent : Int := 971

/-- The smallest mantissa that uses all 53 bits. -/
def fullMantissa : Nat := 1 <<< 52

/-- The zero of the given sign. -/
def zero (negative : Bool) : Binary64 := .finite negative 0 minExponent

/-- The natural nearest to `num / den`, of two the even one. -/
def roundQuotient (num den : Nat) : Nat :=
  let q := num / den
  let twice := 2 * (num % den)
  if den < twice || (den == twice && q % 2 == 1) then q + 1 else q

/-- A rounded quotient is at most one above the quotient's floor. -/
theorem roundQuotient_le (num den : Nat) : roundQuotient num den ≤ num / den + 1 := by
  unfold roundQuotient
  dsimp only
  split <;> omega

/-- A quotient without remainder is not changed by rounding. -/
theorem roundQuotient_of_mul {den : Nat} (h : 0 < den) (q : Nat) :
    roundQuotient (q * den) den = q := by
  have below : ¬ den = 0 := by omega
  simp [roundQuotient, Nat.mul_div_cancel _ h, below]

/-- The quotient `num / den · 2 ^ (-e)` as numerator and denominator. -/
def scaled (num den : Nat) (e : Int) : Nat × Nat :=
  if 0 ≤ e then (num, den <<< e.toNat) else (num <<< (-e).toNat, den)

/-- The exponent at which `num / den` has a mantissa of 53 bits, or the smallest exponent. -/
def exponentOf (num den : Nat) : Int :=
  let guess : Int := (num.log2 : Int) - (den.log2 : Int) - 53
  let (n, d) := scaled num den guess
  max minExponent (if n / d < 2 * fullMantissa then guess else guess + 1)

/-- The number nearest to `± num / den`. -/
def ofRatio (negative : Bool) (num den : Nat) : Binary64 :=
  if num == 0 then zero negative
  else
    let e := exponentOf num den
    let (n, d) := scaled num den e
    let m := roundQuotient n d
    let (m, e) := if m == 2 * fullMantissa then (fullMantissa, e + 1) else (m, e)
    if maxExponent < e then .infinite negative else .finite negative m e

/-- The number nearest to `± coefficient · 10 ^ power`; exponents far out of range are cut short. -/
def ofDecimal (negative : Bool) (coefficient : Nat) (power : Int) : Binary64 :=
  let top : Int := ((Decimal.digits coefficient).length : Int) + power
  if coefficient == 0 then zero negative
  else if 400 < top then .infinite negative
  else if top < -400 then zero negative
  else if 0 ≤ power then ofRatio negative (coefficient * Nat.pow 10 power.toNat) 1
  else ofRatio negative coefficient (Nat.pow 10 (-power).toNat)

/-- The exponent part of a numeral, which may be missing. -/
def exponentPart? : List Char → Option Int
  | [] => some 0
  | c :: rest => if c == 'e' || c == 'E' then Decimal.intValue? rest else none

/-- The value of a numeral without its sign: digits, a fraction, an exponent. -/
def ofNumeral? (negative : Bool) (cs : List Char) : Option Binary64 :=
  let whole := cs.takeWhile Char.isDigit
  let rest := cs.dropWhile Char.isDigit
  let (fraction, rest) :=
    match rest with
    | '.' :: tail => (tail.takeWhile Char.isDigit, tail.dropWhile Char.isDigit)
    | _ => ([], rest)
  if whole.isEmpty && fraction.isEmpty then none
  else
    (exponentPart? rest).map fun e =>
      ofDecimal negative (Decimal.value (whole ++ fraction)) (e - fraction.length)

/-- The value of a text without its sign: a numeral or one of the words for the other values. -/
def ofUnsigned? (negative : Bool) (cs : List Char) : Option Binary64 :=
  let lower := cs.map Char.toLower
  if lower == "inf".toList || lower == "infinity".toList then some (.infinite negative)
  else if lower == "nan".toList then some .nan
  else ofNumeral? negative cs

/-- The number that a text denotes. -/
def ofChars? : List Char → Option Binary64
  | '-' :: cs => ofUnsigned? true cs
  | '+' :: cs => ofUnsigned? false cs
  | cs => ofUnsigned? false cs

/-- A magnitude with its sign. -/
def signed (negative : Bool) (magnitude : Nat) : Int :=
  if negative then -(magnitude : Int) else magnitude

/-- The number in units of the smallest positive one; infinities lie beyond all finite numbers, and
no number counts as zero. -/
def inUnits : Binary64 → Int
  | .nan => 0
  | .infinite negative => signed negative (1 <<< 2200)
  | .finite negative mantissa exponent =>
    signed negative (mantissa <<< (exponent - minExponent).toNat)

end Binary64

end TopicBroker
