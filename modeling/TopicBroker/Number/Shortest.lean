import TopicBroker.Number.Binary64

/-!
# Shortest decimal text of a floating point number

Many decimals round to the same floating point number. The text of a number is the one with the
fewest digits, and of those the one nearest to the number. It is written positionally or, in
documents, with a point or an exponent, whichever is short.
-/

namespace TopicBroker.Binary64

/-- Three points on a common scale: a number and the two ends of the interval that rounds to it. -/
structure Interval where
  /-- The lower end. -/
  low : Nat
  /-- The number itself. -/
  value : Nat
  /-- The upper end. -/
  high : Nat
  /-- The exponent of two that scales all three. -/
  scale : Int
  /-- Whether the ends round to the number too. -/
  closed : Bool

/-- The interval of `mantissa · 2 ^ exponent`, in quarters of the last place. -/
def interval (mantissa : Nat) (exponent : Int) : Interval :=
  let below := if mantissa == fullMantissa && minExponent < exponent then 1 else 2
  { low := 4 * mantissa - below
    value := 4 * mantissa
    high := 4 * mantissa + 2
    scale := exponent - 2
    closed := mantissa % 2 == 0 }

/-- Two naturals whose order is that of `coefficient · 10 ^ power` and `point · 2 ^ scale`. -/
def comparable (coefficient : Nat) (power : Int) (point : Nat) (scale : Int) : Nat × Nat :=
  ((coefficient * Nat.pow 10 power.toNat) <<< (-scale).toNat,
    (point * Nat.pow 10 (-power).toNat) <<< scale.toNat)

/-- Whether a decimal lies in the interval. -/
def Interval.holds (i : Interval) (coefficient : Nat) (power : Int) : Bool :=
  let (a, low) := comparable coefficient power i.low i.scale
  let (b, high) := comparable coefficient power i.high i.scale
  if i.closed then low ≤ a && b ≤ high else low < a && b < high

/-- The coefficient of the largest decimal with the given power that is not above the number. -/
def Interval.floor (i : Interval) (power : Int) : Nat :=
  let (unit, point) := comparable 1 power i.value i.scale
  point / unit

/-- Which of two decimals is taken that are equally near to a number. -/
inductive Tie where
  /-- The larger one. -/
  | toUpper
  /-- The one with the even last digit. -/
  | toEven
  deriving Repr, DecidableEq, Inhabited

/-- Whether the decimal just above the number is taken, not the one just below. -/
def Interval.takesAbove (i : Interval) (tie : Tie) (power : Int) : Bool :=
  let (unit, point) := comparable 1 power i.value i.scale
  match compare unit (2 * (point % unit)) with
  | .lt => true
  | .gt => false
  | .eq => tie == .toUpper || point / unit % 2 == 1

/-- The decimal with the given power that reads back as the number. -/
def Interval.decimalAt? (i : Interval) (tie : Tie) (power : Int) : Option (Nat × Int) :=
  let below := i.floor power
  let downOk := i.holds below power
  let upOk := i.holds (below + 1) power
  if downOk && upOk then some (if i.takesAbove tie power then below + 1 else below, power)
  else if downOk then some (below, power)
  else if upOk then some (below + 1, power)
  else none

/-- The power of ten of the number's highest digit. -/
def Interval.topPower (i : Interval) : Int :=
  let whole := i.floor 0
  if whole != 0 then ((Decimal.digits whole).length : Int) - 1
  else
    match (List.range 400).find? fun (j : Nat) => i.floor (-(j : Int)) != 0 with
    | some j => -(j : Int)
    | none => 0

/-- The decimal with the fewest digits that reads back as the number, nearest first. -/
def shortest (tie : Tie) (mantissa : Nat) (exponent : Int) : Nat × Int :=
  let i := interval mantissa exponent
  let top := i.topPower
  ((List.range 17).findSome? fun (n : Nat) => i.decimalAt? tie (top - (n : Int))).getD (0, 0)

/-- The decimal `coefficient · 10 ^ power` in positional notation. -/
def positional (coefficient : Nat) (power : Int) : List Char :=
  let ds := Decimal.digits coefficient
  if 0 ≤ power then ds ++ List.replicate power.toNat '0'
  else
    let places := (-power).toNat
    let padded := List.replicate (places + 1 - ds.length) '0' ++ ds
    let fraction := ((padded.drop (padded.length - places)).reverse.dropWhile (· == '0')).reverse
    let whole := padded.take (padded.length - places)
    if fraction.isEmpty then whole else whole ++ '.' :: fraction

/-- The text of a number. -/
def toText : Binary64 → String
  | .nan => "NaN"
  | .infinite negative => if negative then "-inf" else "inf"
  | .finite negative mantissa exponent =>
    let (coefficient, power) :=
      if mantissa == 0 then (0, 0) else shortest .toUpper mantissa exponent
    let magnitude := positional coefficient power
    String.ofList (if negative then '-' :: magnitude else magnitude)

/-- The text of a number with at least one place after the point, so that it cannot be taken for an
integer. -/
def toPointText (x : Binary64) : String :=
  match x with
  | .finite .. => if x.toText.toList.contains '.' then x.toText else x.toText ++ ".0"
  | _ => x.toText

/-- Move trailing zeros of a coefficient into the power; the fuel bounds their number. -/
def stripZeros : Nat → Nat → Int → Nat × Int
  | 0, coefficient, power => (coefficient, power)
  | fuel + 1, coefficient, power =>
    if coefficient != 0 && coefficient % 10 == 0 then stripZeros fuel (coefficient / 10) (power + 1)
    else (coefficient, power)

/-- The magnitude `coefficient · 10 ^ power` with a point or an exponent, whichever is short: the
point is used from `10 ^ (-5)` up to below `10 ^ 16`. An exponent has a sign. -/
def compactMagnitude (coefficient : Nat) (power : Int) : List Char :=
  let (coefficient, power) := stripZeros 20 coefficient power
  let ds := Decimal.digits coefficient
  let top : Int := (ds.length : Int) + power
  if -5 < top && top ≤ 16 then
    let plain := positional coefficient power
    if plain.contains '.' then plain else plain ++ ['.', '0']
  else
    let sign := if 0 < top then ['+'] else []
    let exponent := 'e' :: sign ++ Decimal.intChars (top - 1)
    match ds with
    | d :: e :: rest => d :: '.' :: e :: rest ++ exponent
    | _ => ds ++ exponent

/-- The text of a number with a point or an exponent. -/
def toCompactText : Binary64 → String
  | .finite negative mantissa exponent =>
    let (coefficient, power) := if mantissa == 0 then (0, 0) else shortest .toEven mantissa exponent
    let magnitude := compactMagnitude coefficient power
    String.ofList (if negative then '-' :: magnitude else magnitude)
  | x => x.toText

end TopicBroker.Binary64
