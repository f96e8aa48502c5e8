/-!
# The shortest decimal of a double

A positive double stands for an interval of reals: those nearer to it than to its neighbours, and
the ends where its significand is even. The shortest decimal is a number of the interval with the
fewest digits; of two with as many digits the nearer one, and of two as near the larger one.

Everything is computed on integers: a double is `significand * 2 ^ exponent`.
-/
namespace WireLedger.Decimal

/-- A positive fraction and the ends of its interval, all over the same denominator. -/
structure Interval where
  low : Nat
  value : Nat
  high : Nat
  denominator : Nat
  /-- Whether the ends belong to the interval. -/
  closed : Bool
deriving DecidableEq, Repr

/-- The interval of the double `significand * 2 ^ (exponent - 1074)`. Below a power of two the
neighbours are half as far. -/
def Interval.ofDouble (significand exponent : Nat) : Interval :=
  let narrow := significand = 1 <<< 52 ∧ 0 < exponent
  let unit := 1 <<< exponent
  { low := (4 * significand - if narrow then 1 else 2) * unit
    value := 4 * significand * unit
    high := (4 * significand + 2) * unit
    denominator := 1 <<< 1076
    closed := significand % 2 = 0 }

namespace Interval

/-- Whether the number `n`, over the denominator, lies in the interval. -/
def contains (i : Interval) (n : Nat) : Bool :=
  if i.closed then i.low ≤ n && n ≤ i.high else i.low < n && n < i.high

/-- The interval multiplied by `10 ^ power`. -/
def scale (i : Interval) (power : Int) : Interval :=
  let up := Nat.pow 10 power.toNat
  { i with
    low := i.low * up
    value := i.value * up
    high := i.high * up
    denominator := i.denominator * Nat.pow 10 (-power).toNat }

/-- The whole number of the interval that is nearest to its value, the larger of two. -/
def nearest? (i : Interval) : Option Nat :=
  let below := i.value / i.denominator
  let above := below + 1
  match i.contains (below * i.denominator), i.contains (above * i.denominator) with
  | true, true =>
    if i.value - below * i.denominator < above * i.denominator - i.value then some below
    else some above
  | true, false => some below
  | false, true => some above
  | false, false => none

/-- The number of digits of the value in front of the point; zero or less if it starts behind. -/
def magnitude (i : Interval) : Int :=
  let guess : Int := (Nat.toDigits 10 i.value).length - (Nat.toDigits 10 i.denominator).length
  let scaled := i.scale (-guess)
  if scaled.denominator ≤ scaled.value then guess + 1 else guess

/-- Tries one digit after another, from `digits` on; `more` bounds how many. A nine that rounds up
becomes a ten, which is a one of the next power. -/
def shortestFrom (i : Interval) (magnitude : Int) (digits : Nat) : (more : Nat) → Nat × Int
  | 0 => (0, 0)
  | more + 1 =>
    let power := digits - magnitude
    match (i.scale power).nearest? with
    | some n => if n % 10 = 0 then (n / 10, 1 - power) else (n, -power)
    | none => shortestFrom i magnitude (digits + 1) more

/-- The shortest decimal `n * 10 ^ e` of the interval, as `(n, e)`. Seventeen digits are enough for
every double. -/
def shortest (i : Interval) : Nat × Int := i.shortestFrom i.magnitude 1 17

end Interval

/-- The decimal `n * 10 ^ e` without an exponent, with a point and at least one digit on each side
of it. -/
def positional (n : Nat) (e : Int) : List Char :=
  let digits := Nat.toDigits 10 n
  if 0 ≤ e then digits ++ List.replicate e.toNat '0' ++ ['.', '0']
  else
    let places := (-e).toNat
    let padded := digits.leftpad (places + 1) '0'
    padded.take (padded.length - places) ++ '.' :: padded.drop (padded.length - places)

/-- The shortest decimal that reads back as the double, without an exponent. -/
def ofFloat (x : Float) : String :=
  let bits := x.toBits.toNat
  let sign := if 1 <<< 63 ≤ bits then "-" else ""
  let exponent := bits >>> 52 % 2048
  let fraction := bits % 1 <<< 52
  if exponent = 2047 then if fraction = 0 then sign ++ "inf" else "NaN"
  else if exponent = 0 ∧ fraction = 0 then sign ++ "0.0"
  else
    let (n, e) := if exponent = 0 then (Interval.ofDouble fraction 0).shortest
      else (Interval.ofDouble (1 <<< 52 + fraction) (exponent - 1)).shortest
    sign ++ String.ofList (positional n e)

end WireLedger.Decimal
