/-!
# The nearest double of a decimal

A positive fraction is rounded to the nearest `significand * 2 ^ (exponent - 1074)` whose
significand has at most 53 bits; of two as near the one with an even significand. Everything is
computed on integers.

Results:
* `roundDiv_le`, `le_roundDiv`: a rounded quotient is within half a unit of the quotient.
-/
namespace WireLedger.Decimal

/-- The whole number nearest to `a / b`, of two the even one. -/
def roundDiv (a b : Nat) : Nat :=
  let below := a / b
  let rest := a % b
  if 2 * rest < b ∨ (2 * rest = b ∧ below % 2 = 0) then below else below + 1

/-- The exponent of a fraction: the least one with which its significand has at most 53 bits. -/
def exponentOf (numerator denominator : Nat) : Nat :=
  let guess := numerator.log2 + 1022 - denominator.log2
  if numerator <<< 1074 < denominator <<< (guess + 52) then guess - 1 else guess

/-- The bits of the nearest double of a positive fraction, which is infinite if the fraction is
beyond all others. The exponent and the significand are added, so a significand that is rounded up
to 54 bits raises the exponent. -/
def nearestBits (numerator denominator : Nat) : UInt64 :=
  let exponent := exponentOf numerator denominator
  let significand := roundDiv (numerator <<< 1074) (denominator <<< exponent)
  UInt64.ofNat (min (exponent <<< 52 + significand) (2047 <<< 52))

/-- The nearest double of `n * 10 ^ e`. More than a thousand places before the point are infinitely
many, and more than a thousand zeros behind it leave nothing. -/
def toFloat (n : Nat) (e : Int) : Float :=
  let places : Int := (Nat.toDigits 10 n).length + e
  if n = 0 ∨ places < -1000 then 0
  else if 1000 < places then .ofBits (UInt64.ofNat (2047 <<< 52))
  else .ofBits (nearestBits (n * Nat.pow 10 e.toNat) (Nat.pow 10 (-e).toNat))

theorem roundDiv_le (a b : Nat) (h : 0 < b) : 2 * (roundDiv a b * b) ≤ 2 * a + b := by
  have hdiv := Nat.div_add_mod a b
  have hmod := Nat.mod_lt a h
  rw [Nat.mul_comm] at hdiv
  simp only [roundDiv]
  split
  · omega
  · rw [Nat.add_mul]; omega

theorem le_roundDiv (a b : Nat) (h : 0 < b) : 2 * a ≤ 2 * (roundDiv a b * b) + b := by
  have hdiv := Nat.div_add_mod a b
  have hmod := Nat.mod_lt a h
  rw [Nat.mul_comm] at hdiv
  simp only [roundDiv]
  split
  · omega
  · rw [Nat.add_mul]; omega

end WireLedger.Decimal
