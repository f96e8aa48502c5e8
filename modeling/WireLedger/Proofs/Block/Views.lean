import Mathlib.Algebra.BigOperators.Fin
import WireLedger.Block.Basic
/-!
# A block is its lanes, its halves and its number

Results:
* `toNat_low`, `toNat_high`, `toNat_eq`: halves and number as sums of words.
* `ofHalves_halves`, `ofNat_toNat`: the block from its halves and from its number.
* `low_ofHalves`, `high_ofHalves`, `toNat_ofNat`: and back.
-/
namespace WireLedger.Block

/-- A word above another one: nothing of the two falls together. -/
theorem toNat_or_shiftLeft (x y : UInt32) :
    (x.toUInt64 ||| y.toUInt64 <<< 32).toNat = x.toNat + y.toNat * 2 ^ 32 := by
  have hx := x.toNat_lt
  have hy := y.toNat_lt
  have hshift : (32 : UInt64).toNat % 64 = 32 := rfl
  rw [UInt64.toNat_or, UInt64.toNat_shiftLeft, UInt32.toNat_toUInt64, UInt32.toNat_toUInt64, hshift,
    Nat.shiftLeft_eq, Nat.mod_eq_of_lt (by omega), Nat.or_comm, Nat.mul_comm,
    ← Nat.two_pow_add_eq_or_of_lt hx]
  omega

theorem toNat_shiftRight (w : UInt64) : (w >>> 32).toUInt32.toNat = w.toNat / 2 ^ 32 := by
  have hw := w.toNat_lt
  have hshift : (32 : UInt64).toNat % 64 = 32 := rfl
  rw [UInt64.toNat_toUInt32, UInt64.toNat_shiftRight, hshift, Nat.shiftRight_eq_div_pow]
  omega

theorem toUInt32_or_shiftLeft (x y : UInt32) :
    (x.toUInt64 ||| y.toUInt64 <<< 32).toUInt32 = x := by
  have hx := x.toNat_lt
  apply UInt32.toNat_inj.1
  rw [UInt64.toNat_toUInt32, toNat_or_shiftLeft]
  omega

theorem shiftRight_or_shiftLeft (x y : UInt32) :
    ((x.toUInt64 ||| y.toUInt64 <<< 32) >>> 32).toUInt32 = y := by
  have hx := x.toNat_lt
  have hy := y.toNat_lt
  apply UInt32.toNat_inj.1
  rw [toNat_shiftRight, toNat_or_shiftLeft]
  omega

/-! ## Halves -/

theorem toNat_low (b : Block) : b.low.toNat = b.lane0.toNat + b.lane1.toNat * 2 ^ 32 :=
  toNat_or_shiftLeft _ _

theorem toNat_high (b : Block) : b.high.toNat = b.lane2.toNat + b.lane3.toNat * 2 ^ 32 :=
  toNat_or_shiftLeft _ _

theorem low_ofHalves (high low : UInt64) : (ofHalves high low).low = low := by
  apply UInt64.toNat_inj.1
  rw [toNat_low, ofHalves, toNat_shiftRight, UInt64.toNat_toUInt32]
  omega

theorem high_ofHalves (high low : UInt64) : (ofHalves high low).high = high := by
  apply UInt64.toNat_inj.1
  rw [toNat_high, ofHalves, toNat_shiftRight, UInt64.toNat_toUInt32]
  omega

theorem ofHalves_halves (b : Block) : ofHalves b.high b.low = b :=
  Block.ext (toUInt32_or_shiftLeft _ _) (shiftRight_or_shiftLeft _ _) (toUInt32_or_shiftLeft _ _)
    (shiftRight_or_shiftLeft _ _)

/-! ## The number -/

theorem toNat_eq (b : Block) : b.toNat = b.high.toNat * 2 ^ 64 + b.low.toNat := by
  rw [toNat, ← Nat.shiftLeft_add_eq_or_of_lt b.low.toNat_lt, Nat.shiftLeft_eq]

theorem toNat_eq_sum (b : Block) : b.toNat = ∑ i : Fin 4, (b.lane i).toNat * 2 ^ (32 * i.val) := by
  have hsum : ∑ i : Fin 4, (b.lane i).toNat * 2 ^ (32 * i.val) = b.lane0.toNat * 2 ^ (32 * 0) +
      b.lane1.toNat * 2 ^ (32 * 1) + b.lane2.toNat * 2 ^ (32 * 2) + b.lane3.toNat * 2 ^ (32 * 3) :=
    Fin.sum_univ_four _
  rw [toNat_eq, toNat_high, toNat_low, hsum]
  omega

theorem toNat_lt (b : Block) : b.toNat < 2 ^ 128 := by
  have hhigh := b.high.toNat_lt
  have hlow := b.low.toNat_lt
  rw [toNat_eq]
  omega

theorem ofNat_toNat (b : Block) : ofNat b.toNat = b := by
  have hlt := b.low.toNat_lt
  have hhigh : UInt64.ofNat (b.toNat >>> 64) = b.high := by
    apply UInt64.toNat_inj.1
    have := b.high.toNat_lt
    rw [UInt64.toNat_ofNat', Nat.shiftRight_eq_div_pow, toNat_eq]
    omega
  have hlow : UInt64.ofNat b.toNat = b.low := by
    apply UInt64.toNat_inj.1
    rw [UInt64.toNat_ofNat', toNat_eq]
    omega
  rw [ofNat, hhigh, hlow, ofHalves_halves]

/-- Of a number the lowest 128 bits count. -/
theorem toNat_ofNat (n : Nat) : (ofNat n).toNat = n % 2 ^ 128 := by
  rw [toNat_eq, ofNat, high_ofHalves, low_ofHalves, UInt64.toNat_ofNat', UInt64.toNat_ofNat',
    Nat.shiftRight_eq_div_pow]
  omega

theorem map_lanes_ofLanes? (l : List UInt32) :
    (ofLanes? l).map lanes = if l.length = 4 then some l else none := by
  unfold ofLanes?
  split
  · rfl
  · next h =>
    rw [if_neg]
    · rfl
    · intro hlen
      obtain ⟨a, b, c, d, rfl⟩ := List.length_eq_four.1 hlen
      exact h a b c d rfl

end WireLedger.Block
