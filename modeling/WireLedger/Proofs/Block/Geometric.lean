import Mathlib.Algebra.Ring.GeomSum
import Mathlib.NumberTheory.Multiplicity
import Mathlib.RingTheory.Int.Basic
/-!
# Geometric sums modulo powers of two

Each step of an affine recurrence multiplies what was added before and adds once more, so after `n`
steps with factor `a` the increment counts `1 + a + … + a ^ (n - 1)` times.

Results:
* `two_pow_dvd_geomSum_iff`: for a factor that is 1 modulo 4, a power of two divides the sum exactly
  if it divides the number of terms.
* `geomSum_modEq`: for a factor that is 13 modulo 16, the sum of `2 ^ (k + 2) * m` terms is three
  times their number modulo `2 ^ (k + 5)`.
-/
namespace WireLedger

/-- `1 + a + … + a ^ (n - 1)`. -/
def geomSum (a : ℤ) (n : ℕ) : ℤ := ∑ i ∈ Finset.range n, a ^ i

@[simp] theorem geomSum_zero (a : ℤ) : geomSum a 0 = 0 := rfl

theorem geomSum_succ (a : ℤ) (n : ℕ) : geomSum a (n + 1) = a * geomSum a n + 1 := geom_sum_succ

theorem sub_one_mul_geomSum (a : ℤ) (n : ℕ) : (a - 1) * geomSum a n = a ^ n - 1 :=
  mul_geom_sum a n

theorem geomSum_two_mul (a : ℤ) (n : ℕ) : geomSum a (2 * n) = geomSum a n * (1 + a ^ n) := by
  unfold geomSum
  rw [two_mul, Finset.sum_range_add, mul_add, mul_one, Finset.sum_mul]
  simp only [pow_add, mul_comm]

theorem emultiplicity_geomSum {a : ℤ} (ha : a % 4 = 1) (n : ℕ) :
    emultiplicity 2 (geomSum a n) = emultiplicity 2 (n : ℤ) := by
  by_cases h1 : a = 1
  · subst h1
    simp [geomSum]
  · have hfour : (4 : ℤ) ∣ a - 1 := by omega
    have hodd : ¬ (2 : ℤ) ∣ a := by omega
    have hlift := Int.two_pow_sub_pow' n hfour hodd
    rw [one_pow, ← sub_one_mul_geomSum, emultiplicity_mul Int.prime_two] at hlift
    have hfinite : FiniteMultiplicity (2 : ℤ) (a - 1) :=
      Int.finiteMultiplicity_iff.2 ⟨by decide, sub_ne_zero.2 h1⟩
    exact WithTop.add_left_cancel (finiteMultiplicity_iff_emultiplicity_ne_top.1 hfinite) hlift

theorem two_pow_dvd_geomSum_iff {a : ℤ} (ha : a % 4 = 1) (k n : ℕ) :
    2 ^ k ∣ geomSum a n ↔ 2 ^ k ∣ (n : ℤ) := by
  rw [pow_dvd_iff_le_emultiplicity, emultiplicity_geomSum ha, ← pow_dvd_iff_le_emultiplicity]

/-- An odd factor takes part in no power of two. -/
theorem two_pow_dvd_odd_mul_iff {k : ℕ} {q x : ℤ} (hq : Odd q) : 2 ^ k ∣ q * x ↔ 2 ^ k ∣ x := by
  constructor
  · exact (Int.isCoprime_two_left.2 hq).pow_left.dvd_of_dvd_mul_left
  · intro h
    exact h.mul_left q

theorem pow_four_mul_modEq {a : ℤ} (ha : a % 16 = 13) (q : ℕ) : a ^ (4 * q) ≡ 1 [ZMOD 16] := by
  have hfour : a ^ 4 ≡ 1 [ZMOD 16] := (Int.ModEq.pow 4 (show a ≡ 13 [ZMOD 16] from ha)).trans rfl
  rw [pow_mul]
  simpa using hfour.pow q

theorem geomSum_four_mul {a : ℤ} (ha : a % 16 = 13) (m : ℕ) :
    geomSum a (4 * m) ≡ 3 * (4 * m) [ZMOD 32] := by
  induction m with
  | zero => rfl
  | succ m ih =>
    have hfirst : (32 : ℤ) ∣ 12 - (1 + a + a ^ 2 + a ^ 3) := by
      obtain ⟨b, rfl⟩ : ∃ b, a = 16 * b + 13 := ⟨a / 16, by omega⟩
      exact ⟨-(74 + 267 * b + 320 * b ^ 2 + 128 * b ^ 3), by ring⟩
    have hrest : (16 : ℤ) * 2 ∣ (1 - a ^ 4) * geomSum a (4 * m) := by
      refine mul_dvd_mul (Int.modEq_iff_dvd.1 (by simpa using pow_four_mul_modEq ha 1)) ?_
      have := Int.modEq_iff_dvd.1 ih
      omega
    have hstep : geomSum a (4 * (m + 1)) = a ^ 4 * geomSum a (4 * m) + (1 + a + a ^ 2 + a ^ 3) := by
      rw [show 4 * (m + 1) = 4 * m + 1 + 1 + 1 + 1 by ring]
      simp only [geomSum_succ]
      ring
    rw [hstep]
    refine Int.modEq_iff_dvd.2 ?_
    have hsum := dvd_add (dvd_add (Int.modEq_iff_dvd.1 ih) hfirst) hrest
    have hsplit : 3 * (4 * ((m + 1 : ℕ) : ℤ)) -
        (a ^ 4 * geomSum a (4 * m) + (1 + a + a ^ 2 + a ^ 3)) =
          3 * (4 * m) - geomSum a (4 * m) + (12 - (1 + a + a ^ 2 + a ^ 3)) +
            (1 - a ^ 4) * geomSum a (4 * m) := by
      push_cast
      ring
    rw [hsplit]
    exact hsum

theorem geomSum_modEq {a : ℤ} (ha : a % 16 = 13) (k m : ℕ) :
    geomSum a (2 ^ (k + 2) * m) ≡ 3 * (2 ^ (k + 2) * m) [ZMOD 2 ^ (k + 5)] := by
  induction k with
  | zero => exact geomSum_four_mul ha m
  | succ k ih =>
    have hih := Int.modEq_iff_dvd.1 ih
    have hsmall : (2 : ℤ) ^ (k + 2) ∣ geomSum a (2 ^ (k + 2) * m) := by
      have hthree : (2 : ℤ) ^ (k + 2) ∣ 3 * (2 ^ (k + 2) * m) := ⟨3 * m, by ring⟩
      exact (dvd_sub_right hthree).1 ((pow_dvd_pow 2 (by omega)).trans hih)
    have hpow : (16 : ℤ) ∣ 1 - a ^ (2 ^ (k + 2) * m) := by
      rw [show 2 ^ (k + 2) * m = 4 * (2 ^ k * m) by ring]
      exact Int.modEq_iff_dvd.1 (pow_four_mul_modEq ha _)
    have hrest : (2 : ℤ) ^ (k + 1 + 5) ∣
        geomSum a (2 ^ (k + 2) * m) * (1 - a ^ (2 ^ (k + 2) * m)) := by
      rw [show (2 : ℤ) ^ (k + 1 + 5) = 2 ^ (k + 2) * 16 by ring]
      exact mul_dvd_mul hsmall hpow
    have htwice : (2 : ℤ) ^ (k + 1 + 5) ∣
        2 * (3 * (2 ^ (k + 2) * m) - geomSum a (2 ^ (k + 2) * m)) := by
      rw [show (2 : ℤ) ^ (k + 1 + 5) = 2 * 2 ^ (k + 5) by ring]
      exact mul_dvd_mul_left 2 hih
    rw [show 2 ^ (k + 1 + 2) * m = 2 * (2 ^ (k + 2) * m) by ring, geomSum_two_mul]
    refine Int.modEq_iff_dvd.2 ?_
    have hsplit : 3 * (2 ^ (k + 1 + 2) * (m : ℤ)) -
        geomSum a (2 ^ (k + 2) * m) * (1 + a ^ (2 ^ (k + 2) * m)) =
          2 * (3 * (2 ^ (k + 2) * m) - geomSum a (2 ^ (k + 2) * m)) +
            geomSum a (2 ^ (k + 2) * m) * (1 - a ^ (2 ^ (k + 2) * m)) := by
      ring
    rw [hsplit]
    exact dvd_add htwice hrest

end WireLedger
