import Mathlib.Tactic.LinearCombination
import WireLedger.Proofs.Block.Orbit
import WireLedger.Proofs.Generator.Stream
/-!
# Where the streams of two seeds meet

Each lane of a seed's block is a multiple of the seed, so each lane gives one equation for two seeds
and the number of steps between them. Lanes 0 and 2 have the same factor; without the seeds they
leave that the number of steps is a multiple of `2 ^ 29`. On such numbers of steps all lanes add the
same to their terms, and lanes 1 and 3 rule out the odd multiples.

Results:
* `lane_modEq`: what a multiple of `2 ^ 29` steps does to a lane.
* `dvd_of_even_lanes`, `even_of_odd_lanes`: what two lanes leave when the seeds are eliminated.
* `lanes_modEq_iff`: what the equations of the four lanes come to.
* `seeded_overlap`: when two streams meet, and how far they stay apart.
-/
namespace WireLedger.Generator

/-! ## The equations of the lanes -/

/-- How far a multiple of `2 ^ 29` steps with factor `a` and term `c` moves `s` times a seed. -/
theorem lane_modEq {a : ℤ} (ha : a % 16 = 13) (c s v : ℤ) (m : ℕ) :
    v * s + ((a - 1) * (v * s) + c) * geomSum a (2 ^ 29 * m) ≡
      v * s + (2 ^ 31 * (v * s * m) + 3 * 2 ^ 29 * (c * m)) [ZMOD 2 ^ 32] := by
  obtain ⟨t, ht⟩ := Int.modEq_iff_dvd.1 (geomSum_modEq ha 27 m)
  obtain ⟨u, hu⟩ : ∃ u, a = 16 * u + 13 := ⟨a / 16, by omega⟩
  refine Int.modEq_iff_dvd.2 ⟨((a - 1) * (v * s) + c) * t - (6 * u + 4) * (v * s * m), ?_⟩
  linear_combination ((a - 1) * (v * s) + c) * ht - 3 * 2 ^ 29 * (v * s * m) * hu

/-- A multiple of `2 ^ 30` steps takes away as much from the seed in every lane. -/
theorem lane_of_multiple {a : ℤ} (ha : a % 16 = 13) {c s v w : ℤ} {q : ℕ} (hcs : 4 ∣ 3 * c + s)
    (hw : w ≡ v - 2 ^ 30 * q [ZMOD 2 ^ 32]) :
    v * s + ((a - 1) * (v * s) + c) * geomSum a (2 ^ 30 * q) ≡ w * s [ZMOD 2 ^ 32] := by
  obtain ⟨e, he⟩ := hcs
  obtain ⟨t, ht⟩ := Int.modEq_iff_dvd.1 hw
  have hlane := lane_modEq ha c s v (2 * q)
  rw [show 2 ^ 29 * (2 * q) = 2 ^ 30 * q by ring] at hlane
  refine hlane.trans (Int.modEq_iff_dvd.2 ⟨-(t * s + v * s * q + e * q), ?_⟩)
  push_cast
  linear_combination (-s) * ht - 2 ^ 30 * q * he

/-- Eleven times lane 2 less three times lane 0: the seeds cancel out. -/
theorem dvd_of_even_lanes {v w : ℤ} {d : ℕ}
    (h0 : v * 11 + ((214013 - 1) * (v * 11) + 2531011) * geomSum 214013 d ≡
      w * 11 [ZMOD 2 ^ 32])
    (h2 : v * 3 + ((214013 - 1) * (v * 3) + 13737667) * geomSum 214013 d ≡
      w * 3 [ZMOD 2 ^ 32]) : 2 ^ 29 ∣ d := by
  have hcross : (2 : ℤ) ^ 29 ∣ 17940163 * geomSum 214013 d := by
    obtain ⟨x, hx⟩ := Int.modEq_iff_dvd.1 h0
    obtain ⟨y, hy⟩ := Int.modEq_iff_dvd.1 h2
    refine ⟨3 * x - 11 * y, mul_left_cancel₀ (by norm_num : (8 : ℤ) ≠ 0) ?_⟩
    linear_combination 3 * hx - 11 * hy
  have hsum : (2 : ℤ) ^ 29 ∣ geomSum 214013 d := (two_pow_dvd_odd_mul_iff (by decide)).1 hcross
  exact_mod_cast (two_pow_dvd_geomSum_iff (by norm_num) 29 d).1 hsum

/-- Seven times lane 3 less lane 1: the seeds cancel out once more. -/
theorem even_of_odd_lanes {v w : ℤ} {m : ℕ}
    (h1 : v * 7 + (2 ^ 31 * (v * 7 * m) + 3 * 2 ^ 29 * (10395331 * m)) ≡ w * 7 [ZMOD 2 ^ 32])
    (h3 : v * 1 + (2 ^ 31 * (v * 1 * m) + 3 * 2 ^ 29 * (1 * m)) ≡ w * 1 [ZMOD 2 ^ 32]) :
    2 ∣ m := by
  obtain ⟨x, hx⟩ := Int.modEq_iff_dvd.1 h1
  obtain ⟨y, hy⟩ := Int.modEq_iff_dvd.1 h3
  have hodd : (2 : ℤ) ^ 1 ∣ 7796493 * m := by
    refine ⟨7 * y - x, mul_left_cancel₀ (by norm_num : (2 ^ 31 : ℤ) ≠ 0) ?_⟩
    linear_combination 7 * hy - hx
  exact_mod_cast (two_pow_dvd_odd_mul_iff (by decide)).1 hodd

/-- The lanes of one seed come to those of another in `d` steps exactly if `d` is a multiple of
`2 ^ 30` by which the other seed is smaller. -/
theorem lanes_modEq_iff (v w : ℤ) (d : ℕ) :
    (v * 11 + ((214013 - 1) * (v * 11) + 2531011) * geomSum 214013 d ≡ w * 11 [ZMOD 2 ^ 32] ∧
      v * 7 + ((17405 - 1) * (v * 7) + 10395331) * geomSum 17405 d ≡ w * 7 [ZMOD 2 ^ 32] ∧
      v * 3 + ((214013 - 1) * (v * 3) + 13737667) * geomSum 214013 d ≡ w * 3 [ZMOD 2 ^ 32] ∧
      v * 1 + ((69069 - 1) * (v * 1) + 1) * geomSum 69069 d ≡ w * 1 [ZMOD 2 ^ 32]) ↔
    2 ^ 30 ∣ d ∧ w ≡ v - d [ZMOD 2 ^ 32] := by
  constructor
  · rintro ⟨h0, h1, h2, h3⟩
    obtain ⟨m, rfl⟩ := dvd_of_even_lanes h0 h2
    have h1 := (lane_modEq (by norm_num) _ _ _ _).symm.trans h1
    have h3 := (lane_modEq (by norm_num) _ _ _ _).symm.trans h3
    obtain ⟨q, rfl⟩ := even_of_odd_lanes h1 h3
    obtain ⟨y, hy⟩ := Int.modEq_iff_dvd.1 h3
    refine ⟨⟨q, by ring⟩, Int.modEq_iff_dvd.2 ⟨-(y + v * q + q), ?_⟩⟩
    push_cast at hy ⊢
    linear_combination -hy
  · rintro ⟨⟨q, rfl⟩, hw⟩
    push_cast at hw
    exact ⟨lane_of_multiple (by norm_num) (by norm_num) hw,
      lane_of_multiple (by norm_num) (by norm_num) hw,
      lane_of_multiple (by norm_num) (by norm_num) hw,
      lane_of_multiple (by norm_num) (by norm_num) hw⟩

/-! ## Blocks of seeds -/

/-- A lane of a seed's block comes to that of another seed exactly if the numbers do. -/
theorem iterate_affine_seed_eq_iff (a c s v w : UInt32) (d : ℕ) :
    (Block.affine a c)^[d] (v * s) = w * s ↔
      (v.toNat * s.toNat +
        ((a.toNat - 1) * (v.toNat * s.toNat) + c.toNat) * geomSum a.toNat d : ℤ) ≡
        w.toNat * s.toNat [ZMOD 2 ^ 32] := by
  have hv := Block.lane_mul_modEq v s
  have hw := Block.lane_mul_modEq w s
  have hmoved := (Block.toNat_iterate_affine a c (v * s) d).trans
    (hv.add (((hv.mul_left _).add_right _).mul_right _))
  rw [Block.lane_eq_iff_modEq]
  exact ⟨fun h => hmoved.symm.trans (h.trans hw), fun h => hmoved.trans (h.trans hw.symm)⟩

/-- In `d` steps the block of one seed becomes that of another exactly if `d` is a multiple of
`2 ^ 30` by which the other seed is smaller. -/
theorem iterate_step_ofSeed_eq_iff (v w : UInt32) (d : ℕ) :
    Block.step^[d] (.ofSeed v) = .ofSeed w ↔
      2 ^ 30 ∣ d ∧ (w.toNat : ℤ) ≡ v.toNat - d [ZMOD 2 ^ 32] := by
  rw [← lanes_modEq_iff, Block.iterate_step, Block.mk.injEq]
  exact and_congr (iterate_affine_seed_eq_iff ..) (and_congr (iterate_affine_seed_eq_iff ..)
    (and_congr (iterate_affine_seed_eq_iff ..) (iterate_affine_seed_eq_iff ..)))

/-! ## Streams of seeds -/

/-- The state of a seed's generator after that many draws. -/
def stateAfter (value : UInt32) (draws : ℕ) : Block :=
  ((seeded value).value.draw draws).value.2.state

/-- The blocks that a seed's generator hands out in that many draws. -/
def blocksOf (value : UInt32) (draws : ℕ) : List Block :=
  ((seeded value).value.draw draws).value.1

theorem stateAfter_eq (v : UInt32) (n : ℕ) : stateAfter v n = Block.step^[n] (.ofSeed v) :=
  state_draw _ n

/-- The block of each draw is the state after it. -/
theorem eq_stateAfter_of_blocksOf {v : UInt32} {n i : ℕ} {b : Block}
    (h : (blocksOf v n)[i]? = some b) : i < n ∧ b = stateAfter v (i + 1) := by
  unfold blocksOf at h
  rw [blocks_draw] at h
  have hlt : i < n := by
    have := (List.getElem?_eq_some_iff.1 h).1
    rwa [List.length_iterate] at this
  rw [List.getElem?_iterate _ _ _ _ hlt, Option.some.injEq] at h
  rw [stateAfter_eq, Function.iterate_succ_apply, ← h, state_seeded]
  exact ⟨hlt, rfl⟩

/-- The streams of two seeds meet exactly if a multiple of `2 ^ 30` draws lies between and the seeds
are that far from each other. -/
theorem stateAfter_eq_iff (v w : UInt32) (i j : ℕ) :
    stateAfter v i = stateAfter w j ↔
      (2 : ℤ) ^ 30 ∣ i - j ∧ (w.toNat : ℤ) ≡ v.toNat - (i - j) [ZMOD 2 ^ 32] := by
  rw [stateAfter_eq, stateAfter_eq]
  rcases Nat.le_total j i with h | h
  · obtain ⟨d, rfl⟩ := Nat.exists_eq_add_of_le h
    rw [Function.iterate_add_apply, (Block.step_injective.iterate j).eq_iff,
      iterate_step_ofSeed_eq_iff, Nat.cast_add, add_sub_cancel_left]
    exact and_congr_left' (by exact_mod_cast Iff.rfl)
  · obtain ⟨d, rfl⟩ := Nat.exists_eq_add_of_le h
    rw [Function.iterate_add_apply, (Block.step_injective.iterate i).eq_iff, eq_comm,
      iterate_step_ofSeed_eq_iff, Nat.cast_add, sub_add_cancel_left, dvd_neg, sub_neg_eq_add]
    refine and_congr (by exact_mod_cast Iff.rfl) ?_
    rw [Int.modEq_iff_dvd, Int.modEq_iff_dvd]
    have hflip : (v.toNat + d - w.toNat : ℤ) = -(w.toNat - d - v.toNat) := by ring
    rw [hflip, dvd_neg]

theorem stateAfter_eq_iff_exists (v w : UInt32) (i j : ℕ) :
    stateAfter v i = stateAfter w j ↔ ∃ k : ℤ, (i - j : ℤ) ≡ k * 2 ^ 30 [ZMOD 2 ^ 32] ∧
      (w.toNat : ℤ) ≡ v.toNat - k * 2 ^ 30 [ZMOD 2 ^ 32] := by
  rw [stateAfter_eq_iff]
  constructor
  · rintro ⟨⟨k, hk⟩, hw⟩
    rw [mul_comm] at hk
    exact ⟨k, by rw [hk], by rwa [hk] at hw⟩
  · rintro ⟨k, hij, hw⟩
    refine ⟨?_, hw.trans (hij.symm.sub_left _)⟩
    have hdvd : (2 : ℤ) ^ 30 ∣ k * 2 ^ 30 - (i - j) :=
      (pow_dvd_pow 2 (by decide)).trans (Int.modEq_iff_dvd.1 hij)
    exact (dvd_sub_right (dvd_mul_left _ _)).1 hdvd

/-- After `2 ^ 30` draws a generator is where that of a smaller seed starts. -/
theorem stateAfter_two_pow (v : UInt32) :
    stateAfter v (2 ^ 30) = (seeded (v - .ofNat (2 ^ 30))).value.state := by
  rw [stateAfter_eq, state_seeded, iterate_step_ofSeed_eq_iff, UInt32.toNat_sub]
  have hpow : (UInt32.ofNat (2 ^ 30)).toNat = 2 ^ 30 := by decide
  refine ⟨dvd_refl _, ?_⟩
  rw [hpow]
  unfold Int.ModEq
  omega

theorem stateAfter_ne {v w : UInt32} (hne : v ≠ w) {i j : ℕ} (hi : i < j + 2 ^ 30)
    (hj : j < i + 2 ^ 30) : stateAfter v i ≠ stateAfter w j := by
  intro h
  obtain ⟨⟨k, hk⟩, hw⟩ := (stateAfter_eq_iff v w i j).1 h
  have hzero : k = 0 := by omega
  rw [hk, hzero, mul_zero, sub_zero] at hw
  exact hne (Block.lane_eq_iff_modEq.2 hw.symm)

/-- The streams of two seeds meet exactly where a multiple of `2 ^ 30` draws and the same distance
of the seeds fall together. So different seeds have no block in common while their draws stay less
than `2 ^ 30` apart, and after `2 ^ 30` draws the stream of a seed goes on as that of a smaller
one. -/
theorem seeded_overlap (v w : UInt32) :
    (∀ i j, stateAfter v i = stateAfter w j ↔
      ∃ k : ℤ, (i - j : ℤ) ≡ k * 2 ^ 30 [ZMOD 2 ^ 32] ∧
        (w.toNat : ℤ) ≡ v.toNat - k * 2 ^ 30 [ZMOD 2 ^ 32]) ∧
    (v ≠ w → ∀ m n i j b c, (blocksOf v m)[i]? = some b → (blocksOf w n)[j]? = some c →
      i < j + 2 ^ 30 → j < i + 2 ^ 30 → b ≠ c) ∧
    (v ≠ w → (blocksOf v (2 ^ 30)).Disjoint (blocksOf w (2 ^ 30))) ∧
    stateAfter v (2 ^ 30) = (seeded (v - .ofNat (2 ^ 30))).value.state := by
  refine ⟨stateAfter_eq_iff_exists v w, fun hne m n i j b c hb hc hi hj => ?_,
    fun hne b hb hc => ?_, stateAfter_two_pow v⟩
  · rw [(eq_stateAfter_of_blocksOf hb).2, (eq_stateAfter_of_blocksOf hc).2]
    exact stateAfter_ne hne (by omega) (by omega)
  · obtain ⟨i, hi⟩ := List.mem_iff_getElem?.1 hb
    obtain ⟨j, hj⟩ := List.mem_iff_getElem?.1 hc
    obtain ⟨hi, hbi⟩ := eq_stateAfter_of_blocksOf hi
    obtain ⟨hj, hbj⟩ := eq_stateAfter_of_blocksOf hj
    exact stateAfter_ne hne (by omega) (by omega) (hbi.symm.trans hbj)

end WireLedger.Generator
