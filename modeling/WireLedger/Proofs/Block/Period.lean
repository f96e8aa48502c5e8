import Mathlib.Algebra.Ring.Periodic
import Mathlib.Data.Fintype.EquivFin
import WireLedger.Proofs.Block.Orbit
/-!
# The period of a lane

A factor that is 1 modulo 4 and an odd term give a lane the longest period there is. In `d` steps a
lane moves by an odd multiple of the geometric sum of `d` terms, and a power of two divides that sum
exactly if it divides `d`; so the low `k` bits are back after `2 ^ k` steps and not before.

Results:
* `lowBits_iterate_eq_iff`: when the low bits of a lane are the same at two places of an orbit.
* `lane_iterate_eq_iff`, `iterate_step_eq_iff`: when a lane is, and when the whole block is.
* `existsUnique_lane_iterate`: a lane takes every value once in `2 ^ 32` steps.
* `step_bijective`: the step permutes the blocks.
-/
namespace WireLedger.Block

/-- The low `k` bits of a word, as a number. -/
def lowBits (k : ℕ) (x : UInt32) : ℕ := x.toNat % 2 ^ k

/-! ## One lane -/

theorem lowBits_eq_iff {k : ℕ} {x y : UInt32} :
    lowBits k x = lowBits k y ↔ (2 : ℤ) ^ k ∣ x.toNat - y.toNat := by
  unfold lowBits
  rw [eq_comm]
  exact_mod_cast Nat.modEq_iff_dvd

theorem lowBits_full (x : UInt32) : lowBits 32 x = x.toNat := Nat.mod_eq_of_lt x.toNat_lt

section

variable {a c : UInt32} (ha : (a.toNat : ℤ) % 4 = 1) (hc : Odd (c.toNat : ℤ))
include ha hc

/-- In `d` steps the low bits of a lane come back exactly if `2 ^ k` divides `d`. -/
theorem lowBits_iterate_affine_eq_iff {k : ℕ} (hk : k ≤ 32) (x : UInt32) (d : ℕ) :
    lowBits k ((affine a c)^[d] x) = lowBits k x ↔ 2 ^ k ∣ d := by
  have hmoved : (2 : ℤ) ^ k ∣ x.toNat + ((a.toNat - 1) * x.toNat + c.toNat) * geomSum a.toNat d -
      ((affine a c)^[d] x).toNat :=
    (pow_dvd_pow 2 hk).trans (Int.modEq_iff_dvd.1 (toNat_iterate_affine a c x d))
  have hodd : Odd ((a.toNat - 1) * x.toNat + c.toNat : ℤ) := by
    have heven : Even ((a.toNat : ℤ) - 1) := Int.even_iff.2 (by omega)
    exact (heven.mul_right _).add_odd hc
  have hsplit : ((affine a c)^[d] x).toNat - (x.toNat : ℤ) =
      ((a.toNat - 1) * x.toNat + c.toNat) * geomSum a.toNat d -
        (x.toNat + ((a.toNat - 1) * x.toNat + c.toNat) * geomSum a.toNat d -
          ((affine a c)^[d] x).toNat) := by ring
  rw [lowBits_eq_iff, hsplit, dvd_sub_left hmoved, two_pow_dvd_odd_mul_iff hodd,
    two_pow_dvd_geomSum_iff ha]
  exact_mod_cast Iff.rfl

/-- At two places of an orbit the low bits of a lane are the same exactly if the places are, modulo
`2 ^ k`. -/
theorem lowBits_iterate_affine_eq_iff_modEq {k : ℕ} (hk : k ≤ 32) (x : UInt32) (m n : ℕ) :
    lowBits k ((affine a c)^[m] x) = lowBits k ((affine a c)^[n] x) ↔ m ≡ n [MOD 2 ^ k] := by
  -- the later place is reached from the earlier one
  wlog hle : n ≤ m generalizing m n with hswap
  · rw [eq_comm, hswap n m (Nat.le_of_not_le hle)]
    exact ⟨Nat.ModEq.symm, Nat.ModEq.symm⟩
  · obtain ⟨d, rfl⟩ := Nat.exists_eq_add_of_le' hle
    rw [Function.iterate_add_apply, lowBits_iterate_affine_eq_iff ha hc hk]
    constructor
    · intro hd
      simpa using (Nat.modEq_zero_iff_dvd.2 hd).add_right n
    · intro h
      exact Nat.modEq_zero_iff_dvd.1 (Nat.ModEq.add_right_cancel' n (by simpa using h))

end

/-! ## Four lanes -/

theorem lane_step (i : Fin 4) (b : Block) :
    lane i b.step = affine (lane i multiplier) (lane i increment) (lane i b) := by
  rw [step_eq]
  fin_cases i <;> rfl

theorem lane_iterate_step (i : Fin 4) (b : Block) (n : ℕ) :
    lane i (step^[n] b) = (affine (lane i multiplier) (lane i increment))^[n] (lane i b) :=
  (show Function.Semiconj (lane i) step _ from lane_step i).iterate_right n b

/-- Every factor is 1 modulo 4. -/
theorem lane_multiplier_mod : ∀ i : Fin 4, ((lane i multiplier).toNat : ℤ) % 4 = 1 := by decide

/-- Every term is odd. -/
theorem odd_lane_increment : ∀ i : Fin 4, Odd ((lane i increment).toNat : ℤ) := by decide

theorem lowBits_iterate_eq_iff {k : ℕ} (hk : k ≤ 32) (i : Fin 4) (b : Block) (m n : ℕ) :
    lowBits k (lane i (step^[m] b)) = lowBits k (lane i (step^[n] b)) ↔ m ≡ n [MOD 2 ^ k] := by
  rw [lane_iterate_step, lane_iterate_step]
  exact lowBits_iterate_affine_eq_iff_modEq (lane_multiplier_mod i) (odd_lane_increment i) hk _ m n

theorem lane_iterate_eq_iff (i : Fin 4) (b : Block) (m n : ℕ) :
    lane i (step^[m] b) = lane i (step^[n] b) ↔ m ≡ n [MOD 2 ^ 32] := by
  rw [← lowBits_iterate_eq_iff (Nat.le_refl 32) i b, lowBits_full, lowBits_full, UInt32.toNat_inj]

/-- The low bits of a lane have period `2 ^ k`: that and its multiples are their periods. -/
theorem periodic_lowBits_iff {k : ℕ} (hk : k ≤ 32) (i : Fin 4) (b : Block) (p : ℕ) :
    Function.Periodic (fun n => lowBits k (lane i (step^[n] b))) p ↔ 2 ^ k ∣ p := by
  constructor
  · intro h
    have hfirst := h 0
    rw [lowBits_iterate_eq_iff hk, Nat.zero_add] at hfirst
    exact Nat.modEq_zero_iff_dvd.1 hfirst
  · intro h n
    rw [lowBits_iterate_eq_iff hk]
    simpa using (Nat.modEq_zero_iff_dvd.2 h).add_left n

/-- Two blocks of an orbit are the same exactly if their places are, modulo `2 ^ 32`. -/
theorem iterate_step_eq_iff (b : Block) (m n : ℕ) :
    step^[m] b = step^[n] b ↔ m ≡ n [MOD 2 ^ 32] := by
  constructor
  · intro h
    rw [← lane_iterate_eq_iff 0 b, h]
  · intro h
    have hlane (i : Fin 4) := (lane_iterate_eq_iff i b m n).2 h
    exact Block.ext (hlane 0) (hlane 1) (hlane 2) (hlane 3)

/-- In `2 ^ 32` steps a lane takes every value, and each once. -/
theorem existsUnique_lane_iterate (i : Fin 4) (b : Block) (x : UInt32) :
    ∃! n, n < 2 ^ 32 ∧ lane i (step^[n] b) = x := by
  have hinj : Function.Injective fun n : Fin (2 ^ 32) =>
      (⟨(lane i (step^[n] b)).toNat, UInt32.toNat_lt _⟩ : Fin (2 ^ 32)) := by
    intro m n h
    have hmod := (lane_iterate_eq_iff i b m n).1 (UInt32.toNat_inj.1 (Fin.mk.inj h))
    exact Fin.ext (Nat.ModEq.eq_of_lt_of_lt hmod m.isLt n.isLt)
  obtain ⟨n, hn⟩ := Finite.surjective_of_injective hinj ⟨x.toNat, x.toNat_lt⟩
  refine ⟨n, ⟨n.isLt, UInt32.toNat_inj.1 (Fin.mk.inj hn)⟩, ?_⟩
  rintro m ⟨hm, hx⟩
  have hmod := (lane_iterate_eq_iff i b m n).1 (hx.trans (UInt32.toNat_inj.1 (Fin.mk.inj hn)).symm)
  exact Nat.ModEq.eq_of_lt_of_lt hmod hm n.isLt

/-- A block is four words. -/
def equivLanes : Block ≃ UInt32 × UInt32 × UInt32 × UInt32 :=
  ⟨fun b => (b.lane0, b.lane1, b.lane2, b.lane3), fun l => ⟨l.1, l.2.1, l.2.2.1, l.2.2.2⟩,
    fun _ => rfl, fun _ => rfl⟩

theorem card : Nat.card Block = 2 ^ 128 := by
  have hword : Nat.card UInt32 = 2 ^ 32 := by
    rw [Nat.card_congr ⟨UInt32.toFin, UInt32.ofFin, fun _ => rfl, fun _ => rfl⟩, Nat.card_fin]
    rfl
  simp only [Nat.card_congr equivLanes, Nat.card_prod, hword]
  rfl

theorem step_bijective : Function.Bijective step := by
  refine ⟨step_injective, ?_⟩
  intro b
  obtain ⟨n, hn⟩ : ∃ n, 2 ^ 32 = n + 1 := ⟨2 ^ 32 - 1, rfl⟩
  refine ⟨step^[n] b, ?_⟩
  rw [← Function.iterate_succ_apply' step, Nat.succ_eq_add_one, ← hn]
  exact iterate_step_of_dvd b (dvd_refl _)

end WireLedger.Block
