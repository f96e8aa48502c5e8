import Mathlib.Data.Int.ModEq
import Mathlib.Logic.Function.Iterate
import WireLedger.Block.Recurrence
import WireLedger.Proofs.Block.Geometric
/-!
# Many steps of a block

Results:
* `toNat_iterate_affine`: how far `n` steps move a lane.
* `iterate_step`: the lanes of a block move on their own.
* `iterate_step_of_dvd`, `step_injective`: after `2 ^ 32` steps every block is back, so no two
  blocks have the same next one.
-/
namespace WireLedger.Block

/-- One step of a lane with factor `a` and term `c`. -/
def affine (a c x : UInt32) : UInt32 := x * a + c

/-! ## One lane -/

theorem lane_eq_iff_modEq {x y : UInt32} : x = y ↔ (x.toNat : ℤ) ≡ y.toNat [ZMOD 2 ^ 32] := by
  rw [← UInt32.toNat_inj]
  have hx := x.toNat_lt
  have hy := y.toNat_lt
  constructor
  · intro h
    rw [h]
  · intro h
    unfold Int.ModEq at h
    omega

theorem lane_mul_modEq (x y : UInt32) :
    ((x * y).toNat : ℤ) ≡ x.toNat * y.toNat [ZMOD 2 ^ 32] := by
  rw [UInt32.toNat_mul]
  push_cast
  exact Int.mod_modEq _ _

theorem lane_add_modEq (x y : UInt32) :
    ((x + y).toNat : ℤ) ≡ x.toNat + y.toNat [ZMOD 2 ^ 32] := by
  rw [UInt32.toNat_add]
  push_cast
  exact Int.mod_modEq _ _

theorem toNat_affine (a c x : UInt32) :
    ((affine a c x).toNat : ℤ) ≡ x.toNat * a.toNat + c.toNat [ZMOD 2 ^ 32] :=
  (lane_add_modEq _ _).trans ((lane_mul_modEq x a).add_right _)

/-- Each step moves the lane by what the first one did, times one more power of the factor. -/
theorem toNat_iterate_affine (a c x : UInt32) (n : ℕ) :
    (((affine a c)^[n] x).toNat : ℤ) ≡
      x.toNat + ((a.toNat - 1) * x.toNat + c.toNat) * geomSum a.toNat n [ZMOD 2 ^ 32] := by
  induction n with
  | zero => simp
  | succ n ih =>
    rw [Function.iterate_succ_apply']
    refine (toNat_affine _ _ _).trans (((ih.mul_right _).add_right _).trans ?_)
    rw [geomSum_succ]
    exact congrArg (· % (2 ^ 32 : ℤ)) (by ring)

theorem iterate_affine_of_dvd {a : UInt32} (ha : (a.toNat : ℤ) % 4 = 1) (c x : UInt32) {n : ℕ}
    (hn : 2 ^ 32 ∣ n) : (affine a c)^[n] x = x := by
  have hsum : (2 : ℤ) ^ 32 ∣ geomSum a.toNat n :=
    (two_pow_dvd_geomSum_iff ha 32 n).2 (by exact_mod_cast hn)
  refine lane_eq_iff_modEq.2 ((toNat_iterate_affine a c x n).trans (Int.modEq_iff_dvd.2 ?_))
  rw [sub_add_cancel_left, dvd_neg]
  exact Dvd.dvd.mul_left hsum _

/-! ## Four lanes -/

theorem step_eq (b : Block) : b.step =
    ⟨affine multiplier.lane0 increment.lane0 b.lane0,
      affine multiplier.lane1 increment.lane1 b.lane1,
      affine multiplier.lane2 increment.lane2 b.lane2,
      affine multiplier.lane3 increment.lane3 b.lane3⟩ :=
  b.step_eq_recur

theorem iterate_step (b : Block) (n : ℕ) : step^[n] b =
    ⟨(affine multiplier.lane0 increment.lane0)^[n] b.lane0,
      (affine multiplier.lane1 increment.lane1)^[n] b.lane1,
      (affine multiplier.lane2 increment.lane2)^[n] b.lane2,
      (affine multiplier.lane3 increment.lane3)^[n] b.lane3⟩ := by
  have h0 : Function.Semiconj lane0 step (affine multiplier.lane0 increment.lane0) :=
    fun b => by rw [step_eq]
  have h1 : Function.Semiconj lane1 step (affine multiplier.lane1 increment.lane1) :=
    fun b => by rw [step_eq]
  have h2 : Function.Semiconj lane2 step (affine multiplier.lane2 increment.lane2) :=
    fun b => by rw [step_eq]
  have h3 : Function.Semiconj lane3 step (affine multiplier.lane3 increment.lane3) :=
    fun b => by rw [step_eq]
  exact Block.ext (h0.iterate_right n b) (h1.iterate_right n b) (h2.iterate_right n b)
    (h3.iterate_right n b)

/-- After any multiple of `2 ^ 32` steps a block is back. -/
theorem iterate_step_of_dvd (b : Block) {n : ℕ} (hn : 2 ^ 32 ∣ n) : step^[n] b = b := by
  rw [iterate_step, iterate_affine_of_dvd (by decide) _ _ hn,
    iterate_affine_of_dvd (by decide) _ _ hn, iterate_affine_of_dvd (by decide) _ _ hn,
    iterate_affine_of_dvd (by decide) _ _ hn]

theorem step_injective : Function.Injective step := by
  intro b b' h
  obtain ⟨n, hn⟩ : ∃ n, 2 ^ 32 = n + 1 := ⟨2 ^ 32 - 1, rfl⟩
  have hback (b : Block) : step^[n] b.step = b := by
    rw [← Function.iterate_succ_apply, Nat.succ_eq_add_one, ← hn]
    exact iterate_step_of_dvd b (dvd_refl _)
  rw [← hback b, h, hback b']

end WireLedger.Block
