import Mathlib.Tactic.LinearCombination
import WireLedger.Proofs.Block.Period
import WireLedger.Proofs.Generator.Stream
/-!
# Ways of drawing

A generator is drawn from one block at a time, several at once, into slots, or past some blocks to a
later one. All of these read the one stream of its state: they differ in how far they go and in what
they hand out of the way there, and each block on the way is told of once.

Results:
* `toNat_lane_iterate`: where `n` steps take a lane.
* `draw_eq`, `fill_eq`, `nth_eq`: what becomes of a generator on each way, and what is told of it.
* `create_eq`: how a new generator starts.
-/
namespace WireLedger

namespace Block

/-! ## The blocks ahead -/

/-- The blocks of draws `n + 1` to `n + count` from `b` on. -/
def stretch (b : Block) (n count : ℕ) : List Block :=
  (List.range count).map fun i => step^[n + i + 1] b

theorem stretch_iterate (b : Block) (m n count : ℕ) :
    (step^[m] b).stretch n count = b.stretch (m + n) count := by
  unfold stretch
  refine List.map_congr_left fun i _ => ?_
  rw [← Function.iterate_add_apply]
  congr 1
  omega

theorem stretch_succ (b : Block) (count : ℕ) :
    b.stretch 0 (count + 1) = b.step :: b.step.stretch 0 count := by
  unfold stretch
  rw [List.range_succ_eq_map, List.map_cons, List.map_map]
  refine congrArg₂ List.cons rfl (List.map_congr_left fun i _ => ?_)
  rw [← Function.iterate_succ_apply]
  exact congrArg (fun n => step^[n] b) (by omega)

/-- After `n` steps of a lane its first value has been multiplied `n` times, and of the terms that
were added each once for every step after it. -/
theorem toNat_lane_iterate (i : Fin 4) (b : Block) (n : ℕ) :
    (lane i (step^[n] b)).toNat =
      ((lane i multiplier).toNat ^ n * (lane i b).toNat +
        (lane i increment).toNat * ∑ j ∈ Finset.range n, (lane i multiplier).toNat ^ j) %
          2 ^ 32 := by
  rw [lane_iterate_step]
  generalize lane i multiplier = a, lane i increment = c, lane i b = x
  have hclosed : (x.toNat + ((a.toNat - 1) * x.toNat + c.toNat) * geomSum a.toNat n : ℤ) =
      a.toNat ^ n * x.toNat + c.toNat * geomSum a.toNat n := by
    linear_combination (x.toNat : ℤ) * sub_one_mul_geomSum a.toNat n
  have hmoved := toNat_iterate_affine a c x n
  rw [hclosed] at hmoved
  have hnat : ((affine a c)^[n] x).toNat ≡
      a.toNat ^ n * x.toNat + c.toNat * ∑ j ∈ Finset.range n, a.toNat ^ j [MOD 2 ^ 32] := by
    apply Int.natCast_modEq_iff.1
    push_cast
    exact hmoved
  rw [← Nat.mod_eq_of_lt ((affine a c)^[n] x).toNat_lt]
  exact hnat

end Block

namespace Generator

/-! ## One generator -/

theorem draw_eq (g : Generator) (n : ℕ) : g.draw n =
    ⟨(g.state.stretch 0 n, ⟨Block.step^[n] g.state⟩), (g.state.stretch 0 n).map .advanced⟩ := by
  induction n generalizing g with
  | zero => rfl
  | succ n ih =>
    rw [Block.stretch_succ, Function.iterate_succ_apply]
    show Logged.mk (Prod.map (g.state.step :: ·) id (draw ⟨g.state.step⟩ n).value)
      (.advanced g.state.step :: (draw ⟨g.state.step⟩ n).events) = _
    rw [ih]
    rfl

/-- What stood in the slots does not matter. -/
theorem fill_eq (g : Generator) (slots : List Block) : g.fill slots = g.draw slots.length := by
  induction slots generalizing g with
  | nil => rfl
  | cons slot rest ih =>
    simp only [fill, draw, ih, List.length_cons]

/-- The blocks that are passed over are drawn as well. -/
theorem nth_eq (g : Generator) (skipped : ℕ) : g.nth skipped =
    ⟨(Block.step^[skipped + 1] g.state, ⟨Block.step^[skipped + 1] g.state⟩),
      (g.state.stretch 0 (skipped + 1)).map .advanced⟩ := by
  induction skipped generalizing g with
  | zero => rfl
  | succ skipped ih =>
    rw [Block.stretch_succ, Function.iterate_succ_apply]
    show Logged.mk (nth ⟨g.state.step⟩ skipped).value
      (.advanced g.state.step :: (nth ⟨g.state.step⟩ skipped).events) = _
    rw [ih]
    rfl

/-! ## New generators -/

/-- The seed that a new generator takes. -/
def Start.seed? : Start → Option UInt32
  | .unseeded | .given _ => none
  | .seeded value => some value
  | .ofSettings settings => settings.seed

/-- The state that a new generator starts in. -/
def Start.block : Start → Block
  | .unseeded => .zero
  | .seeded value => .ofSeed value
  | .ofSettings settings => (settings.seed.map Block.ofSeed).getD .zero
  | .given g => g.state

theorem create_eq (start : Start) : create start =
    ⟨⟨start.block⟩, start.seed?.toList.map fun value => .seeded value (.ofSeed value)⟩ := by
  cases start with
  | ofSettings settings =>
    obtain ⟨seed, level⟩ := settings
    cases seed <;> rfl
  | _ => rfl

end Generator

end WireLedger
