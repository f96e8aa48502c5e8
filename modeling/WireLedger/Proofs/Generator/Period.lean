import WireLedger.Proofs.Block.Period
import WireLedger.Proofs.Generator.Stream
/-!
# The period of a generator

Results:
* `stateAt_eq_iff`: when a generator is in one state at two places of its stream.
* `nodup_blocks`: no block is drawn twice in `2 ^ 32` draws.
* `full_period`: every generator goes through all values of every lane before it is back.
-/
namespace WireLedger.Generator

theorem lane_stateAt_eq_iff (g : Generator) (i : Fin 4) (m n : ℕ) :
    (g.stateAt m).lane i = (g.stateAt n).lane i ↔ m ≡ n [MOD 2 ^ 32] := by
  rw [stateAt_eq, stateAt_eq, Block.lane_iterate_eq_iff]

theorem stateAt_eq_iff (g : Generator) (m n : ℕ) :
    g.stateAt m = g.stateAt n ↔ m ≡ n [MOD 2 ^ 32] := by
  rw [stateAt_eq, stateAt_eq, Block.iterate_step_eq_iff]

/-! ## Draws less than a period apart -/

theorem nodup_lane_blocks (g : Generator) (i : Fin 4) {n : ℕ} (hn : n ≤ 2 ^ 32) :
    ((g.blocks n).map (Block.lane i)).Nodup := by
  refine List.nodup_iff_getElem?_ne_getElem?.2 ?_
  intro p q hpq hq he
  rw [List.length_map, length_blocks] at hq
  rw [List.getElem?_map, List.getElem?_map, getElem?_blocks g (hpq.trans hq), getElem?_blocks g hq,
    Option.map_some, Option.map_some, Option.some.injEq, lane_stateAt_eq_iff] at he
  have hsame := (Nat.ModEq.add_right_cancel' 1 he).eq_of_lt_of_lt (hpq.trans_le (by omega))
    (hq.trans_le hn)
  omega

theorem nodup_blocks (g : Generator) {n : ℕ} (hn : n ≤ 2 ^ 32) : (g.blocks n).Nodup :=
  (g.nodup_lane_blocks 0 hn).of_map

/-- Among `2 ^ 32` draws one has that value in the lane, and no other has. -/
theorem count_lane_blocks (g : Generator) (i : Fin 4) (x : UInt32) :
    ((g.blocks (2 ^ 32)).map (Block.lane i)).count x = 1 := by
  obtain ⟨n, ⟨hn, hx⟩, -⟩ := Block.existsUnique_lane_iterate i (Block.step g.state) x
  refine List.count_eq_one_of_mem (g.nodup_lane_blocks i (Nat.le_refl _)) ?_
  rw [blocks_eq]
  exact List.mem_map.2 ⟨_, List.mem_iterate.2 ⟨n, hn, rfl⟩, hx⟩

theorem blocks_ne (g : Generator) {n i j : ℕ} {b c : Block} (hb : (g.blocks n)[i]? = some b)
    (hc : (g.blocks n)[j]? = some c) (hij : i < j) (hj : j < i + 2 ^ 32) : b ≠ c := by
  have hlt := (List.getElem?_eq_some_iff.1 hc).1
  rw [length_blocks] at hlt
  rw [getElem?_blocks g (hij.trans hlt), Option.some.injEq] at hb
  rw [getElem?_blocks g hlt, Option.some.injEq] at hc
  intro h
  rw [← hb, ← hc, stateAt_eq_iff] at h
  have hdvd := (Nat.modEq_iff_dvd' (by omega)).1 h
  have hle := Nat.le_of_dvd (by omega) hdvd
  omega

/-! ## The whole period -/

/-- The generator visits all there is to visit before it is back. -/
structure FullPeriod (g : Generator) : Prop where
  /-- The periods of the low `k` bits of a lane are the multiples of `2 ^ k`. -/
  lowBits : ∀ (i : Fin 4) (k : ℕ), k ≤ 32 → ∀ p,
    Function.Periodic (fun n => Block.lowBits k ((g.stateAt n).lane i)) p ↔ 2 ^ k ∣ p
  /-- In any `2 ^ 32` draws in a row a lane has every value once. -/
  values : ∀ (i : Fin 4) (x : UInt32) (start : ℕ),
    (((g.blocks (start + 2 ^ 32)).drop start).map (Block.lane i)).count x = 1
  distinct : ∀ n i j b c, (g.blocks n)[i]? = some b → (g.blocks n)[j]? = some c →
    i < j → j < i + 2 ^ 32 → b ≠ c
  /-- The generator is back after `2 ^ 32` draws, and never before. -/
  returns : ∀ n, (g.draw n).value.2 = g ↔ 2 ^ 32 ∣ n

/-- There are `2 ^ 128` blocks, the step permutes them, and from each of them a generator has the
longest period that its lanes allow. -/
theorem full_period :
    Nat.card Block = 2 ^ 128 ∧ Function.Bijective Block.step ∧ ∀ g : Generator, g.FullPeriod := by
  refine ⟨Block.card, Block.step_bijective, ?_⟩
  intro g
  refine ⟨?_, ?_, ?_, ?_⟩
  · intro i k hk p
    simp only [stateAt_eq]
    exact Block.periodic_lowBits_iff hk i g.state p
  · intro i x start
    rw [blocks_add, List.drop_left' (g.length_blocks start)]
    exact count_lane_blocks _ i x
  · intro n i j b c hb hc hij hj
    exact g.blocks_ne hb hc hij hj
  · intro n
    rw [← Nat.modEq_zero_iff_dvd, ← stateAt_eq_iff g]
    exact ⟨congrArg state, congrArg mk⟩

end WireLedger.Generator
