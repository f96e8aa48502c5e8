import WireLedger.Block.Basic
/-!
# One step of a block

Every lane runs an affine recurrence of its own, `x * multiplier + increment` modulo `2 ^ 32`.
`recur` states it lane by lane. `step` computes it with the multiplication that a vector unit
offers, which takes two words of 32 bits to one of 64 and only for the even lanes: the odd lanes are
swapped into even places, multiplied there, cut to 32 bits by a mask, swapped back and joined to the
even ones.

Results:
* `step_eq_recur`: both are the same step.
-/
namespace WireLedger.Block

/-- The factor of each lane (`MULTIPLIER`). -/
def multiplier : Block := ⟨214013, 17405, 214013, 69069⟩

/-- The term that each lane adds (`INCREMENT`). -/
def increment : Block := ⟨2531011, 10395331, 13737667, 1⟩

/-- What the seed is multiplied by in each lane (`SEED_SCALE`). -/
def seedScale : Block := ⟨11, 7, 3, 1⟩

/-- Every bit of the even lanes and none of the odd ones (`EVEN_MASK`). -/
def evenMask : Block := ⟨0xFFFFFFFF, 0, 0xFFFFFFFF, 0⟩

/-- The block of a seed: one multiple of it in each lane (`seed_lanes`). -/
def ofSeed (value : UInt32) : Block := zipWith (fun scale _ => value * scale) seedScale zero

/-- The recurrence, lane by lane. -/
def recur (b : Block) : Block := zipWith (· + ·) (zipWith (· * ·) b multiplier) increment

/-- Lane by lane (`and`). -/
instance : AndOp Block where
  and := zipWith (· &&& ·)

/-- Lane by lane (`or`). -/
instance : OrOp Block where
  or := zipWith (· ||| ·)

/-- Lane by lane, without carry from one lane to the next (`add`). -/
instance : Add Block where
  add := zipWith (· + ·)

/-- Exchanges each even lane with the odd lane above it (`swap_pairs`). -/
def swapPairs (b : Block) : Block := ⟨b.lane1, b.lane0, b.lane3, b.lane2⟩

/-- The products of lanes 0 and of lanes 2, each as 64 bits over a pair of lanes (`mul_even`). -/
def mulEven (a b : Block) : Block :=
  let bottom := a.lane0.toUInt64 * b.lane0.toUInt64
  let top := a.lane2.toUInt64 * b.lane2.toUInt64
  ⟨bottom.toUInt32, (bottom >>> 32).toUInt32, top.toUInt32, (top >>> 32).toUInt32⟩

/-- The next block: even and odd lanes multiplied apart, cut to their lanes and joined again
(`portable::step`). -/
def step (b : Block) : Block :=
  let even := mulEven b multiplier &&& evenMask
  let odd := mulEven b.swapPairs multiplier.swapPairs &&& evenMask
  (even ||| odd.swapPairs) + increment

/-! ## The two forms agree -/

/-- The low half of a product of two words is their product modulo `2 ^ 32`. -/
theorem toUInt32_mul_toUInt64 (x y : UInt32) : (x.toUInt64 * y.toUInt64).toUInt32 = x * y := by
  apply UInt32.toNat_inj.mp
  simp only [UInt64.toNat_toUInt32, UInt64.toNat_mul, UInt32.toNat_toUInt64, UInt32.toNat_mul]
  omega

theorem and_ones (x : UInt32) : x &&& 0xFFFFFFFF = x := by
  apply UInt32.toNat_inj.mp
  have : (0xFFFFFFFF : UInt32).toNat = 2 ^ 32 - 1 := rfl
  rw [UInt32.toNat_and, this, Nat.and_two_pow_sub_one_eq_mod]
  exact Nat.mod_eq_of_lt x.toNat_lt

/-- A lane of the joined products: its own product under the full mask, and the upper half of a
neighbour's product under the empty one. -/
theorem join_masked (x y : UInt32) (spill : UInt64) :
    ((x.toUInt64 * y.toUInt64).toUInt32 &&& 0xFFFFFFFF) ||| (spill.toUInt32 &&& 0) = x * y := by
  rw [and_ones, toUInt32_mul_toUInt64, UInt32.and_zero, UInt32.or_zero]

theorem masked_join (x y : UInt32) (spill : UInt64) :
    (spill.toUInt32 &&& 0) ||| ((x.toUInt64 * y.toUInt64).toUInt32 &&& 0xFFFFFFFF) = x * y := by
  rw [UInt32.or_comm, join_masked]

theorem step_eq_recur (b : Block) : b.step = b.recur :=
  Block.ext
    (congrArg (· + increment.lane0) (join_masked b.lane0 multiplier.lane0 _))
    (congrArg (· + increment.lane1) (masked_join b.lane1 multiplier.lane1 _))
    (congrArg (· + increment.lane2) (join_masked b.lane2 multiplier.lane2 _))
    (congrArg (· + increment.lane3) (masked_join b.lane3 multiplier.lane3 _))

end WireLedger.Block
