import Mathlib.Algebra.GroupWithZero.Nat
import Mathlib.Data.Fintype.Basic
import Mathlib.Logic.Function.Iterate
import Mathlib.Tactic.FinCases
import WireLedger.Block.Register
/-!
# The step on a register is the step of the block

Storing a register commutes with every operation of the register, so what the vector unit computes
is the step of the stored block, and that step is the recurrence of each lane. On the way the even
and the odd lanes are multiplied apart. A product takes up a pair of lanes, and the mask cuts it to
the lane that it belongs to, so the two parts have no lane in common.

Results:
* `toBlock_shuffle` to `toBlock_addLanes`: what each operation does to the stored block.
* `Block.parts`: what the even and the odd part have in each lane.
* `step_paths_agree`: the three forms of the step are one, for any number of steps.
-/
namespace WireLedger

namespace Block

/-- The products of the even lanes, cut to these lanes. -/
def evenPart (b : Block) : Block := mulEven b multiplier &&& evenMask

/-- The products of the odd lanes, cut to these lanes. -/
def oddPart (b : Block) : Block :=
  (mulEven b.swapPairs multiplier.swapPairs &&& evenMask).swapPairs

/-- The low word of the product of a lane and its factor. -/
def lowProduct (b : Block) (i : Fin 4) : UInt32 :=
  ((b.lane i).toUInt64 * (multiplier.lane i).toUInt64).toUInt32

/-- Each lane of `b` has the low word of its product in the part that it belongs to, and nothing,
not even a high word of its neighbour, in the other. -/
structure Parts (b even odd : Block) : Prop where
  evenLane : ∀ i : Fin 4, i.val % 2 = 0 → even.lane i = b.lowProduct i ∧ odd.lane i = 0
  oddLane : ∀ i : Fin 4, i.val % 2 = 1 → even.lane i = 0 ∧ odd.lane i = b.lowProduct i
  apart : ∀ i : Fin 4, even.lane i = 0 ∨ odd.lane i = 0

theorem step_eq_parts (b : Block) : b.step = (b.evenPart ||| b.oddPart) + increment := rfl

theorem evenPart_eq (b : Block) : b.evenPart = ⟨b.lowProduct 0, 0, b.lowProduct 2, 0⟩ :=
  Block.ext (and_ones _) UInt32.and_zero (and_ones _) UInt32.and_zero

theorem oddPart_eq (b : Block) : b.oddPart = ⟨0, b.lowProduct 1, 0, b.lowProduct 3⟩ :=
  Block.ext UInt32.and_zero (and_ones _) UInt32.and_zero (and_ones _)

theorem parts (b : Block) : b.Parts b.evenPart b.oddPart := by
  rw [evenPart_eq, oddPart_eq]
  refine ⟨?_, ?_, ?_⟩
  · intro i hi
    fin_cases i
    · exact ⟨rfl, rfl⟩
    · cases hi
    · exact ⟨rfl, rfl⟩
    · cases hi
  · intro i hi
    fin_cases i
    · cases hi
    · exact ⟨rfl, rfl⟩
    · cases hi
    · exact ⟨rfl, rfl⟩
  · intro i
    fin_cases i
    · exact .inr rfl
    · exact .inl rfl
    · exact .inr rfl
    · exact .inl rfl

theorem lane_recur (b : Block) (i : Fin 4) :
    b.recur.lane i = b.lane i * multiplier.lane i + increment.lane i := by
  fin_cases i <;> rfl

theorem toNat_lane_recur (b : Block) (i : Fin 4) :
    (b.recur.lane i).toNat =
      ((b.lane i).toNat * (multiplier.lane i).toNat + (increment.lane i).toNat) % 2 ^ 32 := by
  rw [lane_recur, UInt32.toNat_add, UInt32.toNat_mul, Nat.mod_add_mod]

end Block

namespace Register

/-! ## Registers as numbers -/

theorem toNat_append_eq {m n : Nat} (x : BitVec m) (y : BitVec n) :
    (x ++ y).toNat = 2 ^ n * x.toNat + y.toNat := by
  rw [BitVec.toNat_append, ← Nat.shiftLeft_add_eq_or_of_lt y.isLt, Nat.shiftLeft_eq, Nat.mul_comm]

theorem toNat_lane (r : Register) (k : Nat) :
    (r.lane k).toNat = r.toNat / 2 ^ (32 * k) % 2 ^ 32 := by
  rw [lane, BitVec.extractLsb'_toNat, Nat.shiftRight_eq_div_pow]

/-! ## Operations on the stored block -/

theorem toBlock_ofLanes (a b c d : BitVec 32) :
    (ofLanes a b c d).toBlock = ⟨⟨a⟩, ⟨b⟩, ⟨c⟩, ⟨d⟩⟩ := by
  have ha := a.isLt
  have hb := b.isLt
  have hc := c.isLt
  have hd := d.isLt
  have hall : (ofLanes a b c d).toNat =
      2 ^ 32 * (2 ^ 32 * (2 ^ 32 * d.toNat + c.toNat) + b.toNat) + a.toNat := by
    simp only [ofLanes, toNat_append_eq]
  unfold toBlock
  congr 2 <;> apply BitVec.eq_of_toNat_eq <;> rw [toNat_lane, hall] <;> omega

/-- Two words of 64 bits stand over two lanes each. -/
theorem toBlock_append (bottom top : UInt64) :
    toBlock (top.toBitVec ++ bottom.toBitVec) =
      ⟨bottom.toUInt32, (bottom >>> 32).toUInt32, top.toUInt32, (top >>> 32).toUInt32⟩ := by
  have hb := bottom.toNat_lt
  have ht := top.toNat_lt
  have hall : (top.toBitVec ++ bottom.toBitVec).toNat = 2 ^ 64 * top.toNat + bottom.toNat :=
    toNat_append_eq _ _
  have hshift (w : UInt64) : (w >>> 32).toNat = w.toNat / 2 ^ 32 := by
    rw [UInt64.toNat_shiftRight, Nat.shiftRight_eq_div_pow]
    rfl
  apply Block.ext <;> apply UInt32.toNat_inj.1 <;>
    simp only [toBlock, UInt32.toNat_ofBitVec, toNat_lane, hall, UInt64.toNat_toUInt32, hshift] <;>
    omega

theorem toBlock_ofBlock (b : Block) : (ofBlock b).toBlock = b := toBlock_ofLanes ..

theorem toBlock_shuffle (r : Register) : (shuffle swapControl r).toBlock = r.toBlock.swapPairs :=
  toBlock_ofLanes ..

theorem toBlock_mulEven (a b : Register) :
    (mulEven a b).toBlock = a.toBlock.mulEven b.toBlock :=
  toBlock_append (a.toBlock.lane0.toUInt64 * b.toBlock.lane0.toUInt64)
    (a.toBlock.lane2.toUInt64 * b.toBlock.lane2.toUInt64)

theorem toBlock_and (a b : Register) : (a &&& b).toBlock = a.toBlock &&& b.toBlock := by
  simp only [toBlock, lane, BitVec.extractLsb'_and]
  rfl

theorem toBlock_or (a b : Register) : (a ||| b).toBlock = a.toBlock ||| b.toBlock := by
  simp only [toBlock, lane, BitVec.extractLsb'_or]
  rfl

theorem toBlock_addLanes (a b : Register) : (addLanes a b).toBlock = a.toBlock + b.toBlock :=
  toBlock_ofLanes ..

/-! ## The step -/

/-- The products of the even lanes, cut to these lanes. -/
def evenPart (r : Register) : Register :=
  mulEven r (ofBlock Block.multiplier) &&& ofBlock Block.evenMask

/-- The products of the odd lanes, cut to these lanes. -/
def oddPart (r : Register) : Register :=
  shuffle swapControl (mulEven (shuffle swapControl r)
    (shuffle swapControl (ofBlock Block.multiplier)) &&& ofBlock Block.evenMask)

theorem step_eq_parts (r : Register) :
    r.step = addLanes (r.evenPart ||| r.oddPart) (ofBlock Block.increment) := rfl

theorem toBlock_evenPart (r : Register) : r.evenPart.toBlock = r.toBlock.evenPart := by
  unfold evenPart Block.evenPart
  rw [toBlock_and, toBlock_mulEven, toBlock_ofBlock, toBlock_ofBlock]

theorem toBlock_oddPart (r : Register) : r.oddPart.toBlock = r.toBlock.oddPart := by
  unfold oddPart Block.oddPart
  rw [toBlock_shuffle, toBlock_and, toBlock_mulEven, toBlock_shuffle, toBlock_shuffle,
    toBlock_ofBlock, toBlock_ofBlock]

theorem toBlock_step (r : Register) : r.step.toBlock = r.toBlock.step := by
  rw [step_eq_parts, Block.step_eq_parts, toBlock_addLanes, toBlock_or, toBlock_evenPart,
    toBlock_oddPart, toBlock_ofBlock]

/-- Steps in the register are steps of the block, also without storing it in between. -/
theorem toBlock_iterate_step (r : Register) (n : Nat) :
    (step^[n] r).toBlock = Block.step^[n] r.toBlock :=
  (show Function.Semiconj toBlock step Block.step from toBlock_step).iterate_right n r

theorem parts (r : Register) : r.toBlock.Parts r.evenPart.toBlock r.oddPart.toBlock := by
  rw [toBlock_evenPart, toBlock_oddPart]
  exact r.toBlock.parts

end Register

namespace Block

theorem registerStep_eq_step (b : Block) : b.registerStep = b.step := by
  unfold registerStep
  rw [Register.toBlock_step, Register.toBlock_ofBlock]

/-- The step on a register, the step with products of even lanes, and the recurrence of the lanes
modulo `2 ^ 32` are one. In both of the first two, the parts that are joined have no lane in common
and nothing of a neighbour's product. So any number of steps agrees as well. -/
theorem step_paths_agree :
    (∀ b : Block, b.registerStep = b.recur ∧ b.step = b.recur ∧ ∀ i : Fin 4,
      (b.recur.lane i).toNat =
        ((b.lane i).toNat * (multiplier.lane i).toNat + (increment.lane i).toNat) % 2 ^ 32) ∧
    (∀ b : Block, b.step = (b.evenPart ||| b.oddPart) + increment ∧
      b.Parts b.evenPart b.oddPart) ∧
    (∀ r : Register,
      r.step = Register.addLanes (r.evenPart ||| r.oddPart) (Register.ofBlock increment) ∧
      r.toBlock.Parts r.evenPart.toBlock r.oddPart.toBlock) ∧
    ∀ (n : Nat) (b : Block), registerStep^[n] b = recur^[n] b ∧ step^[n] b = recur^[n] b ∧
      (Register.step^[n] (Register.ofBlock b)).toBlock = recur^[n] b := by
  have hstep : step = recur := funext step_eq_recur
  have hregister : registerStep = recur := hstep ▸ funext registerStep_eq_step
  refine ⟨?_, ?_, ?_, ?_⟩
  · intro b
    exact ⟨congrFun hregister b, congrFun hstep b, b.toNat_lane_recur⟩
  · intro b
    exact ⟨b.step_eq_parts, b.parts⟩
  · intro r
    exact ⟨r.step_eq_parts, r.parts⟩
  · intro n b
    rw [Register.toBlock_iterate_step, Register.toBlock_ofBlock, hregister, hstep]
    exact ⟨rfl, rfl, rfl⟩

end Block

end WireLedger
