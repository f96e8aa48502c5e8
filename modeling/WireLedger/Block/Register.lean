import WireLedger.Block.Basic
import WireLedger.Block.Recurrence
/-!
# One step of a block on a vector register

The step as a vector unit runs it, on one register of 128 bits: `shuffle` rearranges the lanes,
`mulEven` multiplies words of 32 bits in the even lanes to words of 64, `and` and `or` take the
register as a whole, and `addLanes` adds lane by lane without carry between lanes.
-/
namespace WireLedger

/-- A vector register of 128 bits (`__m128i`). -/
abbrev Register := BitVec 128

namespace Register

/-- Lane `k` of the register, lane 0 least significant. -/
def lane (r : Register) (k : Nat) : BitVec 32 := r.extractLsb' (32 * k) 32

/-- The register of four lanes, least significant first. -/
def ofLanes (a b c d : BitVec 32) : Register := d ++ c ++ b ++ a

/-- The block with the lanes of the register (`_mm_storeu_si128`). -/
def toBlock (r : Register) : Block :=
  ⟨⟨r.lane 0⟩, ⟨r.lane 1⟩, ⟨r.lane 2⟩, ⟨r.lane 3⟩⟩

/-- Loads a block (`_mm_loadu_si128`). -/
def ofBlock (b : Block) : Register :=
  ofLanes b.lane0.toBitVec b.lane1.toBitVec b.lane2.toBitVec b.lane3.toBitVec

/-- Lane `k` of the result is the lane that bits `2 * k` and `2 * k + 1` of the control name
(`_mm_shuffle_epi32`). -/
def shuffle (control : BitVec 8) (r : Register) : Register :=
  let pick (k : Nat) : BitVec 32 := r.lane (control.extractLsb' (2 * k) 2).toNat
  ofLanes (pick 0) (pick 1) (pick 2) (pick 3)

/-- The 64-bit products of lanes 0 and of lanes 2 (`_mm_mul_epu32`). -/
def mulEven (a b : Register) : Register :=
  let product (k : Nat) : BitVec 64 := (a.lane k).zeroExtend 64 * (b.lane k).zeroExtend 64
  product 2 ++ product 0

/-- Adds lane by lane (`_mm_add_epi32`). -/
def addLanes (a b : Register) : Register :=
  ofLanes (a.lane 0 + b.lane 0) (a.lane 1 + b.lane 1) (a.lane 2 + b.lane 2) (a.lane 3 + b.lane 3)

/-- The control that exchanges each even lane with the odd lane above it (`SWAP_PAIRS`). -/
def swapControl : BitVec 8 := 0b10110001

/-- The next register: what `sse2::step` does between its load and its store. -/
def step (r : Register) : Register :=
  let multiplier := ofBlock Block.multiplier
  let mask := ofBlock Block.evenMask
  let even := mulEven r multiplier &&& mask
  let odd := mulEven (shuffle swapControl r) (shuffle swapControl multiplier) &&& mask
  addLanes (even ||| shuffle swapControl odd) (ofBlock Block.increment)

end Register

/-- The step of a block that is loaded into a register and stored again (`sse2::step`). -/
def Block.registerStep (b : Block) : Block := (Register.ofBlock b).step.toBlock

end WireLedger
