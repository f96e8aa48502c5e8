/-!
# Blocks of 128 bits

A block is four lanes of 32 bits, lane 0 least significant. Its low half holds lanes 0 and 1, its
high half lanes 2 and 3, and its number is the high half followed by the low half. Names in brackets
are the program's own.

Results:
* `lanes_ofLanes?`, `ofLanes?_lanes`: a block is its list of four lanes.
* `equals_iff_eq`: bitwise comparison is equality.
-/
namespace WireLedger

/-- Four lanes of 32 bits, lane 0 least significant (`Block`). -/
@[ext] structure Block where
  lane0 : UInt32
  lane1 : UInt32
  lane2 : UInt32
  lane3 : UInt32
deriving DecidableEq, Repr, Inhabited

namespace Block

/-- The block of zero bits (`ZERO`). -/
def zero : Block := ⟨0, 0, 0, 0⟩

/-- The lanes, least significant first (`lanes`). -/
def lanes (b : Block) : List UInt32 := [b.lane0, b.lane1, b.lane2, b.lane3]

/-- The lane of that number, lane 0 least significant. -/
def lane (i : Fin 4) (b : Block) : UInt32 := b.lanes.get i

/-- The block of four lanes, least significant first (`from_lanes`). -/
def ofLanes? : List UInt32 → Option Block
  | [a, b, c, d] => some ⟨a, b, c, d⟩
  | _ => none

/-- The block with the given halves (`from_halves`). -/
def ofHalves (high low : UInt64) : Block :=
  ⟨low.toUInt32, (low >>> 32).toUInt32, high.toUInt32, (high >>> 32).toUInt32⟩

/-- Lanes 0 and 1 as one word (`low`). -/
def low (b : Block) : UInt64 := b.lane0.toUInt64 ||| b.lane1.toUInt64 <<< 32

/-- Lanes 2 and 3 as one word (`high`). -/
def high (b : Block) : UInt64 := b.lane2.toUInt64 ||| b.lane3.toUInt64 <<< 32

/-- The number of the block: its high half followed by its low half (`u128::from`). -/
def toNat (b : Block) : Nat := b.high.toNat <<< 64 ||| b.low.toNat

/-- The block of a number; bits from 128 on are dropped (`Block::from`). -/
def ofNat (n : Nat) : Block := ofHalves (UInt64.ofNat (n >>> 64)) (UInt64.ofNat n)

/-- Bitwise equality over all four lanes (`equals`). -/
def equals (a b : Block) : Bool :=
  a.lane0 == b.lane0 && a.lane1 == b.lane1 && a.lane2 == b.lane2 && a.lane3 == b.lane3

/-- Combines two blocks lane by lane. -/
def zipWith (f : UInt32 → UInt32 → UInt32) (a b : Block) : Block :=
  ⟨f a.lane0 b.lane0, f a.lane1 b.lane1, f a.lane2 b.lane2, f a.lane3 b.lane3⟩

theorem ofLanes?_lanes (b : Block) : ofLanes? b.lanes = some b := rfl

theorem lanes_ofLanes? {l : List UInt32} {b : Block} (h : ofLanes? l = some b) : b.lanes = l := by
  match l with
  | [_, _, _, _] => cases h; rfl

theorem equals_iff_eq (a b : Block) : a.equals b = true ↔ a = b := by
  simp [equals, Block.ext_iff, and_assoc]

end Block

end WireLedger
