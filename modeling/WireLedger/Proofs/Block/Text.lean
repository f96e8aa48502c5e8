import Mathlib.Tactic.TFAE
import WireLedger.Block.Text
import WireLedger.Proofs.Block.Views
import WireLedger.Proofs.Numeral.Spelling
/-!
# The texts of a block

Each line of a block shows its two halves, spelled in the base of the line, so it is read back as
the block, whatever the digits are. All views and texts are equal for the same pairs of blocks.

Results:
* `shows_hexLine`, `shows_decimalLine`: what stands in the two lines.
* `Shows.ofLine?`: a line that shows a block is read as that block.
* `views_agree`: views and texts give the block back and tell the same blocks apart.
-/
namespace WireLedger.Block

open Numeral

variable {base : Nat} {b : Block} {line : String} {high low : List Char}

/-- The line shows the halves of the block in a base: `high`, a space, `low` and a newline. -/
structure Shows (base : Nat) (b : Block) (line : String) (high low : List Char) : Prop where
  toList : line.toList = high ++ ' ' :: (low ++ ['\n'])
  high : Spells base high b.high.toNat
  low : Spells base low b.low.toNat

theorem shows_hexLine (b : Block) : b.Shows 16 b.hexLine
    (hexPadded 16 b.high.toNat).toList (hexPadded 16 b.low.toNat).toList where
  toList := by simp [hexLine, display]
  high := spells_hexPadded _ _
  low := spells_hexPadded _ _

theorem shows_decimalLine (b : Block) : b.Shows 10 b.decimalLine
    (Nat.toDigits 10 b.high.toNat) (Nat.toDigits 10 b.low.toNat) where
  toList := by simp [decimalLine, decimal]
  high := spells_toDigits (by decide) _
  low := spells_toDigits (by decide) _

/-! ## Reading a line -/

theorem fields?_append (h : ' ' ∉ high) (low : List Char) :
    fields? (high ++ ' ' :: (low ++ ['\n'])) = some (high, low) := by
  have hkeep : ∀ c ∈ high, decide (c ≠ ' ') = true := by
    intro c hc
    exact decide_eq_true fun hspace => h (hspace ▸ hc)
  have htake : (high ++ ' ' :: (low ++ ['\n'])).takeWhile (· ≠ ' ') = high := by
    rw [List.takeWhile_append_of_pos hkeep, List.takeWhile_cons_of_neg (by decide), List.append_nil]
  have hdrop : (high ++ ' ' :: (low ++ ['\n'])).dropWhile (· ≠ ' ') = ' ' :: (low ++ ['\n']) := by
    rw [List.dropWhile_append_of_pos hkeep, List.dropWhile_cons_of_neg (by decide)]
  unfold fields?
  rw [htake, hdrop]
  simp

theorem space_notMem {n : Nat} (h : Spells base high n) : ' ' ∉ high :=
  h.notMem fun _ => Nat.digitChar_ne ' ' (by decide)

theorem newline_notMem {n : Nat} (h : Spells base high n) : '\n' ∉ high :=
  h.notMem fun _ => Nat.digitChar_ne '\n' (by decide)

theorem Shows.ofLine? (hbase : base ≤ 16) (h : b.Shows base line high low) :
    ofLine? base line = some b := by
  have hhigh := b.high.toNat_lt_size
  have hlow := b.low.toNat_lt_size
  unfold Block.ofLine?
  rw [h.toList, fields?_append (space_notMem h.high)]
  simp [h.high.read? hbase, h.low.read? hbase, Option.filter_some, hhigh, hlow, ofHalves_halves]

theorem ofHexLine?_hexLine (b : Block) : ofHexLine? b.hexLine = some b :=
  b.shows_hexLine.ofLine? (by decide)

theorem ofDecimalLine?_decimalLine (b : Block) : ofDecimalLine? b.decimalLine = some b :=
  b.shows_decimalLine.ofLine? (by decide)

/-! ## The number in hexadecimal -/

/-- The digits of a line, without the space and the newline between and behind them. -/
def digits (line : String) : List Char := line.toList.filter fun c => c ≠ ' ' ∧ c ≠ '\n'

theorem Shows.digits_eq (h : b.Shows base line high low) : digits line = high ++ low := by
  have hkeep {cs : List Char} {n : Nat} (hcs : Spells base cs n) :
      cs.filter (fun c => c ≠ ' ' ∧ c ≠ '\n') = cs := by
    refine List.filter_eq_self.2 fun c hc => decide_eq_true ⟨?_, ?_⟩ <;> rintro rfl
    · exact space_notMem hcs hc
    · exact newline_notMem hcs hc
  rw [digits, h.toList, List.filter_append, List.filter_cons_of_neg (by decide),
    List.filter_append, hkeep h.high, hkeep h.low, List.filter_cons_of_neg (by decide),
    List.filter_nil, List.append_nil]

theorem toList_hexIn (b : Block) : (b.hexIn {}).toList = Nat.toDigits 16 b.toNat := by
  simp [hexIn, Layout.hex, Layout.lead]

/-- The low half takes up sixteen digits, so both halves together spell the number. -/
theorem spells_digits_hexLine (b : Block) : Spells 16 (digits b.hexLine) b.toNat := by
  have hlen : (hexPadded 16 b.low.toNat).toList.length = 16 :=
    length_hexPadded (by decide) b.low.toNat_lt
  have hboth := b.shows_hexLine.high.append b.shows_hexLine.low
  rw [hlen] at hboth
  rw [b.shows_hexLine.digits_eq, toNat_eq]
  exact hboth

theorem toList_hexIn_eq (b : Block) : (b.hexIn {}).toList = stripZeros (digits b.hexLine) := by
  rw [toList_hexIn, b.spells_digits_hexLine.stripZeros_eq (by decide) (by decide)]

/-! ## Capacity -/

theorem utf8ByteSize_of_single {cs : List Char} (h : ∀ c ∈ cs, c.utf8Size = 1) :
    (String.ofList cs).utf8ByteSize = cs.length := by
  induction cs with
  | nil => rfl
  | cons c cs ih =>
    have hc : c.utf8Size = 1 := h c List.mem_cons_self
    have hcs := ih fun d hd => h d (List.mem_cons_of_mem c hd)
    rw [String.ofList_cons, String.utf8ByteSize_append, String.utf8ByteSize_singleton, hc, hcs,
      List.length_cons, Nat.add_comm]

theorem Shows.utf8ByteSize_eq (hbase : base ≤ 16) (h : b.Shows base line high low) :
    line.utf8ByteSize = high.length + low.length + 2 := by
  have hdigits {cs : List Char} {n : Nat} (hcs : Spells base cs n) : ∀ c ∈ cs, c.utf8Size = 1 := by
    intro c hc
    obtain ⟨d, hd, rfl⟩ := hcs.exists_digit hc
    exact utf8Size_digitChar (by omega)
  have hsingle : ∀ c ∈ line.toList, c.utf8Size = 1 := by
    intro c hc
    rw [h.toList] at hc
    rcases List.mem_append.1 hc with hc | hc
    · exact hdigits h.high c hc
    · rcases List.mem_cons.1 hc with rfl | hc
      · rfl
      · rcases List.mem_append.1 hc with hc | hc
        · exact hdigits h.low c hc
        · rw [List.mem_singleton.1 hc]
          rfl
  rw [← String.ofList_toList (s := line), utf8ByteSize_of_single hsingle, h.toList]
  simp only [List.length_append, List.length_cons, List.length_nil]
  omega

/-- No half has more than twenty digits, in either base. -/
theorem Shows.bounded_eq (hbase : base ≤ 16) (h : b.Shows base line high low)
    (hhigh : high.length ≤ 20) (hlow : low.length ≤ 20) (form : String) :
    bounded form line = .ok line := by
  have hsize := h.utf8ByteSize_eq hbase
  have hne : line ≠ "" := by
    rintro rfl
    rw [String.utf8ByteSize_empty] at hsize
    omega
  have hcapacity : line.utf8ByteSize < textCapacity := by
    unfold textCapacity
    omega
  rw [bounded, if_pos ⟨hne, hcapacity⟩]

theorem hexText_eq (b : Block) : b.hexText = .ok b.hexLine := by
  have hlen (w : UInt64) : (hexPadded 16 w.toNat).toList.length = 16 :=
    length_hexPadded (by decide) w.toNat_lt
  refine b.shows_hexLine.bounded_eq (by decide) ?_ ?_ _ <;> rw [hlen] <;> decide

theorem decimalText_eq (b : Block) : b.decimalText = .ok b.decimalLine := by
  have hlen (w : UInt64) : (Nat.toDigits 10 w.toNat).length ≤ 20 := by
    have hw := w.toNat_lt
    exact (Nat.length_toDigits_le_iff (by decide) (by decide)).2 (by omega)
  exact b.shows_decimalLine.bounded_eq (by decide) (hlen _) (hlen _) _

/-! ## All views together -/

/-- What the views of a block are, and that each gives the block back. -/
structure Views (b : Block) : Prop where
  ofLanes? : Block.ofLanes? b.lanes = some b
  ofHalves : Block.ofHalves b.high b.low = b
  ofNat : Block.ofNat b.toNat = b
  sum_lanes : b.toNat = ∑ i : Fin 4, (b.lane i).toNat * 2 ^ (32 * i.val)
  sum_halves : b.toNat = b.high.toNat * 2 ^ 64 + b.low.toNat

/-- What the texts of a block are, and that they are read back as the block. -/
structure Texts (b : Block) : Prop where
  hexLine : ∃ high low, b.Shows 16 b.hexLine high low ∧ high.length = 16 ∧ low.length = 16
  display : b.hexLine = toString b ++ "\n"
  decimalLine : ∃ high low, b.Shows 10 b.decimalLine high low ∧ Unpadded high ∧ Unpadded low
  ofHexLine? : Block.ofHexLine? b.hexLine = some b
  ofDecimalLine? : Block.ofDecimalLine? b.decimalLine = some b
  /-- The number in hexadecimal has the digits of the line, without zeros in front. -/
  hexIn : (b.hexIn {}).toList = stripZeros (digits b.hexLine)
  /-- Both lines are handed out. -/
  hexText : b.hexText = .ok b.hexLine
  decimalText : b.decimalText = .ok b.decimalLine

theorem views (b : Block) : b.Views where
  ofLanes? := ofLanes?_lanes b
  ofHalves := ofHalves_halves b
  ofNat := ofNat_toNat b
  sum_lanes := toNat_eq_sum b
  sum_halves := toNat_eq b

theorem texts (b : Block) : b.Texts where
  hexLine := ⟨_, _, b.shows_hexLine, length_hexPadded (by decide) b.high.toNat_lt,
    length_hexPadded (by decide) b.low.toNat_lt⟩
  display := rfl
  decimalLine := ⟨_, _, b.shows_decimalLine, unpadded_toDigits (by decide) (by decide) _,
    unpadded_toDigits (by decide) (by decide) _⟩
  ofHexLine? := ofHexLine?_hexLine b
  ofDecimalLine? := ofDecimalLine?_decimalLine b
  hexIn := toList_hexIn_eq b
  hexText := hexText_eq b
  decimalText := decimalText_eq b

theorem toNat_injective : Function.Injective toNat :=
  Function.LeftInverse.injective ofNat_toNat

/-- The ways to compare two blocks: outright, in their views and in their texts. -/
def comparisons (a b : Block) : List Prop :=
  [a = b, a.equals b = true, (a == b) = true, a.lanes = b.lanes, a.high = b.high ∧ a.low = b.low,
    a.toNat = b.toNat, a.hexLine = b.hexLine, a.decimalLine = b.decimalLine,
    toString a = toString b, a.hexIn {} = b.hexIn {}]

theorem tfae_comparisons (a b : Block) : (comparisons a b).TFAE := by
  unfold comparisons
  tfae_have 1 ↔ 2 := (equals_iff_eq a b).symm
  tfae_have 1 ↔ 3 := beq_iff_eq.symm
  tfae_have 1 → 4 := congrArg lanes
  tfae_have 4 → 1 := fun h => Option.some.inj (by rw [← ofLanes?_lanes a, h, ofLanes?_lanes])
  tfae_have 1 → 5 := fun h => ⟨congrArg high h, congrArg low h⟩
  tfae_have 5 → 1 := fun h => by rw [← ofHalves_halves a, h.1, h.2, ofHalves_halves]
  tfae_have 1 ↔ 6 := toNat_injective.eq_iff.symm
  tfae_have 1 → 9 := congrArg toString
  tfae_have 9 → 7 := fun h => congrArg (· ++ "\n") h
  tfae_have 7 → 1 := fun h =>
    Option.some.inj (by rw [← ofHexLine?_hexLine a, h, ofHexLine?_hexLine])
  tfae_have 1 → 8 := congrArg decimalLine
  tfae_have 8 → 1 := fun h =>
    Option.some.inj (by rw [← ofDecimalLine?_decimalLine a, h, ofDecimalLine?_decimalLine])
  tfae_have 1 → 10 := congrArg (hexIn {})
  tfae_have 10 → 6 := fun h => by
    have hspelled : Spells 16 (a.hexIn {}).toList a.toNat := by
      rw [toList_hexIn]
      exact spells_toDigits (by decide) _
    rw [h, toList_hexIn] at hspelled
    exact hspelled.inj (by decide) (spells_toDigits (by decide) _)
  tfae_finish

/-- Every view and every text of a block gives it back, every four lanes, two halves and number of
128 bits are those of a block, and all views and texts tell the same blocks apart. -/
theorem views_agree :
    (∀ b : Block, b.Views ∧ b.Texts) ∧
    (∀ l : List UInt32, (ofLanes? l).map lanes = if l.length = 4 then some l else none) ∧
    (∀ high low : UInt64, (ofHalves high low).high = high ∧ (ofHalves high low).low = low) ∧
    (∀ n : Fin (2 ^ 128), (ofNat n).toNat = n) ∧
    ∀ a b : Block, (comparisons a b).TFAE := by
  refine ⟨?_, map_lanes_ofLanes?, ?_, ?_, tfae_comparisons⟩
  · intro b
    exact ⟨b.views, b.texts⟩
  · intro high low
    exact ⟨high_ofHalves high low, low_ofHalves high low⟩
  · intro n
    rw [toNat_ofNat, Nat.mod_eq_of_lt n.isLt]

example : zero.hexIn {} = "0" := by decide

end WireLedger.Block
