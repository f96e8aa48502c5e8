import WireLedger.Block.Basic
import WireLedger.Numeral.Layout
/-!
# Blocks as text

A block is shown as its two halves, high half first, with one space between them: each half in
sixteen hexadecimal digits, or in decimal without leading zeros. The two line forms end in a
newline, and neither is handed out unless it stays below a capacity. The readers accept exactly two
halves that fit their words.
-/
namespace WireLedger.Block

/-- No text of a block reaches this many bytes (`TEXT_CAPACITY`). -/
def textCapacity : Nat := 100

/-- Both halves in sixteen hexadecimal digits, high half first (`Display`). -/
def display (b : Block) : String :=
  Numeral.hexPadded 16 b.high.toNat ++ " " ++ Numeral.hexPadded 16 b.low.toNat

instance : ToString Block where
  toString := display

/-- The hexadecimal line of a block. -/
def hexLine (b : Block) : String := b.display ++ "\n"

/-- The decimal line of a block. -/
def decimalLine (b : Block) : String :=
  Numeral.decimal b.high.toNat ++ " " ++ Numeral.decimal b.low.toNat ++ "\n"

/-- A text that is empty or reaches the capacity: the form that it is in, and its bytes. -/
structure Overflow where
  form : String
  size : Nat
deriving DecidableEq, Repr

/-- The overflow in one sentence, as `bounded_text` words it. -/
def Overflow.message (overflow : Overflow) : String :=
  "Buffer overflow for Block::" ++ overflow.form ++ "(): " ++ toString overflow.size ++
    " bytes exceeds capacity " ++ toString textCapacity

/-- The text, if it is neither empty nor reaches the capacity (`bounded_text`). -/
def bounded (form text : String) : Except Overflow String :=
  if text ≠ "" ∧ text.utf8ByteSize < textCapacity then .ok text
  else .error ⟨form, text.utf8ByteSize⟩

/-- The hexadecimal line, checked against the capacity (`to_hex`). -/
def hexText (b : Block) : Except Overflow String := bounded "to_hex" b.hexLine

/-- The decimal line, checked against the capacity (`to_decimal`). -/
def decimalText (b : Block) : Except Overflow String := bounded "to_decimal" b.decimalLine

/-- The number of the block in hexadecimal, laid out in a field (`LowerHex`). -/
def hexIn (layout : Numeral.Layout) (b : Block) : String := layout.hex b.toNat

/-- The two fields of a line: what stands before its first space, and from there to its newline. -/
def fields? (line : List Char) : Option (List Char × List Char) :=
  let high := line.takeWhile (· ≠ ' ')
  match line.dropWhile (· ≠ ' ') with
  | _ :: rest => if rest.getLast? = some '\n' then some (high, rest.dropLast) else none
  | [] => none

/-- Reads a line of two halves in the given base. -/
def ofLine? (base : Nat) (line : String) : Option Block := do
  let (high, low) ← fields? line.toList
  let high ← (Numeral.read? base high).filter (· < UInt64.size)
  let low ← (Numeral.read? base low).filter (· < UInt64.size)
  return ofHalves (UInt64.ofNat high) (UInt64.ofNat low)

/-- Reads the hexadecimal line of a block. -/
def ofHexLine? : String → Option Block := ofLine? 16

/-- Reads the decimal line of a block. -/
def ofDecimalLine? : String → Option Block := ofLine? 10

end WireLedger.Block
