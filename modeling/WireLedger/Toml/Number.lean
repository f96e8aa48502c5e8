import WireLedger.Decimal.Nearest
import WireLedger.Numeral
import WireLedger.Toml.Item
import WireLedger.Toml.Scan
/-!
# Numbers

Integers of 64 bits in four bases and doubles. A low line may stand between two digits. A decimal
integer has no leading zeros; whatever follows them is left for the next scanner to refuse.
-/
namespace WireLedger.Toml.Scanner

/-- A digit of a base. -/
def digitOf (base : Nat) : Scanner Char := satisfying fun c => (Numeral.digitBelow? base c).isSome

/-- Takes digits of a base, each perhaps behind a low line, and gives the digits. -/
def moreDigits (base : Nat) : Scanner (List Char) :=
  many (orElse (digitOf base) do
    let _ ← char '_'
    ((digitOf base).commit).wanting [.digit])

/-- Takes a digit of a base and more of them, with low lines between them. -/
def digits (base : Nat) : Scanner (List Char) := do
  let first ← digitOf base
  return first :: (← moreDigits base)

/-- Takes a sign, if there is one, and says whether it is a minus. -/
def sign : Scanner Bool := do
  return (← optional (satisfying fun c => c = '+' || c = '-')) = some '-'

/-- Takes a decimal integer: whether it is negative, and its digits. -/
def decimal : Scanner (Bool × List Char) := labelled "integer" do
  let negative ← sign
  let first ← orElse (satisfying fun c => '1' ≤ c && c ≤ '9') (digitOf 10)
  if first = '0' then return (negative, [first])
  else return (negative, first :: (← moreDigits 10))

/-- The number that digits denote; there is always one. -/
def number (base : Nat) (cs : List Char) : Nat := (Numeral.read? base cs).getD 0

/-- The integer of 64 bits with a sign and an absolute value. -/
def integerOf (negative : Bool) (n : Nat) : Except Fault Int :=
  if negative then if n ≤ UInt64.size / 2 then .ok (-n) else .error .tooSmall
  else if n < UInt64.size / 2 then .ok n else .error .tooLarge

/-- Takes an integer of a base behind its mark. -/
def marked (mark label : String) (base : Nat) : Scanner Int :=
  commit <| check (labelled label do
    text mark
    commit (digits base)) fun cs => integerOf false (number base cs)

/-- Takes an integer. -/
def integer : Scanner Int := do
  match ← peek (takeUpTo 2 fun _ => true) with
  | ['0', 'x'] => marked "0x" "hexadecimal integer" 16
  | ['0', 'o'] => marked "0o" "octal integer" 8
  | ['0', 'b'] => marked "0b" "binary integer" 2
  | _ => whole
where
  /-- Takes a decimal integer; one that is out of range is refused for good. -/
  whole : Scanner Int := fun input =>
    match decimal input with
    | .error f => .error f
    | .ok ((negative, cs), rest) =>
      match integerOf negative (number 10 cs) with
      | .ok n => .ok (n, rest)
      | .error fault => .error ⟨input.offset, none, [], some fault, true⟩

/-! ## Floating-point numbers -/

/-- A decimal with a point or an exponent: `digits * 10 ^ exponent`, and its sign. -/
structure Scientific where
  negative : Bool
  digits : Nat
  exponent : Int
deriving DecidableEq, Repr

/-- The nearest double. -/
def Scientific.toFloat (s : Scientific) : Float :=
  let size := Decimal.toFloat s.digits s.exponent
  if s.negative then -size else size

/-- Takes an exponent. -/
def exponent : Scanner Int := do
  let _ ← satisfying fun c => c = 'e' || c = 'E'
  let negative ← sign
  let n := number 10 (← commit (digits 10))
  return if negative then -n else n

/-- Takes the digits behind a point. -/
def fraction : Scanner (List Char) := do
  let _ ← char '.'
  wanting [.digit] (commit (digits 10))

/-- Takes a decimal with a point or an exponent. -/
def scientific : Scanner Scientific := do
  let (negative, whole) ← decimal
  orElse
    (do return ⟨negative, number 10 whole, ← exponent⟩)
    (do
      let places ← fraction
      let e := (← optional exponent).getD 0
      return ⟨negative, number 10 (whole ++ places), e - places.length⟩)

/-- Takes the word for infinity or for no number. -/
def floatWord : Scanner Float :=
  orElse (do text "inf"; return 1 / 0) (do text "nan"; return 0 / 0)

/-- Takes a double. A decimal that is too large is refused for good. -/
def float : Scanner Float := labelled "floating-point number" <|
  orElse finite do
    let negative ← sign
    let x ← floatWord
    return if negative then -x else x
where
  /-- Takes a decimal whose double is not infinite, or is below all others. -/
  finite : Scanner Float := fun input =>
    match scientific input with
    | .error f => .error f
    | .ok (s, rest) =>
      let x := s.toFloat
      if x == 1 / 0 then .error ⟨input.offset, none, [], none, true⟩ else .ok (x, rest)

end WireLedger.Toml.Scanner
