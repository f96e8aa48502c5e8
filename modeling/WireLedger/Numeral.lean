/-!
# Numerals

Unsigned numbers as text in a base of at most sixteen, and back. Letters stand for the digits from
ten on; they are written in lower case and read in either case.

Results:
* `length_leftpad_hex`: a padded numeral is as wide as asked, or as wide as its digits.
-/
namespace WireLedger.Numeral

/-- The digits of `n` in base ten, without leading zeros; zero is one digit. -/
def decimal (n : Nat) : String := String.ofList (Nat.toDigits 10 n)

/-- The digits of `n` in base sixteen, without leading zeros; zero is one digit. -/
def hex (n : Nat) : String := String.ofList (Nat.toDigits 16 n)

/-- The digits of `n` in base sixteen, with zeros in front up to `width` characters. -/
def hexPadded (width n : Nat) : String :=
  String.ofList ((Nat.toDigits 16 n).leftpad width '0')

/-- What a digit stands for, in any base up to sixteen. -/
def digit? (c : Char) : Option Nat :=
  if '0' ≤ c ∧ c ≤ '9' then some (c.toNat - '0'.toNat)
  else if 'a' ≤ c ∧ c ≤ 'f' then some (c.toNat - 'a'.toNat + 10)
  else if 'A' ≤ c ∧ c ≤ 'F' then some (c.toNat - 'A'.toNat + 10)
  else none

/-- What a digit of the given base stands for. -/
def digitBelow? (base : Nat) (c : Char) : Option Nat :=
  (digit? c).filter (· < base)

/-- Appends the digits `cs` to the numeral read so far. -/
def readFrom? (base : Nat) (n : Nat) : List Char → Option Nat
  | [] => some n
  | c :: cs => do readFrom? base (n * base + (← digitBelow? base c)) cs

/-- The number that a nonempty list of digits denotes. -/
def read? (base : Nat) : List Char → Option Nat
  | [] => none
  | c :: cs => readFrom? base 0 (c :: cs)

/-- A number below `bound`, in decimal digits after at most one plus sign. -/
def readBelow? (bound : Nat) (cs : List Char) : Option Nat :=
  let digits := match cs with
    | '+' :: rest => rest
    | _ => cs
  (read? 10 digits).filter (· < bound)

theorem length_leftpad_hex (width n : Nat) :
    ((Nat.toDigits 16 n).leftpad width '0').length = max width (Nat.toDigits 16 n).length := by
  simp only [List.leftpad, List.length_append, List.length_replicate]; omega

end WireLedger.Numeral
