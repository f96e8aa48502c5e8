import WireLedger.Numeral
/-!
# Laying a number out in a field

A layout says how a hexadecimal number fills a field of a least width: with a plus sign, with the
base marked, with zeros after both, or with a fill character on one side or on both. Zeros win over
fill and alignment. A number wider than its field is never cut.

The layout itself is written `[[fill]align][+][#][0]`, where `align` is one of `<`, `^` and `>`.
-/
namespace WireLedger.Numeral

/-- The side of the field on which a number stands. -/
inductive Alignment where
  | left
  | center
  | right
deriving DecidableEq, Repr

/-- How a number fills its field. -/
structure Layout where
  fill : Char := ' '
  alignment : Alignment := .right
  plus : Bool := false
  markBase : Bool := false
  zeros : Bool := false
  width : Nat := 0
deriving DecidableEq, Repr

namespace Layout

/-- The alignment that a character of the written form stands for. -/
def alignment? : Char → Option Alignment
  | '<' => some .left
  | '^' => some .center
  | '>' => some .right
  | _ => none

/-- The flags `+`, `#` and `0`, each at most once and in this order. -/
def flags? (layout : Layout) (cs : List Char) : Option Layout :=
  let (plus, cs) := match cs with
    | '+' :: rest => (true, rest)
    | _ => (false, cs)
  let (markBase, cs) := match cs with
    | '#' :: rest => (true, rest)
    | _ => (false, cs)
  let (zeros, cs) := match cs with
    | '0' :: rest => (true, rest)
    | _ => (false, cs)
  if cs.isEmpty then some { layout with plus, markBase, zeros } else none

/-- Reads a written layout for a field of the given width. A character before an alignment is the
fill, also when it could be an alignment itself. -/
def ofSpec? (spec : String) (width : Nat) : Option Layout :=
  match spec.toList with
  | c :: d :: rest =>
    match alignment? d, alignment? c with
    | some alignment, _ => flags? { fill := c, alignment, width } rest
    | none, some alignment => flags? { alignment, width } (d :: rest)
    | none, none => flags? { width } (c :: d :: rest)
  | [c] =>
    match alignment? c with
    | some alignment => some { alignment, width }
    | none => flags? { width } [c]
  | [] => some { width }

/-- The sign and the base mark that go in front of the digits. -/
def lead (layout : Layout) : List Char :=
  (if layout.plus then ['+'] else []) ++ (if layout.markBase then ['0', 'x'] else [])

/-- The number in base sixteen, laid out. In the middle of a field the odd character of the fill
goes to the right. -/
def hex (layout : Layout) (n : Nat) : String :=
  let digits := Nat.toDigits 16 n
  let gap := layout.width - (layout.lead.length + digits.length)
  if layout.zeros then
    String.ofList (layout.lead ++ List.replicate gap '0' ++ digits)
  else
    let before := match layout.alignment with
      | .left => 0
      | .center => gap / 2
      | .right => gap
    String.ofList (List.replicate before layout.fill ++ layout.lead ++ digits ++
      List.replicate (gap - before) layout.fill)

end Layout

end WireLedger.Numeral
