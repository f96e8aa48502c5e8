import WireLedger.Generator.Basic
/-!
# Several generators

Generators numbered in the order in which they were made. Each owns its state: a step changes the
generator it names and no other, and a copy goes on by itself. A step on a generator that does not
exist does nothing.
-/
namespace WireLedger

/-- Numbered generators. -/
structure Fleet where
  generators : List Generator
deriving DecidableEq, Repr

namespace Fleet

/-- A step on numbered generators. -/
inductive Step where
  | seed (number : Nat) (value : UInt32)
  /-- Shows the state. -/
  | state (number : Nat)
  | draw (number count : Nat)
  /-- Fills that many slots. -/
  | fill (number count : Nat)
  | nth (number skipped : Nat)
  | sizeHint (number : Nat)
  | clone (number : Nat)
  | create (start : Generator.Start)
deriving DecidableEq, Repr

/-- What a step shows. -/
inductive Reply where
  | block (block : Block)
  | blocks (blocks : List Block)
  | sizeHint (least : Nat) (most : Option Nat)
  | number (number : Nat)
  /-- There is no such generator. -/
  | absent
deriving DecidableEq, Repr

/-- The fleet with one generator. -/
def ofStart (start : Generator.Start) : Logged Fleet := do return ⟨[← Generator.create start]⟩

/-- The fleet with one generator replaced. -/
def set (fleet : Fleet) (number : Nat) (g : Generator) : Fleet :=
  ⟨fleet.generators.set number g⟩

/-- Adds a generator and shows its number. -/
def push (fleet : Fleet) (g : Generator) : Fleet × Reply :=
  (⟨fleet.generators ++ [g]⟩, .number fleet.generators.length)

/-- Runs one generator, if it exists, and keeps what it becomes. -/
def on (fleet : Fleet) (number : Nat) (run : Generator → Logged (Reply × Generator)) :
    Logged (Fleet × Reply) :=
  match fleet.generators[number]? with
  | some g => do
    let (reply, g) ← run g
    return (fleet.set number g, reply)
  | none => return (fleet, .absent)

/-- The fleet after one step, and what the step shows. -/
def step (fleet : Fleet) : Step → Logged (Fleet × Reply)
  | .seed number value => fleet.on number fun g => do
    let g ← g.seed value
    return (.block g.state, g)
  | .state number => fleet.on number fun g => return (.block g.state, g)
  | .draw number count => fleet.on number fun g => do
    let (blocks, g) ← g.draw count
    return (.blocks blocks, g)
  | .fill number count => fleet.on number fun g => do
    let (blocks, g) ← g.fill (List.replicate count .zero)
    return (.blocks blocks, g)
  | .nth number skipped => fleet.on number fun g => do
    let (block, g) ← g.nth skipped
    return (.block block, g)
  | .sizeHint number => fleet.on number fun g =>
    return (.sizeHint g.sizeHint.1 g.sizeHint.2, g)
  | .clone number =>
    match fleet.generators[number]? with
    | some g => return fleet.push g
    | none => return (fleet, .absent)
  | .create start => do return fleet.push (← Generator.create start)

end Fleet

end WireLedger
