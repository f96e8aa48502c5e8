import WireLedger.Block.Recurrence
import WireLedger.Journal.Logged
import WireLedger.Settings.Basic
/-!
# Block generators

A generator is a state that a step takes to the next one; each draw hands out the state it goes to.
There are four ways to draw: one block, several, into given slots, or past several to a later one.
Every draw emits one event and so does every seeding. Names in brackets are the program's own.
-/
namespace WireLedger

/-- A generator of blocks (`BlockGenerator`). -/
structure Generator where
  state : Block
deriving DecidableEq, Repr

namespace Generator

/-- The generator that was never seeded; its state is zero (`new`). -/
def unseeded : Generator := ⟨.zero⟩

/-- Takes the state from a seed (`seed`). -/
def seed (_ : Generator) (value : UInt32) : Logged Generator := do
  let state := Block.ofSeed value
  Logged.emit (.seeded value state)
  return ⟨state⟩

/-- A new generator with a seed (`seeded`). -/
def seeded (value : UInt32) : Logged Generator := unseeded.seed value

/-- A new generator with the seed that is set, if one is (`from_config`). -/
def ofSettings (settings : Settings) : Logged Generator :=
  match settings.seed with
  | some value => seeded value
  | none => return unseeded

/-- Draws one block (`advance`). -/
def next (g : Generator) : Logged (Block × Generator) := do
  let state := g.state.step
  Logged.emit (.advanced state)
  return (state, ⟨state⟩)

/-- Draws `count` blocks (`take`). -/
def draw (g : Generator) : (count : Nat) → Logged (List Block × Generator)
  | 0 => return ([], g)
  | count + 1 => do
    let (block, g) ← g.next
    Prod.map (block :: ·) id <$> g.draw count

/-- Draws a block for each slot, in order, and puts it there (`fill`). -/
def fill (g : Generator) : (slots : List Block) → Logged (List Block × Generator)
  | [] => return ([], g)
  | _ :: rest => do
    let (block, g) ← g.next
    Prod.map (block :: ·) id <$> g.fill rest

/-- Draws `skipped` blocks, drops them, and draws one more (`nth`). -/
def nth (g : Generator) : (skipped : Nat) → Logged (Block × Generator)
  | 0 => g.next
  | skipped + 1 => do
    let (_, g) ← g.next
    g.nth skipped

/-- How many blocks are still to come: at least none, and no bound (`size_hint`). -/
def sizeHint (_ : Generator) : Nat × Option Nat := (0, none)

/-- How a new generator starts. -/
inductive Start where
  | unseeded
  | seeded (value : UInt32)
  | ofSettings (settings : Settings)
  /-- As a generator that was made elsewhere. -/
  | given (generator : Generator)
deriving DecidableEq, Repr

/-- The generator that starts so. -/
def create : Start → Logged Generator
  | .unseeded => return unseeded
  | .seeded value => seeded value
  | .ofSettings settings => ofSettings settings
  | .given generator => return generator

end Generator

end WireLedger
