import WireLedger.Generator.Basic
/-!
# Generators behind a lock

A pool has cells, each a generator behind a lock, and handles, each of which leads to one cell. A
copy of a handle leads to the same cell. Seeding and drawing hold the lock of the cell throughout,
so the calls on one cell come one after another whatever threads they come from, and a run of the
pool is a list of calls in that order.

Draws on a thread of their own leave no event with the caller.
-/
namespace WireLedger

/-- Cells with a generator each, and handles that lead to them (`SharedBlockGenerator`). -/
structure Pool where
  cells : List Generator
  handles : List Nat
deriving DecidableEq, Repr

namespace Pool

/-- A call on a handle. -/
inductive Step where
  /-- Seeds the generator under the lock (`seed`). -/
  | seed (handle : Nat) (value : UInt32)
  /-- Draws one block under the lock (`advance`). -/
  | next (handle : Nat)
  /-- Draws on another thread, through a copy of the handle that lives as long as the thread. -/
  | drawApart (handle count : Nat)
  | clone (handle : Nat)
  /-- Makes a cell of its own, with a generator that starts so. -/
  | create (handle : Nat) (start : Generator.Start)
deriving DecidableEq, Repr

/-- What a call shows. -/
inductive Reply where
  | done
  | block (block : Block)
  | blocks (blocks : List Block)
  | handle (handle : Nat)
  /-- There is no such handle. -/
  | absent
deriving DecidableEq, Repr

/-- The handle that a call is made on. -/
def Step.handle : Step → Nat
  | seed handle _ | next handle | drawApart handle _ | clone handle | create handle _ => handle

/-- The pool with one cell and one handle. -/
def ofStart (start : Generator.Start) : Logged Pool := do
  return ⟨[← Generator.create start], [0]⟩

/-- The cell that a handle leads to and its generator. -/
def cell? (pool : Pool) (handle : Nat) : Option (Nat × Generator) := do
  let cell ← pool.handles[handle]?
  return (cell, ← pool.cells[cell]?)

/-- The pool with the generator of one cell replaced. -/
def set (pool : Pool) (cell : Nat) (g : Generator) : Pool :=
  { pool with cells := pool.cells.set cell g }

/-- The pool after one call, and what the call shows. -/
def step (pool : Pool) (step : Step) : Logged (Pool × Reply) :=
  match pool.cell? step.handle with
  | none => return (pool, .absent)
  | some (cell, g) =>
    match step with
    | .seed _ value => do return (pool.set cell (← g.seed value), .done)
    | .next _ => do
      let (block, g) ← g.next
      return (pool.set cell g, .block block)
    | .drawApart _ count =>
      let (blocks, g) := (g.draw count).value
      return (pool.set cell g, .blocks blocks)
    | .clone _ =>
      return ({ pool with handles := pool.handles ++ [cell] }, .handle pool.handles.length)
    | .create _ start => do
      let g ← Generator.create start
      return (⟨pool.cells ++ [g], pool.handles ++ [pool.cells.length]⟩,
        .handle pool.handles.length)

end Pool

end WireLedger
