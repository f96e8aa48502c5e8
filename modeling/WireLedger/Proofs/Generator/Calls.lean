import WireLedger.Generator.Pool
import WireLedger.Proofs.Generator.Stream
/-!
# Calls on a pool

Threads make their calls on the pool one after another, in the order in which they get hold of the
locks. A call reaches the cell of its handle and no other.

Results:
* `after_cases`: all that a call can do.
* `getElem?_cells_after_self`, `getElem?_cells_after_of_ne`: what a call does to its cell and to
  the others.
-/
namespace WireLedger.Pool

/-- A call and the thread that makes it. -/
structure Call where
  thread : Nat
  step : Step
deriving DecidableEq, Repr

/-- The pool after one call. -/
def after (pool : Pool) (step : Step) : Pool := (pool.step step).value.1

/-- What a call shows. -/
def reply (pool : Pool) (step : Step) : Reply := (pool.step step).value.2

/-- The pool after calls of any threads, in the order of the locks. -/
def run (pool : Pool) (calls : List Call) : Pool :=
  calls.foldl (fun pool call => pool.after call.step) pool

/-- How many blocks a call asks for. -/
def Step.draws : Step → Nat
  | .next _ => 1
  | .drawApart _ count => count
  | _ => 0

/-- What a call makes of the generator of its cell. -/
def Step.work (step : Step) (g : Generator) : Generator :=
  match step with
  | .seed _ value => (Generator.seeded value).value
  | _ => (g.draw step.draws).value.2

/-- The blocks that a call hands out. -/
def Reply.handedOut : Reply → List Block
  | .block b => [b]
  | .blocks bs => bs
  | _ => []

variable {pool : Pool} {handle cell : Nat} {g : Generator}

theorem run_append (pool : Pool) (before more : List Call) :
    pool.run (before ++ more) = (pool.run before).run more := List.foldl_append

theorem cell?_eq_some_iff :
    pool.cell? handle = some (cell, g) ↔
      pool.handles[handle]? = some cell ∧ pool.cells[cell]? = some g := by
  unfold cell?
  constructor
  · intro h
    obtain ⟨c, hc, h⟩ := Option.bind_eq_some_iff.1 h
    obtain ⟨g', hg, he⟩ := Option.bind_eq_some_iff.1 h
    cases he
    exact ⟨hc, hg⟩
  · rintro ⟨hc, hg⟩
    exact Option.bind_eq_some_iff.2 ⟨cell, hc, Option.bind_eq_some_iff.2 ⟨g, hg, rfl⟩⟩

/-! ## What a call does -/

/-- A call on a handle that leads nowhere does nothing. Any other call works on its cell and hands
out what it draws there, or it adds a handle of that cell, or a handle with a cell of its own. -/
theorem after_cases (pool : Pool) (step : Step) :
    (pool.cell? step.handle = none ∧ pool.after step = pool ∧ pool.reply step = .absent) ∨
    ∃ cell g, pool.cell? step.handle = some (cell, g) ∧
      (pool.reply step).handedOut = g.blocks step.draws ∧
      ((pool.after step = pool.set cell (step.work g) ∧ ∀ k, pool.reply step ≠ .handle k) ∨
        ((∃ handle, step = .clone handle) ∧ step.work g = g ∧
          pool.after step = { pool with handles := pool.handles ++ [cell] } ∧
          pool.reply step = .handle pool.handles.length) ∨
        ∃ handle start, step = .create handle start ∧ step.work g = g ∧
          pool.after step = ⟨pool.cells ++ [(Generator.create start).value],
            pool.handles ++ [pool.cells.length]⟩ ∧
          pool.reply step = .handle pool.handles.length) := by
  cases hcell : pool.cell? step.handle with
  | none => exact .inl ⟨rfl, by simp only [after, Pool.step, hcell]; rfl,
      by simp only [reply, Pool.step, hcell]; rfl⟩
  | some found =>
    obtain ⟨cell, g⟩ := found
    refine .inr ⟨cell, g, rfl, ?_⟩
    unfold after reply Pool.step
    rw [hcell]
    cases step with
    | seed handle value => exact ⟨rfl, .inl ⟨rfl, nofun⟩⟩
    | next handle => exact ⟨rfl, .inl ⟨rfl, nofun⟩⟩
    | drawApart handle count => exact ⟨rfl, .inl ⟨rfl, nofun⟩⟩
    | clone handle => exact ⟨rfl, .inr (.inl ⟨⟨handle, rfl⟩, rfl, rfl, rfl⟩)⟩
    | create handle start => exact ⟨rfl, .inr (.inr ⟨handle, start, rfl, rfl, rfl, rfl⟩)⟩

/-- A call hands out all the blocks that it asks for, the next ones of its cell. -/
theorem handedOut_reply {step : Step} (hcell : pool.cell? step.handle = some (cell, g)) :
    (pool.reply step).handedOut = g.blocks step.draws := by
  rcases pool.after_cases step with ⟨hnone, -⟩ | ⟨cell', g', hfound, hblocks, -⟩
  · rw [hcell] at hnone
    cases hnone
  · rw [hcell] at hfound
    cases hfound
    exact hblocks

/-- A handle that is made anew is the next one, and leads to a new cell with that generator. -/
theorem create_of_cell? {parent : Nat} (hcell : pool.cell? parent = some (cell, g))
    (start : Generator.Start) :
    pool.reply (.create parent start) = .handle pool.handles.length ∧
      (pool.after (.create parent start)).cell? pool.handles.length =
        some (pool.cells.length, (Generator.create start).value) := by
  have hstep : pool.step (.create parent start) = do
      let g ← Generator.create start
      return (⟨pool.cells ++ [g], pool.handles ++ [pool.cells.length]⟩,
        .handle pool.handles.length) := by
    unfold Pool.step
    rw [show (Step.create parent start).handle = parent from rfl, hcell]
  unfold reply after
  rw [hstep]
  exact ⟨rfl, cell?_eq_some_iff.2
    ⟨List.getElem?_concat_length .., List.getElem?_concat_length ..⟩⟩

theorem getElem?_cells_after_self {step : Step} (hcell : pool.handles[step.handle]? = some cell)
    (hg : pool.cells[cell]? = some g) : (pool.after step).cells[cell]? = some (step.work g) := by
  have hlt := (List.getElem?_eq_some_iff.1 hg).1
  rcases pool.after_cases step with ⟨hnone, -⟩ | ⟨cell', g', hfound, -, hafter⟩
  · rw [cell?_eq_some_iff.2 ⟨hcell, hg⟩] at hnone
    cases hnone
  · rw [cell?_eq_some_iff.2 ⟨hcell, hg⟩] at hfound
    cases hfound
    rcases hafter with ⟨he, -⟩ | ⟨-, hwork, he, -⟩ | ⟨_, _, -, hwork, he, -⟩
    · rw [he]
      exact List.getElem?_set_self hlt
    · rw [he, hwork]
      exact hg
    · rw [he, hwork]
      exact (List.getElem?_append_left hlt).trans hg

theorem getElem?_cells_after_of_ne {step : Step} (hcell : pool.handles[step.handle]? ≠ some cell)
    (hg : pool.cells[cell]? = some g) : (pool.after step).cells[cell]? = some g := by
  have hlt := (List.getElem?_eq_some_iff.1 hg).1
  rcases pool.after_cases step with ⟨-, he, -⟩ | ⟨cell', g', hfound, -, hafter⟩
  · rw [he]
    exact hg
  · have hne : cell' ≠ cell := by
      intro h
      rw [← h] at hcell
      exact hcell (cell?_eq_some_iff.1 hfound).1
    rcases hafter with ⟨he, -⟩ | ⟨-, -, he, -⟩ | ⟨_, _, -, -, he, -⟩ <;> rw [he]
    · exact (List.getElem?_set_ne hne).trans hg
    · exact hg
    · exact (List.getElem?_append_left hlt).trans hg

end WireLedger.Pool
