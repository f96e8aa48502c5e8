import Mathlib.Data.List.Iterate
import WireLedger.Generator.Basic
/-!
# What a generator hands out

Results:
* `state_draw`: draws move the state by as many steps.
* `blocks_draw`: what they hand out are the states on the way.
* `blocks_add`: what comes after some draws is the stream of the state they lead to.
-/
namespace WireLedger.Generator

theorem state_seeded (value : UInt32) : (seeded value).value.state = .ofSeed value := rfl

theorem state_draw (g : Generator) (n : Nat) :
    (g.draw n).value.2.state = Block.step^[n] g.state := by
  induction n generalizing g with
  | zero => rfl
  | succ n ih =>
    rw [Function.iterate_succ_apply]
    exact ih ⟨g.state.step⟩

theorem blocks_draw (g : Generator) (n : Nat) :
    (g.draw n).value.1 = List.iterate Block.step g.state.step n := by
  induction n generalizing g with
  | zero => rfl
  | succ n ih => exact congrArg (g.state.step :: ·) (ih ⟨g.state.step⟩)

/-- The state after that many draws. -/
def stateAt (g : Generator) (draws : ℕ) : Block := (g.draw draws).value.2.state

/-- The blocks of that many draws, in order. -/
def blocks (g : Generator) (draws : ℕ) : List Block := (g.draw draws).value.1

theorem stateAt_eq (g : Generator) (n : ℕ) : g.stateAt n = Block.step^[n] g.state := state_draw g n

theorem blocks_eq (g : Generator) (n : ℕ) :
    g.blocks n = List.iterate Block.step (Block.step g.state) n := blocks_draw g n

@[simp] theorem length_blocks (g : Generator) (n : ℕ) : (g.blocks n).length = n := by
  rw [blocks_eq, List.length_iterate]

/-- The block of a draw is the state after it. -/
theorem getElem?_blocks (g : Generator) {n i : ℕ} (hi : i < n) :
    (g.blocks n)[i]? = some (g.stateAt (i + 1)) := by
  rw [blocks_eq, List.getElem?_iterate _ _ _ _ hi, stateAt_eq, Function.iterate_succ_apply]

/-- Draws after draws are the draws of the generator that the first ones lead to. -/
theorem blocks_add (g : Generator) (m n : ℕ) :
    g.blocks (m + n) = g.blocks m ++ blocks ⟨g.stateAt m⟩ n := by
  rw [blocks_eq, blocks_eq, blocks_eq, List.iterate_add, stateAt_eq,
    Function.Commute.iterate_left (Function.Commute.refl Block.step) m g.state]

end WireLedger.Generator
