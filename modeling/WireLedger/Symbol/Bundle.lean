import WireLedger.InPlace
import WireLedger.Symbol.Error
/-!
# Bundles of wires

A bundle has a fixed number of slots, which stay empty until wires are bound to all of them at once.
Any number may be a width: allocation limits are left out.

Results:
* `width_ofWidth`, `width_reshaped`, `width_of_bind_eq_ok`: only creating a bundle sets its width.
* `fill_of_length_eq`: with as many wires as slots, filling leaves the wires and nothing else.
* `bind_eq_ok_iff`: binding succeeds exactly with as many wires as there are slots, and then fills
  them in order.
-/
namespace WireLedger

/-- A wire of the circuit (`WireId`). -/
structure WireId where
  index : UInt32
deriving DecidableEq, Repr

/-- A group of wires that carries one value of several bits (`Bundle`). -/
structure Bundle where
  slots : List (Option WireId)
deriving DecidableEq, Repr

namespace Bundle

/-- The bundle of `width` empty slots (`new`). Any width will do: allocation limits are not
modelled. -/
def ofWidth (width : Nat) : Bundle := ⟨List.replicate width none⟩

/-- The bundle without slots (`default`). -/
def empty : Bundle := ⟨[]⟩

/-- The number of slots (`width`). -/
def width (b : Bundle) : Nat := b.slots.length

/-- An empty bundle of the same width (`reshaped`). -/
def reshaped (b : Bundle) : Bundle := ofWidth b.width

/-- Whether every slot holds a wire (`is_bound`). -/
def isBound (b : Bundle) : Bool := b.slots.all Option.isSome

/-- Puts wires into slots in order, as long as there are both: the loop of `bind_wires`. -/
def fill : List (Option WireId) → List WireId → List (Option WireId)
  | _ :: slots, wire :: wires => some wire :: fill slots wires
  | slots, _ => slots

/-- The bundle with every slot bound at once (`bind_wires`); `owner` is the symbol that a refusal
names. -/
def bind (b : Bundle) (owner : String) (wires : List WireId) : Except SymbolError Bundle :=
  if wires.length = b.width then .ok ⟨fill b.slots wires⟩
  else .error (.widthMismatch owner b.width wires.length)

/-- Binds every slot in place (`bind_wires`). The wires are counted before the first slot is
written. -/
def InPlace.bind (owner : String) (wires : List WireId) : InPlace SymbolError Bundle Unit := do
  let width := (← get).width
  if wires.length ≠ width then
    throw (.widthMismatch owner width wires.length)
  modify fun b => ⟨fill b.slots wires⟩

@[simp] theorem width_ofWidth (n : Nat) : (ofWidth n).width = n := by simp [ofWidth, width]

@[simp] theorem width_reshaped (b : Bundle) : b.reshaped.width = b.width := by simp [reshaped]

theorem fill_of_length_eq {slots : List (Option WireId)} {wires : List WireId}
    (h : wires.length = slots.length) : fill slots wires = wires.map some := by
  induction wires generalizing slots with
  | nil =>
    rw [List.eq_nil_of_length_eq_zero h.symm]
    rfl
  | cons wire wires ih =>
    cases slots with
    | nil => cases h
    | cons slot slots => exact congrArg (some wire :: ·) (ih (Nat.succ.inj h))

/-- The slots hold the wires then, whatever they held before. -/
theorem bind_eq (b : Bundle) (owner : String) (wires : List WireId) : b.bind owner wires =
    if wires.length = b.width then .ok ⟨wires.map some⟩
    else .error (.widthMismatch owner b.width wires.length) := by
  unfold bind
  split
  · rename_i h
    rw [fill_of_length_eq h]
  · rfl

theorem bind_eq_ok_iff {b b' : Bundle} {owner : String} {wires : List WireId} :
    b.bind owner wires = .ok b' ↔ wires.length = b.width ∧ b' = ⟨wires.map some⟩ := by
  rw [bind_eq]
  split <;> simp_all [eq_comm]

theorem width_of_bind_eq_ok {b b' : Bundle} {owner : String} {wires : List WireId}
    (h : b.bind owner wires = .ok b') : b'.width = b.width := by
  obtain ⟨hw, rfl⟩ := bind_eq_ok_iff.1 h
  simpa [width] using hw

end Bundle

end WireLedger
