/-!
# Changes in place

A change in place works on a state one write after the other, and it may be refused on the way.
Nothing is taken back then: what was written before stays written. So a change that leaves a state
as it was when it is refused makes all its checks before its first write.

Results:
* `settled_of_check`: a change with its checks first is made as a whole or refused as a whole.
* `settled_onPart`: such a change of a part is one of the whole.
-/
namespace WireLedger

/-- A change of a `σ` in place, refused for an `ε`. What it wrote before it was refused stays. -/
abbrev InPlace (ε σ α : Type) := ExceptT ε (StateM σ) α

variable {ε σ τ α γ : Type}

/-- The answer to a change of `s` that is made as a whole or refused as a whole, and what it
leaves. -/
def settled (s : σ) : Except ε (α × σ) → Except ε α × σ
  | .ok (a, t) => (.ok a, t)
  | .error e => (.error e, s)

namespace InPlace

/-- The answer to a change of `s`, or why it is refused, and what it leaves. -/
def on (change : InPlace ε σ α) (s : σ) : Except ε α × σ := change.run.run s

/-- A refusal leaves everything as it was. -/
def AllOrNothing (change : InPlace ε σ α) : Prop :=
  ∀ s e, (change.on s).1 = .error e → (change.on s).2 = s

/-- Changes a part of the state in place. What becomes of the part is put back, whether the change
is refused or not. -/
def onPart (part : τ) (put : τ → σ → σ) (change : InPlace ε τ α) : InPlace ε σ α := do
  let (answer, part) := change.on part
  modify (put part)
  answer

theorem allOrNothing_of_settled {change : InPlace ε σ α} {f : σ → Except ε (α × σ)}
    (h : ∀ s, change.on s = settled s (f s)) : change.AllOrNothing := by
  intro s e he
  rw [h] at he ⊢
  cases hf : f s with
  | error e' => rfl
  | ok result =>
    rw [hf] at he
    cases he

/-! ## Checks before writes -/

/-- A change that begins with a check of the state is settled if the rest is, once the check is
passed. -/
theorem settled_of_check {check : σ → Except ε γ} {next : σ → γ → InPlace ε σ α}
    {f : γ → Except ε (α × σ)} {s : σ}
    (h : ∀ c, check s = .ok c → (next s c).on s = settled s (f c)) :
    (get >>= fun t => liftM (check t) >>= next t : InPlace ε σ α).on s =
      settled s (check s >>= f) := by
  show (ExceptT.bindCont (next s) (check s)).run s = _
  cases hc : check s with
  | error e => rfl
  | ok c => exact h c hc

/-- A settled change of a part is a settled change of the whole, if the part was taken from where it
is put back. -/
theorem settled_onPart {part : τ} {put : τ → σ → σ} {change : InPlace ε τ Unit} {x : Except ε τ}
    {s : σ} (hput : put part s = s) (h : change.on part = settled part (Prod.mk () <$> x)) :
    (onPart part put change).on s = settled s (x >>= fun t => pure ((), put t s)) := by
  show ((change.on part).1, put (change.on part).2 s) = _
  rw [h]
  cases x with
  | error e => exact congrArg (Prod.mk _) hput
  | ok t => rfl

end InPlace

end WireLedger
