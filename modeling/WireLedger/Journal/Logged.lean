import WireLedger.Journal.Event
/-!
# Values with the events of their making

`Logged α` is a value of `α` together with the events that were emitted on the way to it, in order.
One computation after another emits the events of the first, then those of the second.
-/
namespace WireLedger

/-- A value and the events emitted on the way to it, in order. -/
structure Logged (α : Type) where
  value : α
  events : List Event
deriving Repr

namespace Logged

instance : Monad Logged where
  pure a := ⟨a, []⟩
  bind x f :=
    let y := f x.value
    ⟨y.value, x.events ++ y.events⟩
  map f x := ⟨f x.value, x.events⟩

/-- Emits one event. -/
def emit (event : Event) : Logged Unit := ⟨(), [event]⟩

variable {α β : Type}

@[simp] theorem value_pure (a : α) : (pure a : Logged α).value = a := rfl

@[simp] theorem events_pure (a : α) : (pure a : Logged α).events = [] := rfl

@[simp] theorem value_bind (x : Logged α) (f : α → Logged β) :
    (x >>= f).value = (f x.value).value := rfl

@[simp] theorem events_bind (x : Logged α) (f : α → Logged β) :
    (x >>= f).events = x.events ++ (f x.value).events := rfl

@[simp] theorem value_map (f : α → β) (x : Logged α) : (f <$> x).value = f x.value := rfl

@[simp] theorem events_map (f : α → β) (x : Logged α) : (f <$> x).events = x.events := rfl

@[simp] theorem value_emit (event : Event) : (emit event).value = () := rfl

@[simp] theorem events_emit (event : Event) : (emit event).events = [event] := rfl

end Logged

end WireLedger
