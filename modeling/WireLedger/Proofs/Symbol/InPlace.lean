import WireLedger.Symbol.Bench
/-!
# Edits in place are all or nothing

Every edit makes its checks before its first write: of the version, the type, the element, and the
number of wires. So a refused edit leaves the symbol as it was, and any other edit leaves what it
comes to.

Results:
* `Bundle.InPlace.on_bind`, `InPlace.on_edit`: binding and editing in place are settled.
* `answer_edit`: what is answered to an edit, and what it leaves.
* `Shelf.step_bind`: the same for a numbered bundle.
-/
namespace WireLedger

open InPlace

/-- To put back what is there changes nothing. -/
theorem set_of_getElem? {α : Type} {xs : List α} {i : Nat} {a : α} (h : xs[i]? = some a) :
    xs.set i a = xs := by
  obtain ⟨hi, rfl⟩ := List.getElem?_eq_some_iff.1 h
  exact List.set_getElem_self hi

/-- The wires are counted before the first slot is written. -/
theorem Bundle.InPlace.on_bind (owner : String) (wires : List WireId) (b : Bundle) :
    (Bundle.InPlace.bind owner wires).on b = settled b (Prod.mk () <$> b.bind owner wires) := by
  show (if wires.length ≠ b.width then _ else _ : InPlace SymbolError Bundle Unit).on b = _
  unfold Bundle.bind
  by_cases h : wires.length = b.width
  · rw [if_pos h, if_neg fun hne => hne h]
    rfl
  · rw [if_neg h, if_pos h]
    rfl

theorem Bundle.InPlace.allOrNothing_bind (owner : String) (wires : List WireId) :
    (Bundle.InPlace.bind owner wires).AllOrNothing :=
  allOrNothing_of_settled (Bundle.InPlace.on_bind owner wires)

namespace Symbol

variable {s : Symbol}

theorem withPayload_of_bundle {b : Bundle} (h : s.bundle = .ok b) :
    s.withPayload (.numeric b) = s := by
  unfold bundle at h
  split at h
  · rename_i hp
    cases h
    rw [← hp]
    rfl
  · cases h

theorem withPayload_of_elements {bs : List Bundle} (h : s.elements = .ok bs) :
    s.withPayload (.array bs) = s := by
  unfold elements at h
  split at h
  · rename_i hp
    cases h
    rw [← hp]
    rfl
  · cases h

namespace InPlace

/-! ## The edits one by one -/

theorem on_onBundle {change : InPlace SymbolError Bundle Unit}
    {f : Bundle → Except SymbolError Bundle}
    (h : ∀ b, change.on b = settled b (Prod.mk () <$> f b)) (s : Symbol) : (onBundle change).on s =
      settled s (s.bundle >>= fun b => f b >>= fun b => pure ((), s.withPayload (.numeric b))) :=
  settled_of_check fun b hb => settled_onPart (withPayload_of_bundle hb) (h b)

theorem on_setWidth (width : Nat) (s : Symbol) :
    (setWidth width).on s = settled s (Prod.mk () <$> s.setWidth width) := by
  have hset (b : Bundle) : (set (Bundle.ofWidth width) : InPlace SymbolError Bundle Unit).on b =
      settled b (Prod.mk () <$> .ok (.ofWidth width)) := rfl
  simp only [Symbol.setWidth, map_bind, map_pure]
  exact settled_of_check fun _ _ => on_onBundle hset s

theorem on_bindWires (wires : List WireId) (s : Symbol) :
    (bindWires wires).on s = settled s (Prod.mk () <$> s.bindWires wires) := by
  simp only [Symbol.bindWires, map_bind, map_pure]
  exact on_onBundle (Bundle.InPlace.on_bind s.name wires) s

theorem on_pushElement (width : Nat) (s : Symbol) :
    (pushElement width).on s = settled s (Prod.mk () <$> s.pushElement width) := by
  simp only [Symbol.pushElement, map_bind, map_pure]
  exact settled_of_check fun _ _ => settled_of_check fun _ _ => rfl

theorem on_bindElement (index : Nat) (wires : List WireId) (s : Symbol) :
    (bindElement index wires).on s = settled s (Prod.mk () <$> s.bindElement index wires) := by
  simp only [Symbol.bindElement, map_bind]
  refine settled_of_check fun elements hs => ?_
  cases hi : elements[index]? with
  | none => rfl
  | some element =>
    simp only [map_bind, map_pure]
    refine settled_onPart ?_ (Bundle.InPlace.on_bind s.name wires element)
    rw [set_of_getElem? hi, withPayload_of_elements hs]

theorem on_setFunction (body : FunctionRef) (s : Symbol) :
    (setFunction body).on s = settled s (Prod.mk () <$> s.setFunction body) := by
  simp only [Symbol.setFunction, map_bind, map_pure]
  exact settled_of_check fun _ _ => settled_of_check fun _ _ => rfl

/-! ## Any edit -/

/-- An edit in place leaves what it comes to, or the symbol as it was if it is refused. -/
theorem on_edit (e : Edit) (s : Symbol) :
    (edit e).on s = settled s (Prod.mk () <$> s.edit e) := by
  cases e with
  | setWidth width => exact on_setWidth width s
  | bindWires wires => exact on_bindWires wires s
  | pushElement width => exact on_pushElement width s
  | bindElement index wires => exact on_bindElement index wires s
  | setFunction body => exact on_setFunction body s

theorem allOrNothing_edit (e : Edit) : (edit e).AllOrNothing := allOrNothing_of_settled (on_edit e)

end InPlace

theorem answer_edit (s : Symbol) (e : Edit) : s.answer (.edit e) =
    match s.edit e with
    | .ok edited => (edited, .ok (.symbol edited))
    | .error refusal => (s, .error refusal) := by
  simp only [answer, InPlace.on_edit]
  cases s.edit e <;> rfl

end Symbol

theorem Shelf.step_bind (shelf : Shelf) (register : Nat) (owner : String) (wires : List WireId) :
    shelf.step (.bind register owner wires) =
      match shelf.bundles[register]? with
      | none => (shelf, .absent)
      | some b =>
        match b.bind owner wires with
        | .ok bound => (⟨shelf.bundles.set register bound⟩, .bundle bound)
        | .error refusal => (shelf, .refused refusal) := by
  cases hb : shelf.bundles[register]? with
  | none => simp only [step, hb]
  | some b =>
    simp only [step, hb, Bundle.InPlace.on_bind]
    cases b.bind owner wires with
    | ok bound => rfl
    | error refusal =>
      show (Shelf.mk (shelf.bundles.set register b), _) = _
      rw [set_of_getElem? hb]
      rfl

end WireLedger
