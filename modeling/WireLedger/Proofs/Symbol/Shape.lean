import Mathlib.Data.List.Basic
import WireLedger.Proofs.Symbol.InPlace
/-!
# The shape of a symbol

The shape of a symbol is what its next version takes over: the width of a number, the widths of the
elements of an array, the body of a function. It tells the type.

Results:
* `setWidth_eq_ok_iff` to `setFunction_eq_ok_iff`: when an edit is carried out, and what it leaves.
* `keeps_edit`, `keeps_answerAll`: no edit and no run of requests touches the name, the version or
  the type, and from version 1 on none touches the shape.
-/
namespace WireLedger

/-- The widths of a payload, or its body. -/
inductive Shape where
  | numeric (width : Nat)
  | array (widths : List Nat)
  | function (body : Option FunctionRef)
deriving DecidableEq, Repr

/-- The type of the symbols of a shape. -/
def Shape.type : Shape → SymbolType
  | numeric _ => .numeric
  | array _ => .array
  | function _ => .function

/-- The shape of a payload, whatever its slots hold. -/
def Payload.shape : Payload → Shape
  | numeric bundle => .numeric bundle.width
  | array elements => .array (elements.map Bundle.width)
  | function body => .function body

namespace Payload

@[simp] theorem type_shape (p : Payload) : p.shape.type = p.type := by cases p <;> rfl

@[simp] theorem shape_reshaped (p : Payload) : p.reshaped.shape = p.shape := by
  cases p with
  | numeric bundle => simp [reshaped, shape]
  | array elements => simp [reshaped, shape, Function.comp_def]
  | function body => rfl

end Payload

namespace Symbol

/-- The shape of a symbol. -/
def shape (s : Symbol) : Shape := s.payload.shape

@[simp] theorem type_shape (s : Symbol) : s.shape.type = s.type := Payload.type_shape _

@[simp] theorem shape_next (s : Symbol) : s.next.shape = s.shape := Payload.shape_reshaped _

@[simp] theorem version_next (s : Symbol) : s.next.version = s.version + 1 := rfl

/-! ## When an edit is carried out -/

theorem bind_eq_ok_iff {ε α β : Type} {x : Except ε α} {f : α → Except ε β} {b : β} :
    x >>= f = .ok b ↔ ∃ a, x = .ok a ∧ f a = .ok b := by
  cases x with
  | error e => exact ⟨fun h => (nomatch h), fun ⟨_, h, _⟩ => (nomatch h)⟩
  | ok a => exact ⟨fun h => ⟨a, rfl, h⟩, fun ⟨_, h, hf⟩ => by cases h; exact hf⟩

theorem requireOpen_eq_ok_iff {s : Symbol} {u : Unit} :
    s.requireOpen = .ok u ↔ s.version = 0 := by
  unfold requireOpen
  split <;> simp_all

theorem bundle_eq_ok_iff {s : Symbol} {b : Bundle} :
    s.bundle = .ok b ↔ s.payload = .numeric b := by
  unfold bundle
  split <;> simp_all

theorem elements_eq_ok_iff {s : Symbol} {bs : List Bundle} :
    s.elements = .ok bs ↔ s.payload = .array bs := by
  unfold elements
  split <;> simp_all

theorem function_eq_ok_iff {s : Symbol} {body : Option FunctionRef} :
    s.function = .ok body ↔ s.payload = .function body := by
  unfold function
  split <;> simp_all

theorem setWidth_eq_ok_iff {s s' : Symbol} {width : Nat} :
    s.setWidth width = .ok s' ↔ s.version = 0 ∧ (∃ b, s.payload = .numeric b) ∧
      s' = s.withPayload (.numeric (.ofWidth width)) := by
  simp only [setWidth, bind_eq_ok_iff, requireOpen_eq_ok_iff, bundle_eq_ok_iff]
  constructor
  · rintro ⟨-, hv, b, hb, h⟩
    cases h
    exact ⟨hv, ⟨b, hb⟩, rfl⟩
  · rintro ⟨hv, ⟨b, hb⟩, rfl⟩
    exact ⟨(), hv, b, hb, rfl⟩

theorem bindWires_eq_ok_iff {s s' : Symbol} {wires : List WireId} :
    s.bindWires wires = .ok s' ↔ ∃ b b', s.payload = .numeric b ∧
      b.bind s.name wires = .ok b' ∧ s' = s.withPayload (.numeric b') := by
  simp only [bindWires, bind_eq_ok_iff, bundle_eq_ok_iff]
  constructor
  · rintro ⟨b, hb, b', hb', h⟩
    cases h
    exact ⟨b, b', hb, hb', rfl⟩
  · rintro ⟨b, b', hb, hb', rfl⟩
    exact ⟨b, hb, b', hb', rfl⟩

theorem pushElement_eq_ok_iff {s s' : Symbol} {width : Nat} :
    s.pushElement width = .ok s' ↔ s.version = 0 ∧
      ∃ bs, s.payload = .array bs ∧ s' = s.withPayload (.array (bs ++ [.ofWidth width])) := by
  simp only [pushElement, bind_eq_ok_iff, requireOpen_eq_ok_iff, elements_eq_ok_iff]
  constructor
  · rintro ⟨-, hv, bs, hbs, h⟩
    cases h
    exact ⟨hv, bs, hbs, rfl⟩
  · rintro ⟨hv, bs, hbs, rfl⟩
    exact ⟨(), hv, bs, hbs, rfl⟩

theorem bindElement_eq_ok_iff {s s' : Symbol} {index : Nat} {wires : List WireId} :
    s.bindElement index wires = .ok s' ↔ ∃ bs b b', s.payload = .array bs ∧
      bs[index]? = some b ∧ b.bind s.name wires = .ok b' ∧
      s' = s.withPayload (.array (bs.set index b')) := by
  simp only [bindElement, bind_eq_ok_iff, elements_eq_ok_iff]
  constructor
  · rintro ⟨bs, hbs, h⟩
    split at h
    · cases h
    · rename_i b hb
      obtain ⟨b', hb', h⟩ := bind_eq_ok_iff.1 h
      cases h
      exact ⟨bs, b, b', hbs, hb, hb', rfl⟩
  · rintro ⟨bs, b, b', hbs, hb, hb', rfl⟩
    refine ⟨bs, hbs, ?_⟩
    rw [hb]
    exact bind_eq_ok_iff.2 ⟨b', hb', rfl⟩

theorem setFunction_eq_ok_iff {s s' : Symbol} {body : FunctionRef} :
    s.setFunction body = .ok s' ↔ s.version = 0 ∧ (∃ old, s.payload = .function old) ∧
      s' = s.withPayload (.function (some body)) := by
  simp only [setFunction, bind_eq_ok_iff, requireOpen_eq_ok_iff, function_eq_ok_iff]
  constructor
  · rintro ⟨-, hv, old, ho, h⟩
    cases h
    exact ⟨hv, ⟨old, ho⟩, rfl⟩
  · rintro ⟨hv, ⟨old, ho⟩, rfl⟩
    exact ⟨(), hv, old, ho, rfl⟩

/-! ## What edits and requests keep -/

/-- `s'` has the name, the version and the type of `s` and, unless it is a first version, its
shape. -/
structure Keeps (s s' : Symbol) : Prop where
  name : s'.name = s.name
  version : s'.version = s.version
  type : s'.type = s.type
  shape : s.version ≠ 0 → s'.shape = s.shape

theorem Keeps.refl (s : Symbol) : s.Keeps s := ⟨rfl, rfl, rfl, fun _ => rfl⟩

theorem Keeps.trans {s t u : Symbol} (h : s.Keeps t) (h' : t.Keeps u) : s.Keeps u where
  name := h'.name.trans h.name
  version := h'.version.trans h.version
  type := h'.type.trans h.type
  shape hv := (h'.shape (by rw [h.version]; exact hv)).trans (h.shape hv)

/-- A new payload of the same shape is always kept, one of the same type only by version 0. -/
theorem keeps_withPayload {s : Symbol} {p : Payload} (ht : p.type = s.payload.type)
    (hs : s.version ≠ 0 → p.shape = s.payload.shape) : s.Keeps (s.withPayload p) :=
  ⟨rfl, rfl, ht, hs⟩

theorem map_set_of_getElem? {α β : Type} {f : α → β} {xs : List α} {i : Nat} {a b : α}
    (ha : xs[i]? = some a) (hf : f b = f a) : (xs.set i b).map f = xs.map f := by
  rw [List.map_set, hf]
  exact set_of_getElem? (by rw [List.getElem?_map, ha, Option.map_some])

theorem keeps_edit {s s' : Symbol} {e : Edit} (h : s.edit e = .ok s') : s.Keeps s' := by
  cases e with
  | setWidth width =>
    obtain ⟨hv, ⟨b, hb⟩, rfl⟩ := setWidth_eq_ok_iff.1 h
    exact keeps_withPayload (by rw [hb]; rfl) fun hne => absurd hv hne
  | bindWires wires =>
    obtain ⟨b, b', hb, hb', rfl⟩ := bindWires_eq_ok_iff.1 h
    have hw := Bundle.width_of_bind_eq_ok hb'
    exact keeps_withPayload (by rw [hb]; rfl) fun _ => by simp [hb, Payload.shape, hw]
  | pushElement width =>
    obtain ⟨hv, bs, hbs, rfl⟩ := pushElement_eq_ok_iff.1 h
    exact keeps_withPayload (by rw [hbs]; rfl) fun hne => absurd hv hne
  | bindElement index wires =>
    obtain ⟨bs, b, b', hbs, hb, hb', rfl⟩ := bindElement_eq_ok_iff.1 h
    have hw := map_set_of_getElem? hb (Bundle.width_of_bind_eq_ok hb')
    exact keeps_withPayload (by rw [hbs]; rfl) fun _ => by simp [hbs, Payload.shape, hw]
  | setFunction body =>
    obtain ⟨hv, ⟨old, ho⟩, rfl⟩ := setFunction_eq_ok_iff.1 h
    exact keeps_withPayload (by rw [ho]; rfl) fun hne => absurd hv hne

theorem keeps_answer (s : Symbol) (r : Request) : s.Keeps (s.answer r).1 := by
  cases r with
  | edit e =>
    rw [answer_edit]
    split
    · rename_i h
      exact keeps_edit h
    · exact .refl s
  | _ => exact .refl s

theorem keeps_answerAll (s : Symbol) : ∀ rs : List Request, s.Keeps (s.answerAll rs).1
  | [] => .refl s
  | r :: rs => (keeps_answer s r).trans (keeps_answerAll _ rs)

end Symbol

end WireLedger
