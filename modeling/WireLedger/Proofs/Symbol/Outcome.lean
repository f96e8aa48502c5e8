import WireLedger.Proofs.Symbol.Requests
/-!
# What the edits of a symbol come to

An edit is carried out exactly if none of its faults is there; if several are, the one that is
looked for first counts. An edit that is carried out changes the part that it is for and nothing
else, and no number of edits changes the name, the version or the type.

Results:
* `exists_reshape_iff`, `exists_bindWires_iff`, `exists_bindElement_iff`: when an edit is carried
  out.
* `changes_of_edit`: what it changes then.
* `edit_outcomes`: these, with the fault that any other edit is refused for and what runs of edits
  keep.
-/
namespace WireLedger.Symbol

namespace Edit

/-- The type of the symbols that an edit is for. -/
def type : Edit → SymbolType
  | setWidth _ | bindWires _ => .numeric
  | pushElement _ | bindElement _ _ => .array
  | setFunction _ => .function

/-- Whether an edit sets a shape. -/
def reshapes (e : Edit) : Bool := (Request.edit e).reshapes

/-- What an edit that is carried out makes of a payload. -/
def Changes : Edit → (before after : Payload) → Prop
  | setWidth width, _, after => after = .numeric ⟨List.replicate width none⟩
  | bindWires wires, _, after => after = .numeric ⟨wires.map some⟩
  | pushElement width, before, after => ∃ elements, before = .array elements ∧
    after = .array (elements ++ [⟨List.replicate width none⟩])
  | bindElement index wires, before, after => ∃ elements, before = .array elements ∧
    index < elements.length ∧ after = .array (elements.set index ⟨wires.map some⟩)
  | setFunction body, _, after => after = .function (some body)

theorem type?_edit (e : Edit) : (Request.edit e).type? = some e.type := by cases e <;> rfl

end Edit

variable {s s' : Symbol} {e : Edit} {index : Nat} {wires : List WireId}

theorem type_eq_numeric_iff : s.type = .numeric ↔ ∃ b, s.payload = .numeric b := by
  unfold type
  cases s.payload <;> simp [Payload.type]

theorem type_eq_array_iff : s.type = .array ↔ ∃ bs, s.payload = .array bs := by
  unfold type
  cases s.payload <;> simp [Payload.type]

theorem type_eq_function_iff : s.type = .function ↔ ∃ body, s.payload = .function body := by
  unfold type
  cases s.payload <;> simp [Payload.type]

/-! ## Edits that are carried out -/

theorem exists_reshape_iff (he : e.reshapes = true) :
    (∃ s', s.edit e = .ok s') ↔ s.version = 0 ∧ s.type = e.type := by
  cases e with
  | setWidth width => simp [edit, setWidth_eq_ok_iff, Edit.type, type_eq_numeric_iff]
  | pushElement width => simp [edit, pushElement_eq_ok_iff, Edit.type, type_eq_array_iff]
  | setFunction body => simp [edit, setFunction_eq_ok_iff, Edit.type, type_eq_function_iff]
  | bindWires wires | bindElement index wires => cases he

theorem exists_bindWires_iff : (∃ s', s.edit (.bindWires wires) = .ok s') ↔
    ∃ b, s.payload = .numeric b ∧ wires.length = b.width := by
  simp [edit, bindWires_eq_ok_iff, Bundle.bind_eq_ok_iff]

theorem exists_bindElement_iff : (∃ s', s.edit (.bindElement index wires) = .ok s') ↔
    ∃ bs b, s.payload = .array bs ∧ bs[index]? = some b ∧ wires.length = b.width := by
  simp [edit, bindElement_eq_ok_iff, Bundle.bind_eq_ok_iff]

theorem changes_of_edit (h : s.edit e = .ok s') : e.Changes s.payload s'.payload := by
  cases e with
  | setWidth width =>
    obtain ⟨-, -, rfl⟩ := setWidth_eq_ok_iff.1 h
    rfl
  | bindWires wires =>
    obtain ⟨b, b', -, hb, rfl⟩ := bindWires_eq_ok_iff.1 h
    obtain ⟨-, rfl⟩ := Bundle.bind_eq_ok_iff.1 hb
    rfl
  | pushElement width =>
    obtain ⟨-, bs, hbs, rfl⟩ := pushElement_eq_ok_iff.1 h
    exact ⟨bs, hbs, rfl⟩
  | bindElement index wires =>
    obtain ⟨bs, b, b', hbs, hi, hb, rfl⟩ := bindElement_eq_ok_iff.1 h
    obtain ⟨-, rfl⟩ := Bundle.bind_eq_ok_iff.1 hb
    exact ⟨bs, hbs, (List.getElem?_eq_some_iff.1 hi).1, rfl⟩
  | setFunction body =>
    obtain ⟨-, -, rfl⟩ := setFunction_eq_ok_iff.1 h
    rfl

/-! ## All outcomes -/

/-- When the edits of `s` are carried out, what they change, and why they are refused otherwise. -/
structure EditOutcomes (s : Symbol) : Prop where
  reshaped : ∀ e : Edit, e.reshapes = true →
    ((∃ s', s.edit e = .ok s') ↔ s.version = 0 ∧ s.type = e.type)
  wired : ∀ wires, (∃ s', s.edit (.bindWires wires) = .ok s') ↔
    ∃ b, s.payload = .numeric b ∧ wires.length = b.width
  elementWired : ∀ index wires, (∃ s', s.edit (.bindElement index wires) = .ok s') ↔
    ∃ bs b, s.payload = .array bs ∧ bs[index]? = some b ∧ wires.length = b.width
  /-- Only the first version takes a shape, whatever type it is. -/
  tooLate : ∀ e : Edit, e.reshapes = true → s.version ≠ 0 →
    s.edit e = .error (.shapeFixed s.name s.version)
  otherType : ∀ e : Edit, (e.reshapes = true → s.version = 0) → s.type ≠ e.type →
    s.edit e = .error (.kindMismatch s.name e.type s.type)
  /-- There is no such element, however many wires there are. -/
  noElement : ∀ bs index wires, s.payload = .array bs → bs.length ≤ index →
    s.edit (.bindElement index wires) = .error (.elementOutOfRange s.name index bs.length)
  otherWidth : ∀ b wires, s.payload = .numeric b → wires.length ≠ b.width →
    s.edit (.bindWires wires) = .error (.widthMismatch s.name b.width wires.length)
  otherElementWidth : ∀ bs index b wires, s.payload = .array bs → bs[index]? = some b →
    wires.length ≠ b.width →
      s.edit (.bindElement index wires) = .error (.widthMismatch s.name b.width wires.length)
  /-- The addressed part is changed, and nothing else. -/
  changed : ∀ e s', s.edit e = .ok s' →
    e.Changes s.payload s'.payload ∧ s'.name = s.name ∧ s'.version = s.version
  /-- A refused request leaves the symbol as it was. -/
  unchanged : ∀ r refusal, (s.answer r).2 = .error refusal → (s.answer r).1 = s
  /-- Runs of edits, granted or refused, keep the name, the version and the type. -/
  kept : ∀ rs, (s.answerAll rs).1.name = s.name ∧ (s.answerAll rs).1.version = s.version ∧
    (s.answerAll rs).1.type = s.type
  /-- Of a run the granted edits alone come to the same. -/
  granted : ∀ rs, (s.answerAll (granted rs (s.answerAll rs).2)).1 = (s.answerAll rs).1
  /-- An edit that is made in place comes to the same, and to nothing if it is refused. -/
  inPlace : ∀ e, (InPlace.edit e).on s = settled s (Prod.mk () <$> s.edit e)

/-- The outcome of every edit of every symbol, and what runs of edits keep. -/
theorem edit_outcomes (s : Symbol) : s.EditOutcomes where
  reshaped _ he := exists_reshape_iff he
  wired _ := exists_bindWires_iff
  elementWired _ _ := exists_bindElement_iff
  tooLate _ he hv := edit_eq_error_iff.2 (.version he hv)
  otherType e hv ht := edit_eq_error_iff.2 (.type hv e.type?_edit ht)
  noElement _ _ _ hs hi := edit_eq_error_iff.2 (.element hs (List.getElem?_eq_none hi))
  otherWidth _ _ hs hw := edit_eq_error_iff.2 (.width hs hw)
  otherElementWidth _ _ _ _ hs hi hw := edit_eq_error_iff.2 (.elementWidth hs hi hw)
  changed _ _ h := ⟨changes_of_edit h, (keeps_edit h).name, (keeps_edit h).version⟩
  unchanged _ _ h := answer_of_error h
  kept rs :=
    have h := s.keeps_answerAll rs
    ⟨h.name, h.version, h.type⟩
  granted rs := by rw [s.answerAll_granted]
  inPlace e := InPlace.on_edit e s

end WireLedger.Symbol
