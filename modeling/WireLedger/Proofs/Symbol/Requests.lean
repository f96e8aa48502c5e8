import WireLedger.Proofs.Symbol.Shape
/-!
# Which requests a symbol declines

A request is declined for its version, its type, its element or its number of wires, in this order,
and a declined request leaves the symbol as it was. So of any requests only those that were granted
count for the symbol that comes out.

Results:
* `answer_eq_error_iff`: the faults are exactly those of `Declines`.
* `answer_of_error`: a declined request changes nothing.
* `answerAll_granted`: the granted requests alone lead to the same symbol and are granted again.
-/
namespace WireLedger.Symbol

/-- The type of the symbols that a request is for, where it is not for all of them. -/
def Request.type? : Request → Option SymbolType
  | .edit (.setWidth _) | .edit (.bindWires _) | .bundle => some .numeric
  | .edit (.pushElement _) | .edit (.bindElement _ _) | .elements => some .array
  | .edit (.setFunction _) | .function => some .function
  | .totalWidth | .whole => none

/-- Whether a request sets a shape. -/
def Request.reshapes : Request → Bool
  | .edit (.setWidth _) | .edit (.pushElement _) | .edit (.setFunction _) => true
  | _ => false

/-- Why a symbol declines a request; a fault counts only where those before it are absent. -/
inductive Declines (s : Symbol) : Request → SymbolError → Prop
  /-- Only version 0 takes a shape. -/
  | version {r : Request} (hr : r.reshapes = true) (hv : s.version ≠ 0) :
    s.Declines r (.shapeFixed s.name s.version)
  /-- The request is for symbols of another type. -/
  | type {r : Request} {ty : SymbolType} (hv : r.reshapes = true → s.version = 0)
    (hr : r.type? = some ty) (ht : s.type ≠ ty) : s.Declines r (.kindMismatch s.name ty s.type)
  /-- There is no such element. -/
  | element {elements : List Bundle} {index : Nat} {wires : List WireId}
    (hs : s.payload = .array elements) (hi : elements[index]? = none) :
    s.Declines (.edit (.bindElement index wires))
      (.elementOutOfRange s.name index elements.length)
  /-- The bundle has another number of slots. -/
  | width {bundle : Bundle} {wires : List WireId} (hs : s.payload = .numeric bundle)
    (hw : wires.length ≠ bundle.width) :
    s.Declines (.edit (.bindWires wires)) (.widthMismatch s.name bundle.width wires.length)
  /-- The element has another number of slots. -/
  | elementWidth {elements : List Bundle} {index : Nat} {bundle : Bundle} {wires : List WireId}
    (hs : s.payload = .array elements) (hi : elements[index]? = some bundle)
    (hw : wires.length ≠ bundle.width) :
    s.Declines (.edit (.bindElement index wires))
      (.widthMismatch s.name bundle.width wires.length)

/-! ## When a part of an edit is refused -/

variable {s : Symbol} {r : Request} {e : SymbolError}

theorem bind_eq_error_iff {ε α β : Type} {x : Except ε α} {f : α → Except ε β} {e : ε} :
    x >>= f = .error e ↔ x = .error e ∨ ∃ a, x = .ok a ∧ f a = .error e := by
  cases x with
  | error e' =>
    show Except.error e' = _ ↔ _
    simp
  | ok a =>
    show f a = _ ↔ _
    simp

theorem pure_ne_error {ε α : Type} {a : α} {e : ε} : (pure a : Except ε α) ≠ .error e := by
  rintro ⟨⟩

theorem bind_eq_error_iff_of_total {ε α β : Type} {x : Except ε α} {f : α → Except ε β} {e : ε}
    (hf : ∀ a, f a ≠ .error e) : x >>= f = .error e ↔ x = .error e := by
  rw [bind_eq_error_iff]
  exact ⟨fun h => h.resolve_right fun ⟨a, _, ha⟩ => hf a ha, .inl⟩

theorem requireOpen_eq_error_iff :
    s.requireOpen = .error e ↔ s.version ≠ 0 ∧ e = .shapeFixed s.name s.version := by
  unfold requireOpen
  split <;> simp_all [eq_comm]

theorem bundle_eq_error_iff :
    s.bundle = .error e ↔ s.type ≠ .numeric ∧ e = .kindMismatch s.name .numeric s.type := by
  unfold bundle mismatch type
  cases s.payload <;> simp [Payload.type, eq_comm]

theorem elements_eq_error_iff :
    s.elements = .error e ↔ s.type ≠ .array ∧ e = .kindMismatch s.name .array s.type := by
  unfold elements mismatch type
  cases s.payload <;> simp [Payload.type, eq_comm]

theorem function_eq_error_iff :
    s.function = .error e ↔ s.type ≠ .function ∧ e = .kindMismatch s.name .function s.type := by
  unfold function mismatch type
  cases s.payload <;> simp [Payload.type, eq_comm]

theorem bundleBind_eq_error_iff {b : Bundle} {owner : String} {wires : List WireId} :
    b.bind owner wires = .error e ↔
      wires.length ≠ b.width ∧ e = .widthMismatch owner b.width wires.length := by
  unfold Bundle.bind
  split <;> simp_all [eq_comm]

/-! ## Declined requests -/

/-- An edit that sets a shape looks at the version, then at the type. -/
theorem reshape_eq_error_iff {α : Type} {part : Except SymbolError α} {f : α → Symbol}
    {ty : SymbolType} (hr : r.reshapes = true) (hty : r.type? = some ty)
    (hpart : part = .error e ↔ s.type ≠ ty ∧ e = .kindMismatch s.name ty s.type) :
    (do s.requireOpen; return f (← part)) = .error e ↔ s.Declines r e := by
  rw [bind_eq_error_iff, requireOpen_eq_error_iff]
  constructor
  · rintro (⟨hv, rfl⟩ | ⟨_, hopen, h⟩)
    · exact .version hr hv
    · rcases bind_eq_error_iff.1 h with h | ⟨_, -, h⟩
      · obtain ⟨ht, rfl⟩ := hpart.1 h
        exact .type (fun _ => requireOpen_eq_ok_iff.1 hopen) hty ht
      · cases h
  · intro h
    cases h with
    | version _ hv => exact .inl ⟨hv, rfl⟩
    | type hv hty' ht =>
      cases hty.symm.trans hty'
      have hopen : s.requireOpen = .ok () := requireOpen_eq_ok_iff.2 (hv hr)
      exact .inr ⟨(), hopen, bind_eq_error_iff.2 (.inl (hpart.2 ⟨ht, rfl⟩))⟩
    | element | width | elementWidth => cases hr

theorem bindWires_eq_error_iff {wires : List WireId} :
    s.bindWires wires = .error e ↔ s.Declines (.edit (.bindWires wires)) e := by
  unfold bindWires
  rw [bind_eq_error_iff, bundle_eq_error_iff]
  constructor
  · rintro (⟨ht, rfl⟩ | ⟨bundle, hb, h⟩)
    · exact .type nofun rfl ht
    · rcases bind_eq_error_iff.1 h with h | ⟨_, -, h⟩
      · obtain ⟨hw, rfl⟩ := bundleBind_eq_error_iff.1 h
        exact .width (bundle_eq_ok_iff.1 hb) hw
      · cases h
  · intro h
    cases h with
    | version hr => cases hr
    | type _ hty ht =>
      cases hty
      exact .inl ⟨ht, rfl⟩
    | width hs hw =>
      refine .inr ⟨_, bundle_eq_ok_iff.2 hs, bind_eq_error_iff.2 (.inl ?_)⟩
      exact bundleBind_eq_error_iff.2 ⟨hw, rfl⟩

theorem bindElement_eq_error_iff {index : Nat} {wires : List WireId} :
    s.bindElement index wires = .error e ↔ s.Declines (.edit (.bindElement index wires)) e := by
  unfold bindElement
  rw [bind_eq_error_iff, elements_eq_error_iff]
  constructor
  · rintro (⟨ht, rfl⟩ | ⟨elements, hs, h⟩)
    · exact .type nofun rfl ht
    · have hs := elements_eq_ok_iff.1 hs
      split at h
      · rename_i hi
        cases h
        exact .element hs hi
      · rename_i bundle hi
        rcases bind_eq_error_iff.1 h with h | ⟨_, -, h⟩
        · obtain ⟨hw, rfl⟩ := bundleBind_eq_error_iff.1 h
          exact .elementWidth hs hi hw
        · cases h
  · intro h
    cases h with
    | version hr => cases hr
    | type _ hty ht =>
      cases hty
      exact .inl ⟨ht, rfl⟩
    | element hs hi =>
      refine .inr ⟨_, elements_eq_ok_iff.2 hs, ?_⟩
      rw [hi]
    | elementWidth hs hi hw =>
      refine .inr ⟨_, elements_eq_ok_iff.2 hs, ?_⟩
      rw [hi]
      exact bind_eq_error_iff.2 (.inl (bundleBind_eq_error_iff.2 ⟨hw, rfl⟩))

theorem edit_eq_error_iff {edit : Edit} :
    s.edit edit = .error e ↔ s.Declines (.edit edit) e := by
  cases edit with
  | setWidth width => exact reshape_eq_error_iff rfl rfl bundle_eq_error_iff
  | bindWires wires => exact bindWires_eq_error_iff
  | pushElement width => exact reshape_eq_error_iff rfl rfl elements_eq_error_iff
  | bindElement index wires => exact bindElement_eq_error_iff
  | setFunction body => exact reshape_eq_error_iff rfl rfl function_eq_error_iff

/-- A look at a part is refused to symbols of another type only. -/
theorem look_eq_error_iff {α : Type} {part : Except SymbolError α} {view : α → Reply}
    {ty : SymbolType} (hlook : ∀ edit, r ≠ .edit edit) (hty : r.type? = some ty)
    (hpart : part = .error e ↔ s.type ≠ ty ∧ e = .kindMismatch s.name ty s.type) :
    part.map view = .error e ↔ s.Declines r e := by
  have hmap : part.map view = .error e ↔ part = .error e := by
    cases part <;> simp [Except.map]
  have hfree : r.reshapes = false := by
    cases r with
    | edit edit => exact absurd rfl (hlook edit)
    | _ => rfl
  rw [hmap, hpart]
  constructor
  · rintro ⟨ht, rfl⟩
    exact .type (fun hr => by rw [hfree] at hr; cases hr) hty ht
  · intro h
    cases h with
    | version hr => rw [hfree] at hr; cases hr
    | type _ hty' ht =>
      cases hty.symm.trans hty'
      exact ⟨ht, rfl⟩
    | element | width | elementWidth => exact absurd rfl (hlook _)

/-- The symbol declines a request exactly for one of the faults. -/
theorem answer_eq_error_iff : (s.answer r).2 = .error e ↔ s.Declines r e := by
  cases r with
  | edit edit =>
    rw [← edit_eq_error_iff, answer_edit]
    split <;> simp_all
  | bundle => exact look_eq_error_iff (by simp) rfl bundle_eq_error_iff
  | elements => exact look_eq_error_iff (by simp) rfl elements_eq_error_iff
  | function => exact look_eq_error_iff (by simp) rfl function_eq_error_iff
  | totalWidth | whole =>
    constructor
    · intro h
      cases h
    · intro h
      cases h with
      | version hr => cases hr
      | type _ hty => cases hty

/-- A declined request leaves the symbol as it was. -/
theorem answer_of_error (h : (s.answer r).2 = .error e) : (s.answer r).1 = s := by
  cases r with
  | edit edit =>
    rw [answer_edit] at h ⊢
    split at h
    · cases h
    · rfl
  | _ => rfl

/-! ## Granted requests -/

theorem length_answerAll (s : Symbol) (rs : List Request) :
    (s.answerAll rs).2.length = rs.length := by
  induction rs generalizing s with
  | nil => rfl
  | cons r rs ih => exact congrArg (· + 1) (ih (s.answer r).1)

/-- The requests whose replies are not refusals. -/
def granted (rs : List Request) (replies : List (Except SymbolError Reply)) : List Request :=
  ((rs.zip replies).filter fun p => p.2.isOk).map Prod.fst

@[simp] theorem granted_cons_ok (r : Request) (rs : List Request) (reply : Reply)
    (replies : List (Except SymbolError Reply)) :
    granted (r :: rs) (.ok reply :: replies) = r :: granted rs replies := rfl

@[simp] theorem granted_cons_error (r : Request) (rs : List Request) (e : SymbolError)
    (replies : List (Except SymbolError Reply)) :
    granted (r :: rs) (.error e :: replies) = granted rs replies := rfl

/-- The granted requests alone lead to the same symbol, and all of them are granted again. -/
theorem answerAll_granted (s : Symbol) (rs : List Request) :
    s.answerAll (granted rs (s.answerAll rs).2) =
      ((s.answerAll rs).1, (s.answerAll rs).2.filter Except.isOk) := by
  induction rs generalizing s with
  | nil => rfl
  | cons r rs ih =>
    have hrest := ih (s.answer r).1
    cases hr : (s.answer r).2 with
    | ok reply =>
      simp only [answerAll, hr, granted_cons_ok, hrest]
      rfl
    | error e =>
      rw [answer_of_error hr] at hrest
      simp only [answerAll, hr, granted_cons_error, answer_of_error hr, hrest]
      rfl

/-- Each request is answered by the symbol that those before it leave. -/
theorem getElem?_answerAll (s : Symbol) (rs : List Request) (k : Nat) :
    (s.answerAll rs).2[k]? = rs[k]?.map fun r => ((s.answerAll (rs.take k)).1.answer r).2 := by
  induction rs generalizing s k with
  | nil => rfl
  | cons r rs ih =>
    cases k with
    | zero => rfl
    | succ k => exact ih (s.answer r).1 k

/-- Requests made in two parts leave the same symbol. -/
theorem answerAll_append (s : Symbol) (rs rs' : List Request) :
    (s.answerAll (rs ++ rs')).1 = ((s.answerAll rs).1.answerAll rs').1 := by
  induction rs generalizing s with
  | nil => rfl
  | cons r rs ih => exact ih (s.answer r).1

/-- A declined request leaves what those before it left. -/
theorem answerAll_take_succ {rs : List Request} {k : Nat}
    (h : (s.answerAll rs).2[k]? = some (.error e)) :
    (s.answerAll (rs.take (k + 1))).1 = (s.answerAll (rs.take k)).1 := by
  rw [getElem?_answerAll] at h
  obtain ⟨r, hr, he⟩ := Option.map_eq_some_iff.1 h
  rw [List.take_add_one, hr, Option.toList_some, answerAll_append]
  exact answer_of_error he

/-- Requests that are all declined leave the symbol as it was. -/
theorem answerAll_of_declined {rs : List Request}
    (h : ∀ reply ∈ (s.answerAll rs).2, reply.isOk = false) : (s.answerAll rs).1 = s := by
  have hnone : granted rs (s.answerAll rs).2 = [] := by
    unfold granted
    rw [List.map_eq_nil_iff, List.filter_eq_nil_iff]
    intro p hp
    rw [h p.2 (List.of_mem_zip hp).2]
    exact Bool.false_ne_true
  have hsame := answerAll_granted s rs
  rw [hnone] at hsame
  exact (congrArg Prod.fst hsame).symm

end WireLedger.Symbol
