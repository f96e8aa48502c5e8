import WireLedger.Proofs.Symbol.Shape
/-!
# Symbols with other wires

A rewiring puts another wire in the place of each, in slots and in requests, or it leaves every slot
empty and every request out that would bind wires. Edits look at widths and never at wires, so to
rewire first and to answer then is the same as to answer first and to rewire then. The next version
of a symbol has only its shape, which no rewiring touches.

Results:
* `rewire_next`, `next_rewire`: the next version holds no wire and depends on none.
* `edit_rewire`, `rewire_of_edit`: what becomes of edits.
* `answerAll_rewire`: what becomes of answers.
* `sameButWires_of_rewire`: symbols that are equal with one wire in the place of all.
-/
namespace WireLedger

/-- What becomes of wires. -/
inductive Rewiring where
  /-- Another wire stands in the place of each. -/
  | rename (f : WireId → WireId)
  /-- No wire is ever bound. -/
  | strip

namespace Rewiring

/-- One and the same wire stands in the place of all. -/
def blank : Rewiring := rename fun _ => ⟨0⟩

/-- What a slot holds then. -/
def slot : Rewiring → Option WireId → Option WireId
  | rename f, wire => wire.map f
  | strip, _ => none

/-- The wires to bind then, unless none is bound. -/
def wires? : Rewiring → List WireId → Option (List WireId)
  | rename f, wires => some (wires.map f)
  | strip, _ => none

@[simp] theorem slot_none (w : Rewiring) : w.slot none = none := by cases w <;> rfl

end Rewiring

variable {w : Rewiring}

/-! ## Bundles and payloads -/

namespace Bundle

/-- The bundle with other wires. -/
def rewire (w : Rewiring) (b : Bundle) : Bundle := ⟨b.slots.map w.slot⟩

@[simp] theorem width_rewire (b : Bundle) : (b.rewire w).width = b.width := List.length_map _

@[simp] theorem rewire_ofWidth (width : Nat) : (ofWidth width).rewire w = ofWidth width := by
  simp [rewire, ofWidth]

@[simp] theorem rewire_reshaped (b : Bundle) : b.reshaped.rewire w = b.reshaped :=
  rewire_ofWidth b.width

theorem rewire_strip (b : Bundle) : b.rewire .strip = b.reshaped :=
  congrArg mk List.map_const

theorem bind_rename (b : Bundle) (owner : String) (wires : List WireId) (f : WireId → WireId) :
    (b.rewire (.rename f)).bind owner (wires.map f) =
      rewire (.rename f) <$> b.bind owner wires := by
  rw [bind_eq, bind_eq, width_rewire, List.length_map]
  split
  · show _ = Except.ok (rewire (.rename f) ⟨wires.map some⟩)
    simp only [rewire, List.map_map]
    rfl
  · rfl

end Bundle

namespace Payload

/-- The payload with other wires. -/
def rewire (w : Rewiring) : Payload → Payload
  | numeric bundle => numeric (bundle.rewire w)
  | array elements => array (elements.map (Bundle.rewire w))
  | function body => function body

@[simp] theorem shape_rewire (p : Payload) : (p.rewire w).shape = p.shape := by
  cases p with
  | numeric bundle => simp [rewire, shape]
  | array elements => simp [rewire, shape, Function.comp_def]
  | function body => rfl

@[simp] theorem rewire_empty (ty : SymbolType) : (empty ty).rewire w = empty ty := by
  cases ty <;> rfl

/-- The widths alone make the payload of the next version. -/
theorem reshaped_eq_of_shape {p q : Payload} (h : p.shape = q.shape) : p.reshaped = q.reshaped := by
  have hwidths (bundles : List Bundle) :
      bundles.map Bundle.reshaped = (bundles.map Bundle.width).map Bundle.ofWidth := by
    rw [List.map_map]
    rfl
  cases p <;> cases q <;> simp only [shape, Shape.numeric.injEq, Shape.array.injEq,
    Shape.function.injEq, reduceCtorEq] at h
  · simp only [reshaped, Bundle.reshaped, h]
  · simp only [reshaped, hwidths, h]
  · rw [h]

theorem rewire_strip (p : Payload) : p.rewire .strip = p.reshaped := by
  cases p with
  | numeric bundle => exact congrArg numeric bundle.rewire_strip
  | array elements => exact congrArg array (List.map_congr_left fun b _ => b.rewire_strip)
  | function body => rfl

@[simp] theorem rewire_reshaped (p : Payload) : p.reshaped.rewire w = p.reshaped := by
  cases p with
  | numeric bundle => simp [reshaped, rewire]
  | array elements => simp [reshaped, rewire, Function.comp_def]
  | function body => rfl

end Payload

namespace Symbol

/-! ## Symbols -/

variable {s s' : Symbol}

/-- The symbol with other wires. -/
def rewire (w : Rewiring) (s : Symbol) : Symbol := s.withPayload (s.payload.rewire w)

@[simp] theorem name_rewire (s : Symbol) : (s.rewire w).name = s.name := rfl

@[simp] theorem version_rewire (s : Symbol) : (s.rewire w).version = s.version := rfl

@[simp] theorem shape_rewire (s : Symbol) : (s.rewire w).shape = s.shape := Payload.shape_rewire _

@[simp] theorem type_rewire (s : Symbol) : (s.rewire w).type = s.type := by
  rw [← type_shape, shape_rewire, type_shape]

@[simp] theorem rewire_declare (name : String) (ty : SymbolType) :
    (declare name ty).rewire w = declare name ty :=
  congrArg (mk name 0) (Payload.rewire_empty ty)

/-- Name, version and shape alone make the next version. -/
theorem next_eq_of_shape (hname : s.name = s'.name) (hversion : s.version = s'.version)
    (hshape : s.shape = s'.shape) : s.next = s'.next := by
  unfold next
  rw [hname, hversion, Payload.reshaped_eq_of_shape hshape]

@[simp] theorem next_rewire (s : Symbol) : (s.rewire w).next = s.next :=
  next_eq_of_shape rfl rfl s.shape_rewire

@[simp] theorem rewire_next (s : Symbol) : s.next.rewire w = s.next :=
  congrArg (mk s.name (s.version + 1)) (Payload.rewire_reshaped _)

/-- Without its wires a symbol is made of its name, its version and its shape. -/
theorem rewire_strip_eq_of_shape (hname : s.name = s'.name) (hversion : s.version = s'.version)
    (hshape : s.shape = s'.shape) : s.rewire .strip = s'.rewire .strip := by
  unfold rewire withPayload
  rw [Payload.rewire_strip, Payload.rewire_strip, hname, hversion,
    Payload.reshaped_eq_of_shape hshape]

theorem totalWidth_rewire (s : Symbol) : (s.rewire w).totalWidth = s.totalWidth := by
  unfold totalWidth rewire withPayload
  cases s.payload with
  | numeric bundle => exact bundle.width_rewire
  | array elements => simp only [Payload.rewire, List.foldl_map, Bundle.width_rewire]
  | function body => rfl

theorem requireOpen_rewire (s : Symbol) : (s.rewire w).requireOpen = s.requireOpen := rfl

theorem mismatch_rewire (s : Symbol) (expected : SymbolType) :
    (s.rewire w).mismatch expected = s.mismatch expected := by
  unfold mismatch
  rw [type_rewire, name_rewire]

theorem bundle_rewire (s : Symbol) : (s.rewire w).bundle = Bundle.rewire w <$> s.bundle := by
  have hmismatch := s.mismatch_rewire (w := w) .numeric
  unfold bundle
  cases hp : s.payload <;> simp only [rewire, withPayload, hp, Payload.rewire] at hmismatch ⊢
  · rfl
  · exact congrArg Except.error hmismatch
  · exact congrArg Except.error hmismatch

theorem elements_rewire (s : Symbol) :
    (s.rewire w).elements = List.map (Bundle.rewire w) <$> s.elements := by
  have hmismatch := s.mismatch_rewire (w := w) .array
  unfold elements
  cases hp : s.payload <;> simp only [rewire, withPayload, hp, Payload.rewire] at hmismatch ⊢
  · exact congrArg Except.error hmismatch
  · rfl
  · exact congrArg Except.error hmismatch

theorem function_rewire (s : Symbol) : (s.rewire w).function = s.function := by
  have hmismatch := s.mismatch_rewire (w := w) .function
  unfold function
  cases hp : s.payload <;> simp only [rewire, withPayload, hp, Payload.rewire] at hmismatch ⊢
  · exact congrArg Except.error hmismatch
  · exact congrArg Except.error hmismatch

/-! ## Edits -/

/-- The edit with other wires, unless it is left out. -/
def Edit.rewire? (w : Rewiring) : Edit → Option Edit
  | bindWires wires => (w.wires? wires).map bindWires
  | bindElement index wires => (w.wires? wires).map (bindElement index)
  | edit => some edit

theorem rewire_withPayload (s : Symbol) (p : Payload) :
    (s.withPayload p).rewire w = (s.rewire w).withPayload (p.rewire w) := rfl

theorem setWidth_rewire (s : Symbol) (width : Nat) :
    (s.rewire w).setWidth width = rewire w <$> s.setWidth width := by
  simp only [setWidth, requireOpen_rewire, bundle_rewire, bind_map_left, map_bind, map_pure,
    rewire_withPayload, Payload.rewire, Bundle.rewire_ofWidth]

theorem pushElement_rewire (s : Symbol) (width : Nat) :
    (s.rewire w).pushElement width = rewire w <$> s.pushElement width := by
  simp only [pushElement, requireOpen_rewire, elements_rewire, bind_map_left, map_bind, map_pure,
    rewire_withPayload, Payload.rewire, List.map_append, List.map_singleton, Bundle.rewire_ofWidth]

theorem setFunction_rewire (s : Symbol) (body : FunctionRef) :
    (s.rewire w).setFunction body = rewire w <$> s.setFunction body := by
  simp only [setFunction, requireOpen_rewire, function_rewire, map_bind, map_pure,
    rewire_withPayload, Payload.rewire]

theorem bindWires_rename (s : Symbol) (wires : List WireId) (f : WireId → WireId) :
    (s.rewire (.rename f)).bindWires (wires.map f) = rewire (.rename f) <$> s.bindWires wires := by
  simp only [bindWires, bundle_rewire, bind_map_left, map_bind, map_pure, name_rewire,
    Bundle.bind_rename, rewire_withPayload, Payload.rewire]

theorem bindElement_rename (s : Symbol) (index : Nat) (wires : List WireId) (f : WireId → WireId) :
    (s.rewire (.rename f)).bindElement index (wires.map f) =
      rewire (.rename f) <$> s.bindElement index wires := by
  simp only [bindElement, elements_rewire, bind_map_left, map_bind]
  congr 1
  funext elements
  rw [List.getElem?_map, List.length_map]
  cases elements[index]? with
  | none => rfl
  | some element =>
    simp only [Option.map_some, name_rewire, Bundle.bind_rename, bind_map_left, map_bind, map_pure,
      rewire_withPayload, Payload.rewire, List.map_set]

/-- An edit of the rewired symbol is the rewired edit. -/
theorem edit_rewire {edit edit' : Edit} (h : edit.rewire? w = some edit') (s : Symbol) :
    (s.rewire w).edit edit' = rewire w <$> s.edit edit := by
  cases edit with
  | setWidth width =>
    cases h
    exact s.setWidth_rewire width
  | bindWires wires =>
    cases w with
    | strip => cases h
    | rename f =>
      cases h
      exact s.bindWires_rename wires f
  | pushElement width =>
    cases h
    exact s.pushElement_rewire width
  | bindElement index wires =>
    cases w with
    | strip => cases h
    | rename f =>
      cases h
      exact s.bindElement_rename index wires f
  | setFunction body =>
    cases h
    exact s.setFunction_rewire body

/-- An edit that is left out does nothing to the rewired symbol. -/
theorem rewire_of_edit {edit : Edit} (h : edit.rewire? w = none) (hs : s.edit edit = .ok s') :
    s'.rewire w = s.rewire w := by
  cases edit with
  | setWidth | pushElement | setFunction => cases h
  | bindWires wires =>
    cases w with
    | rename f => cases h
    | strip =>
      obtain ⟨b, b', hb, hb', rfl⟩ := bindWires_eq_ok_iff.1 hs
      refine rewire_strip_eq_of_shape rfl rfl ?_
      rw [shape, shape, hb]
      exact congrArg Shape.numeric (Bundle.width_of_bind_eq_ok hb')
  | bindElement index wires =>
    cases w with
    | rename f => cases h
    | strip =>
      obtain ⟨bs, b, b', hbs, hb, hb', rfl⟩ := bindElement_eq_ok_iff.1 hs
      refine rewire_strip_eq_of_shape rfl rfl ?_
      rw [shape, shape, hbs]
      exact congrArg Shape.array (map_set_of_getElem? hb (Bundle.width_of_bind_eq_ok hb'))

/-! ## Requests -/

/-- The request with other wires, unless it is left out. -/
def Request.rewire? (w : Rewiring) : Request → Option Request
  | .edit e => (e.rewire? w).map .edit
  | r => some r

/-- The reply with other wires. -/
def Reply.rewire (w : Rewiring) : Reply → Reply
  | .symbol s => .symbol (s.rewire w)
  | .bundle b => .bundle (b.rewire w)
  | .elements bs => .elements (bs.map (Bundle.rewire w))
  | reply => reply

theorem Request.rewire?_rename (f : WireId → WireId) (r : Request) :
    ∃ r', r.rewire? (.rename f) = some r' := by
  cases r with
  | edit edit => cases edit <;> exact ⟨_, rfl⟩
  | _ => exact ⟨_, rfl⟩

theorem answer_rewire {r r' : Request} (h : r.rewire? w = some r') (s : Symbol) :
    (s.rewire w).answer r' = ((s.answer r).1.rewire w, Reply.rewire w <$> (s.answer r).2) := by
  cases r with
  | edit edit =>
    obtain ⟨edit', he, rfl⟩ := Option.map_eq_some_iff.1 h
    simp only [answer_edit, edit_rewire he]
    cases s.edit edit <;> rfl
  | bundle =>
    cases h
    simp only [answer, bundle_rewire]
    cases s.bundle <;> rfl
  | elements =>
    cases h
    simp only [answer, elements_rewire]
    cases s.elements <;> rfl
  | function =>
    cases h
    simp only [answer, function_rewire]
    cases s.function <;> rfl
  | totalWidth =>
    cases h
    simp only [answer, totalWidth_rewire]
    rfl
  | whole =>
    cases h
    rfl

theorem rewire_of_answer {r : Request} (h : r.rewire? w = none) (s : Symbol) :
    (s.answer r).1.rewire w = s.rewire w := by
  cases r with
  | edit edit =>
    have he := Option.map_eq_none_iff.1 h
    rw [answer_edit]
    split
    · rename_i hs
      exact rewire_of_edit he hs
    · rfl
  | _ => cases h

end Symbol

/-- The answers to the requests that are not left out, with other wires. -/
def Rewiring.answers : Rewiring → List Symbol.Request → List (Except SymbolError Symbol.Reply) →
    List (Except SymbolError Symbol.Reply)
  | rename f, _, replies => replies.map (Symbol.Reply.rewire (rename f) <$> ·)
  | strip, rs, replies => ((rs.zip replies).filter fun p => (p.1.rewire? strip).isSome).map fun p =>
    Symbol.Reply.rewire strip <$> p.2

namespace Rewiring

variable {r r' : Symbol.Request} {rs : List Symbol.Request}
  {reply : Except SymbolError Symbol.Reply} {replies : List (Except SymbolError Symbol.Reply)}

theorem answers_nil (w : Rewiring) (rs : List Symbol.Request) : w.answers rs [] = [] := by
  cases w with
  | rename f => rfl
  | strip => simp [answers]

theorem answers_cons_of_some (h : r.rewire? w = some r') :
    w.answers (r :: rs) (reply :: replies) =
      (Symbol.Reply.rewire w <$> reply) :: w.answers rs replies := by
  cases w with
  | rename f => rfl
  | strip => simp [answers, h]

theorem answers_cons_of_none (h : r.rewire? w = none) :
    w.answers (r :: rs) (reply :: replies) = w.answers rs replies := by
  cases w with
  | rename f =>
    obtain ⟨r', hr⟩ := r.rewire?_rename f
    cases hr.symm.trans h
  | strip => simp [answers, h]

end Rewiring

namespace Symbol

/-- The rewired symbol answers the rewired requests in the same way, but for wires. -/
theorem answerAll_rewire (w : Rewiring) (s : Symbol) (rs : List Request) :
    (s.rewire w).answerAll (rs.filterMap (Request.rewire? w)) =
      ((s.answerAll rs).1.rewire w, w.answers rs (s.answerAll rs).2) := by
  induction rs generalizing s with
  | nil => exact congrArg (Prod.mk _) (w.answers_nil []).symm
  | cons r rs ih =>
    cases hr : r.rewire? w with
    | some r' =>
      simp only [List.filterMap_cons_some hr, answerAll, answer_rewire hr, ih,
        Rewiring.answers_cons_of_some hr]
    | none =>
      simp only [List.filterMap_cons_none hr, answerAll, ← rewire_of_answer hr s, ih,
        Rewiring.answers_cons_of_none hr]

/-! ## What is the same but for wires -/

variable {s s' : Symbol}

/-- The bundles of a symbol, in order. -/
def bundles (s : Symbol) : List Bundle :=
  match s.payload with
  | .numeric bundle => [bundle]
  | .array elements => elements
  | .function _ => []

/-- For each slot of each bundle whether it holds a wire. -/
def boundSlots (s : Symbol) : List (List Bool) :=
  s.bundles.map fun bundle => bundle.slots.map Option.isSome

/-- Both symbols hold wires in the same slots, and differ in nothing but the wires there. -/
structure SameButWires (s s' : Symbol) : Prop where
  name : s.name = s'.name
  version : s.version = s'.version
  type : s.type = s'.type
  shape : s.shape = s'.shape
  boundSlots : s.boundSlots = s'.boundSlots

theorem bundles_rewire (s : Symbol) : (s.rewire w).bundles = s.bundles.map (Bundle.rewire w) := by
  unfold bundles rewire withPayload
  cases s.payload <;> rfl

theorem boundSlots_rename (s : Symbol) (f : WireId → WireId) :
    (s.rewire (.rename f)).boundSlots = s.boundSlots := by
  have hslot : Option.isSome ∘ (Rewiring.rename f).slot = Option.isSome :=
    funext fun wire => by cases wire <;> rfl
  unfold boundSlots
  rw [bundles_rewire, List.map_map]
  refine List.map_congr_left fun b _ => ?_
  simp only [Function.comp_apply, Bundle.rewire, List.map_map, hslot]

theorem sameButWires_of_rewire (h : s.rewire .blank = s'.rewire .blank) : s.SameButWires s' where
  name := by rw [← s.name_rewire, h, name_rewire]
  version := by rw [← s.version_rewire, h, version_rewire]
  type := by rw [← s.type_rewire, h, type_rewire]
  shape := by rw [← s.shape_rewire, h, shape_rewire]
  boundSlots := by
    have hs := s.boundSlots_rename fun _ => ⟨0⟩
    have hs' := s'.boundSlots_rename fun _ => ⟨0⟩
    rw [← hs, ← hs']
    exact congrArg Symbol.boundSlots h

/-- No slot of the symbol holds a wire. -/
def Unbound (s : Symbol) : Prop := ∀ bundle ∈ s.bundles, ∀ slot ∈ bundle.slots, slot = none

theorem unbound_of_rewire_strip (h : s.rewire .strip = s) : s.Unbound := by
  intro bundle hb slot hslot
  rw [← h, bundles_rewire] at hb
  obtain ⟨b, -, rfl⟩ := List.mem_map.1 hb
  obtain ⟨wire, -, rfl⟩ := List.mem_map.1 hslot
  rfl

end Symbol

end WireLedger
