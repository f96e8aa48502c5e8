import WireLedger.Symbol.Basic
/-!
# Editing a symbol

The five edits of a symbol. Those that set a shape ask for version 0 before they look at the type;
those that bind wires ask for the type, then for the element, then for the number of wires. Edits
are made in place. What an edit comes to, a new symbol or a refusal, is said beside it without
writes.

A request is an edit or a look at one part. Requests are answered in order, each on the symbol that
the ones before it left.
-/
namespace WireLedger.Symbol

/-- A change of one symbol. -/
inductive Edit where
  /-- Gives a numeric symbol a width and empties its slots. -/
  | setWidth (width : Nat)
  /-- Binds the wires of a numeric symbol. -/
  | bindWires (wires : List WireId)
  /-- Adds an element of this width to an array. -/
  | pushElement (width : Nat)
  /-- Binds the wires of one element. -/
  | bindElement (index : Nat) (wires : List WireId)
  /-- Sets the body of a function. -/
  | setFunction (body : FunctionRef)
deriving DecidableEq, Repr

/-- Refuses any version but the first (`require_shape_open`). -/
def requireOpen (s : Symbol) : Except SymbolError Unit :=
  if s.version = 0 then .ok () else .error (.shapeFixed s.name s.version)

/-- The symbol with a new payload. -/
def withPayload (s : Symbol) (payload : Payload) : Symbol := { s with payload }

/-- Gives a numeric symbol a width and empties its slots (`set_width`). Any width will do, as for
`Bundle.ofWidth`. -/
def setWidth (s : Symbol) (width : Nat) : Except SymbolError Symbol := do
  s.requireOpen
  let _ ← s.bundle
  return s.withPayload (.numeric (.ofWidth width))

/-- Binds the wires of a numeric symbol (`bind_wires`). -/
def bindWires (s : Symbol) (wires : List WireId) : Except SymbolError Symbol := do
  let bundle ← (← s.bundle).bind s.name wires
  return s.withPayload (.numeric bundle)

/-- Adds an element of this width to an array (`push_element`). Any width will do, as for
`Bundle.ofWidth`. -/
def pushElement (s : Symbol) (width : Nat) : Except SymbolError Symbol := do
  s.requireOpen
  return s.withPayload (.array ((← s.elements) ++ [.ofWidth width]))

/-- Binds the wires of one element of an array (`bind_element_wires`). -/
def bindElement (s : Symbol) (index : Nat) (wires : List WireId) : Except SymbolError Symbol := do
  let elements ← s.elements
  match elements[index]? with
  | none => .error (.elementOutOfRange s.name index elements.length)
  | some element => return s.withPayload (.array (elements.set index (← element.bind s.name wires)))

/-- Sets the body of a function (`set_function`). -/
def setFunction (s : Symbol) (body : FunctionRef) : Except SymbolError Symbol := do
  s.requireOpen
  let _ ← s.function
  return s.withPayload (.function (some body))

/-- The symbol after an edit. -/
def edit (s : Symbol) : Edit → Except SymbolError Symbol
  | .setWidth width => s.setWidth width
  | .bindWires wires => s.bindWires wires
  | .pushElement width => s.pushElement width
  | .bindElement index wires => s.bindElement index wires
  | .setFunction body => s.setFunction body

/-! ## Edits in place -/

namespace InPlace

/-- Changes the bundle of a numeric symbol in place (`bundle_mut`). -/
def onBundle (change : InPlace SymbolError Bundle Unit) : InPlace SymbolError Symbol Unit := do
  let bundle ← (← get).bundle
  InPlace.onPart bundle (fun bundle s => s.withPayload (.numeric bundle)) change

/-- Gives a numeric symbol a width in place and empties its slots (`set_width`). -/
def setWidth (width : Nat) : InPlace SymbolError Symbol Unit := do
  (← get).requireOpen
  onBundle (set (Bundle.ofWidth width))

/-- Binds the wires of a numeric symbol in place (`bind_wires`). -/
def bindWires (wires : List WireId) : InPlace SymbolError Symbol Unit := do
  let owner := (← get).name
  onBundle (Bundle.InPlace.bind owner wires)

/-- Adds an element to an array in place (`push_element`). -/
def pushElement (width : Nat) : InPlace SymbolError Symbol Unit := do
  (← get).requireOpen
  let elements ← (← get).elements
  modify (·.withPayload (.array (elements ++ [.ofWidth width])))

/-- Binds the wires of one element of an array in place (`bind_element_wires`). -/
def bindElement (index : Nat) (wires : List WireId) : InPlace SymbolError Symbol Unit := do
  let s ← get
  let elements ← s.elements
  match elements[index]? with
  | none => throw (.elementOutOfRange s.name index elements.length)
  | some element =>
    InPlace.onPart element (fun element s => s.withPayload (.array (elements.set index element)))
      (Bundle.InPlace.bind s.name wires)

/-- Sets the body of a function in place (`set_function`). -/
def setFunction (body : FunctionRef) : InPlace SymbolError Symbol Unit := do
  (← get).requireOpen
  let _ ← (← get).function
  modify (·.withPayload (.function (some body)))

/-- Makes an edit in place. -/
def edit : Edit → InPlace SymbolError Symbol Unit
  | .setWidth width => setWidth width
  | .bindWires wires => bindWires wires
  | .pushElement width => pushElement width
  | .bindElement index wires => bindElement index wires
  | .setFunction body => setFunction body

end InPlace

/-! ## Requests -/

/-- An edit, or a look at one part of a symbol. -/
inductive Request where
  | edit (edit : Edit)
  | bundle
  | elements
  | function
  | totalWidth
  | whole
deriving DecidableEq, Repr

/-- What a request shows. -/
inductive Reply where
  | symbol (symbol : Symbol)
  | bundle (bundle : Bundle)
  | elements (elements : List Bundle)
  | function (body : Option FunctionRef)
  | totalWidth (width : Nat)
deriving DecidableEq, Repr

/-- The symbol after one request, and what it shows or why it is refused. An edit is made in place
and shows the edited symbol. -/
def answer (s : Symbol) : Request → Symbol × Except SymbolError Reply
  | .edit edit =>
    let (outcome, s) := (InPlace.edit edit).on s
    (s, outcome.map fun _ => .symbol s)
  | .bundle => (s, s.bundle.map .bundle)
  | .elements => (s, s.elements.map .elements)
  | .function => (s, s.function.map .function)
  | .totalWidth => (s, .ok (.totalWidth s.totalWidth))
  | .whole => (s, .ok (.symbol s))

/-- The symbol after all requests in order, and what each of them shows. -/
def answerAll (s : Symbol) : List Request → Symbol × List (Except SymbolError Reply)
  | [] => (s, [])
  | request :: rest =>
    let (s, reply) := s.answer request
    let (s, replies) := answerAll s rest
    (s, reply :: replies)

end WireLedger.Symbol
