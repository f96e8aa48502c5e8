import WireLedger.Symbol.Bundle
/-!
# Versioned symbols

Every write to a name makes a new version of its symbol. A version has the shape of the one before
and fresh, empty slots; only version 0 takes a shape, and it starts without one.
-/
namespace WireLedger

/-- A function body, owned by the stage that lowers it (`FunctionRef`). -/
structure FunctionRef where
  index : UInt32
deriving DecidableEq, Repr

/-- What a symbol carries, by type (`SymbolKind`). -/
inductive Payload where
  | numeric (bundle : Bundle)
  | array (elements : List Bundle)
  | function (body : Option FunctionRef)
deriving DecidableEq, Repr

namespace Payload

/-- The payload that a first version starts with (`empty`). -/
def empty : SymbolType → Payload
  | .numeric => numeric .empty
  | .array => array []
  | .function => function none

/-- The type of symbol that has such a payload (`ty`). -/
def type : Payload → SymbolType
  | numeric _ => .numeric
  | array _ => .array
  | function _ => .function

/-- The same shape with empty slots; a function body carries over (`reshaped`). -/
def reshaped : Payload → Payload
  | numeric bundle => numeric bundle.reshaped
  | array elements => array (elements.map Bundle.reshaped)
  | function body => function body

@[simp] theorem type_empty (ty : SymbolType) : (empty ty).type = ty := by cases ty <;> rfl

@[simp] theorem type_reshaped (p : Payload) : p.reshaped.type = p.type := by cases p <;> rfl

end Payload

/-- One version of a named symbol (`Symbol`). -/
structure Symbol where
  name : String
  version : UInt32
  payload : Payload
deriving DecidableEq, Repr

namespace Symbol

/-- Version 0 of `name`, with an empty payload (`declare`). -/
def declare (name : String) (ty : SymbolType) : Symbol := ⟨name, 0, .empty ty⟩

/-- The version after `s`, of its shape (`derive_next`). -/
def next (s : Symbol) : Symbol := ⟨s.name, s.version + 1, s.payload.reshaped⟩

/-- The type of the symbol (`ty`). -/
def type (s : Symbol) : SymbolType := s.payload.type

/-- The number of slots over all bundles (`total_width`). -/
def totalWidth (s : Symbol) : Nat :=
  match s.payload with
  | .numeric bundle => bundle.width
  | .array elements => elements.foldl (fun n bundle => n + bundle.width) 0
  | .function _ => 0

/-- The refusal of an operation on symbols of type `expected` (`kind_mismatch`). -/
def mismatch (s : Symbol) (expected : SymbolType) : SymbolError :=
  .kindMismatch s.name expected s.type

/-- The bundle of a numeric symbol (`bundle`). -/
def bundle (s : Symbol) : Except SymbolError Bundle :=
  match s.payload with
  | .numeric bundle => .ok bundle
  | _ => .error (s.mismatch .numeric)

/-- The elements of an array symbol (`elements`). -/
def elements (s : Symbol) : Except SymbolError (List Bundle) :=
  match s.payload with
  | .array elements => .ok elements
  | _ => .error (s.mismatch .array)

/-- The body of a function symbol (`function`). -/
def function (s : Symbol) : Except SymbolError (Option FunctionRef) :=
  match s.payload with
  | .function body => .ok body
  | _ => .error (s.mismatch .function)

@[simp] theorem type_declare (name : String) (ty : SymbolType) : (declare name ty).type = ty :=
  Payload.type_empty ty

@[simp] theorem type_next (s : Symbol) : s.next.type = s.type := Payload.type_reshaped _

end Symbol

end WireLedger
