import WireLedger.Symbol.Type
/-!
# Why a symbol operation is refused

Every refusal names the symbol and carries the values that were compared. Its message, its code, its
help and its label in a report are functions of it.
-/
namespace WireLedger

/-- Why an operation on a symbol or on a name is refused (`SymbolError`). -/
inductive SymbolError where
  /-- The name is not bound. -/
  | unknownSymbol (name : String)
  /-- The name is bound as a symbol of another type. -/
  | typeMismatch (name : String) (existing requested : SymbolType)
  /-- The number of wires is not the width. -/
  | widthMismatch (name : String) (expected received : Nat)
  /-- The operation is not one of this type of symbol. -/
  | kindMismatch (name : String) (expected found : SymbolType)
  /-- Only version 0 takes a shape. -/
  | shapeFixed (name : String) (version : UInt32)
  /-- The array has no such element. -/
  | elementOutOfRange (name : String) (index length : Nat)
  /-- The name has no such version. -/
  | unknownVersion (name : String) (version : UInt32)
deriving DecidableEq, Repr

namespace SymbolError

/-- The name that the refusal is about. -/
def name : SymbolError → String
  | unknownSymbol name
  | typeMismatch name _ _
  | widthMismatch name _ _
  | kindMismatch name _ _
  | shapeFixed name _
  | elementOutOfRange name _ _
  | unknownVersion name _ => name

/-- The refusal in one sentence (`Display`). -/
def message : SymbolError → String
  | unknownSymbol name => "Unknown symbol `" ++ name ++ "`"
  | typeMismatch name existing requested =>
    "Symbol `" ++ name ++ "` already has type " ++ existing.name ++ ", cannot rebind it as " ++
      requested.name
  | widthMismatch name expected received =>
    "Symbol `" ++ name ++ "` is " ++ toString expected ++ " wires wide but " ++
      toString received ++ " wires were supplied"
  | kindMismatch name expected found =>
    "Symbol `" ++ name ++ "` is a " ++ found.name ++ " symbol, expected " ++ expected.name
  | shapeFixed name version =>
    "Symbol `" ++ name ++ "` version " ++ toString version.toNat ++
      " inherits its shape and cannot be reshaped"
  | elementOutOfRange name index length =>
    "Symbol `" ++ name ++ "` has " ++ toString length ++ " elements, no element " ++ toString index
  | unknownVersion name version =>
    "Symbol `" ++ name ++ "` has no version " ++ toString version.toNat

instance : ToString SymbolError where
  toString := message

/-- The stable code of the cause (`code`). -/
def code : SymbolError → String
  | unknownSymbol .. => "gash::symbol::unknown"
  | typeMismatch .. => "gash::symbol::type_mismatch"
  | widthMismatch .. => "gash::symbol::width_mismatch"
  | kindMismatch .. => "gash::symbol::kind_mismatch"
  | shapeFixed .. => "gash::symbol::shape_fixed"
  | elementOutOfRange .. => "gash::symbol::element_out_of_range"
  | unknownVersion .. => "gash::symbol::unknown_version"

/-- What to do about it, where that does not depend on the case (`help`). -/
def help? : SymbolError → Option String
  | unknownSymbol .. => some "declare the name before referring to it"
  | shapeFixed .. => some "only the first binding of a name declares its width"
  | _ => none

/-- What stands under the place in the source (`label_for`). -/
def label : SymbolError → String
  | unknownSymbol .. => "not bound in this scope"
  | typeMismatch .. => "rebound with a different type"
  | widthMismatch .. => "wire count differs from declared width"
  | kindMismatch .. => "used as the wrong kind of symbol"
  | shapeFixed .. => "shape was fixed by the first binding"
  | elementOutOfRange .. => "no such array element"
  | unknownVersion .. => "version never bound"

end SymbolError

end WireLedger
