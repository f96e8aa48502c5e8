/-!
# Types of symbols

A symbol is numeric, an array or a function. Each type has one name, and a text is the name of at
most one type. Names in brackets are the program's own.

Results:
* `ofName?_eq_some_iff`: a text names a type exactly if it is the name of that type.
-/
namespace WireLedger

/-- What a symbol stands for (`SymbolType`). -/
inductive SymbolType where
  | numeric
  | array
  | function
deriving DecidableEq, Repr

namespace SymbolType

/-- The name of a type (`Display`). -/
def name : SymbolType → String
  | numeric => "num"
  | array => "array"
  | function => "func"

instance : ToString SymbolType where
  toString := name

/-- The type of that name (`from_str`). -/
def ofName? (text : String) : Option SymbolType :=
  if text = "num" then some numeric
  else if text = "array" then some array
  else if text = "func" then some function
  else none

/-- What is reported of a text that names no type (`from_str`). -/
def unknownMessage (text : String) : String := "unknown symbol type `" ++ text ++ "`"

theorem ofName?_eq_some_iff {text : String} {ty : SymbolType} :
    ofName? text = some ty ↔ text = ty.name := by
  constructor
  · intro h
    unfold ofName? at h
    split at h
    · cases h; assumption
    · split at h
      · cases h; assumption
      · split at h
        · cases h; assumption
        · cases h
  · rintro rfl
    cases ty <;> decide

end SymbolType

end WireLedger
