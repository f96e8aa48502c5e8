import WireLedger.Numeral
import WireLedger.Text.Span
import WireLedger.Toml.Failure
/-!
# Items of a document

A document is a table: keys with an item each, in the order in which they were first given. An item
is a scalar, an array, a table, or a list of tables that headers in double brackets have opened.

A table may come into being on the way to another: it is implicit until a header opens it, and
dotted if a dotted key made it.

Results:
* `names_push`, `names_set`: a new key goes to the end, and an item that is replaced keeps its
  place.
-/
namespace WireLedger.Toml

/-- A value without parts. A date or a time is told from the others and not kept. -/
inductive Scalar where
  | string (text : String)
  | integer (value : Int)
  | float (value : Float)
  | boolean (value : Bool)
  | moment
deriving Repr

/-- A key and its place in the document. -/
structure Key where
  name : String
  span : Span
deriving DecidableEq, Repr

namespace Key

/-- Whether a character may stand in a key without quotes. -/
def isBare (c : Char) : Bool := c.isAlphanum || c = '_' || c = '-'

/-- A character inside the quotes of a key. -/
def escape (c : Char) : List Char :=
  if c = '\x08' then ['\\', 'b']
  else if c = '\t' then ['\\', 't']
  else if c = '\n' then ['\\', 'n']
  else if c = '\x0c' then ['\\', 'f']
  else if c = '\r' then ['\\', 'r']
  else if c = '"' then ['\\', '"']
  else if c = '\\' then ['\\', '\\']
  else if c.toNat < 0x20 ∨ c.toNat = 0x7F then
    ['\\', 'u'] ++ ((Nat.toDigits 16 c.toNat).map Char.toUpper).leftpad 4 '0'
  else [c]

/-- Whether a character cannot stand in a document. -/
def isControl (c : Char) : Bool := (c.toNat < 0x20 && c ≠ '\t') || c.toNat = 0x7F

/-- The name as a document writes it: in quotes if it cannot go without, in double ones unless only
single ones spare it an escape. -/
def written (name : String) : String :=
  let cs := name.toList
  if name ≠ "" ∧ cs.all isBare then name
  else if cs.any (fun c => c = '"' || c = '\\') && !cs.any (fun c => c = '\'' || isControl c) then
    "'" ++ name ++ "'"
  else String.ofList ('"' :: cs.flatMap escape ++ ['"'])

end Key

/-- Keys with an item each, and how the table came into being. -/
structure TableOf (α : Type) where
  /-- Whether it stands between braces. -/
  inline : Bool
  /-- Whether it was only needed on the way to another. -/
  implicit : Bool
  /-- Whether a dotted key made it. -/
  dotted : Bool
  /-- Where it stands: between its braces, or from its header to the last of its values. -/
  span? : Option Span
  entries : List (Key × α)
deriving Repr

/-- What a key may stand for. -/
inductive Item where
  | scalar (value : Scalar) (span : Span)
  | array (elements : List Item) (span : Span)
  | table (table : TableOf Item)
  /-- The tables that headers in double brackets have opened. -/
  | tables (earlier : List (TableOf Item)) (last : TableOf Item)

/-- Keys with an item each. -/
abbrev Table := TableOf Item

namespace Item

/-- What sort of item it is. -/
def kind : Item → String
  | scalar (.string _) _ => "string"
  | scalar (.integer _) _ => "integer"
  | scalar (.float _) _ => "float"
  | scalar (.boolean _) _ => "boolean"
  | scalar .moment _ => "datetime"
  | array .. | tables .. => "array"
  | table _ => "inline table"

/-- Where the item stands, unless it is a table without a place of its own. -/
def span? : Item → Option Span
  | scalar _ span | array _ span => some span
  | table t => t.span?
  | tables earlier last => do
    return (← ((earlier ++ [last]).head?.bind (·.span?))).through (← last.span?)

end Item

namespace TableOf

variable {α : Type}

/-- The table without keys, which is there in its own right. -/
def empty : TableOf α := ⟨false, false, false, none, []⟩

/-- The names of the keys, in order. -/
def names (t : TableOf α) : List String := t.entries.map (·.1.name)

/-- What a key stands for. -/
def find? (t : TableOf α) (name : String) : Option α :=
  (t.entries.find? (·.1.name = name)).map Prod.snd

/-- The table with one more key at its end. -/
def push (t : TableOf α) (key : Key) (item : α) : TableOf α :=
  { t with entries := t.entries ++ [(key, item)] }

/-- The table with the item of a key replaced. -/
def set (t : TableOf α) (name : String) (item : α) : TableOf α :=
  { t with entries := t.entries.map fun (key, old) => (key, if key.name = name then item else old) }

/-- The table without a key. -/
def erase (t : TableOf α) (name : String) : TableOf α :=
  { t with entries := t.entries.filter (·.1.name ≠ name) }

theorem names_push (t : TableOf α) (key : Key) (item : α) :
    (t.push key item).names = t.names ++ [key.name] := by simp [push, names]

theorem names_set (t : TableOf α) (name : String) (item : α) :
    (t.set name item).names = t.names := by simp [set, names]

end TableOf

namespace Table

/-- Changes the table at the end of a path, and makes the tables on the way that are missing. The
path leads through tables, and through the last of several; a dotted one only through tables that
were made on the way. Braces close a table to paths from outside. -/
def changeAt {α : Type} (dotted : Bool) (change : Table → Except Fault (α × Table))
    (above : List String) : (path : List Key) → Table → Except Fault (α × Table)
  | [], t => change t
  | key :: path, t =>
    let here := above ++ [key.name]
    match t.find? key.name with
    | none => do
      let made : Table := { TableOf.empty with inline := t.inline, implicit := true, dotted }
      let (a, child) ← changeAt dotted change here path made
      return (a, t.push key (.table child))
    | some (.table child) =>
      if child.inline && !t.inline then throw (.notATable here (Item.table child).kind)
      else if dotted && !child.implicit then throw (.duplicateKey key.name none)
      else do
        let (a, child) ← changeAt dotted change here path child
        return (a, t.set key.name (.table child))
    | some (.tables earlier last) => do
      let (a, last) ← changeAt dotted change here path last
      return (a, t.set key.name (.tables earlier last))
    | some item => throw (.notATable here item.kind)

/-- Gives a key its item, at the end of a dotted path. A table that was there in its own right gets
no keys that way, nor does one made by dotted keys get any without a path. -/
def put (where? : Option (List String)) (path : List Key) (key : Key) (item : Item) (t : Table) :
    Except Fault Table := do
  let ((), t) ← changeAt true (fun inner =>
    if inner.dotted = path.isEmpty then throw (.duplicateKey key.name none)
    else if (inner.find? key.name).isSome then throw (.duplicateKey key.name where?)
    else return ((), inner.push key item)) [] path t
  return t

end Table

end WireLedger.Toml
