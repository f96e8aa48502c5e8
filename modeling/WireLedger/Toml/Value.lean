import WireLedger.Toml.Item
import WireLedger.Toml.Moment
import WireLedger.Toml.Number
import WireLedger.Toml.Quotes
/-!
# Keys and values

A key has one or more names with dots between them. The first character of a value decides what it
is; brackets and braces hold further values, up to a depth.

Results:
* `path_ofNames`, `key_ofNames`: a key splits into its last name and the path of the others.
-/
namespace WireLedger.Toml

/-- How many values may lie one within another, and how many names a key may have. -/
def depthLimit : Nat := 79

/-- A key and the path to its table. -/
structure DottedKey where
  path : List Key
  key : Key
deriving DecidableEq, Repr

namespace DottedKey

/-- The key with the given names. -/
def ofNames (first : Key) : List Key → DottedKey
  | [] => ⟨[], first⟩
  | second :: rest =>
    let inner := ofNames second rest
    ⟨first :: inner.path, inner.key⟩

/-- Every name, in order. -/
def names (key : DottedKey) : List String := (key.path ++ [key.key]).map Key.name

theorem path_ofNames (first : Key) (rest : List Key) :
    (ofNames first rest).path = (first :: rest).dropLast := by
  induction rest generalizing first with
  | nil => rfl
  | cons second rest ih => simp [ofNames, ih]

theorem key_ofNames (first : Key) (rest : List Key) :
    (ofNames first rest).key = (first :: rest).getLast (List.cons_ne_nil _ _) := by
  induction rest generalizing first with
  | nil => rfl
  | cons second rest ih => simp [ofNames, ih]

end DottedKey

namespace Scanner

/-! ## Keys -/

/-- Takes one name. -/
def name : Scanner String := do
  match ← next? with
  | none => fail
  | some '"' => String.ofList <$> basicText
  | some '\'' => String.ofList <$> literalText
  | some _ => String.ofList <$> takeSome Key.isBare

/-- Takes a name between blanks. -/
def keyPart : Scanner Key := do
  spaces
  let (name, span) ← spanned name
  spaces
  return ⟨name, span⟩

/-- Takes a key. -/
def key : Scanner DottedKey :=
  (labelled "key" (separated keyPart (char '.'))).check fun (first, rest) =>
    if depthLimit < rest.length + 1 then throw .tooDeep else return .ofNames first rest

/-- Takes a key, a sign of equality, the value, and what may follow it. -/
def keyValue (value : Scanner Item) (rest : Scanner Unit) : Scanner (DottedKey × Item) := do
  let key ← key
  commit do
    let _ ← wanting [.text ".", .text "="] (char '=')
    spaces
    let item ← value
    rest
    return (key, item)

/-! ## Values -/

/-- Takes a scalar and notes its place. -/
def scalar (scan : Scanner Scalar) : Scanner Item := do
  let (value, span) ← spanned scan
  return .scalar value span

/-- Takes a number, a date or a time. -/
def numeral : Scanner Scalar :=
  firstOf [do moment; return .moment, .float <$> float, .integer <$> integer]

/-- Takes values between brackets, over several lines and perhaps with a comma behind the last. -/
def array (value : Scanner Item) : Scanner Item := do
  let (elements, span) ← spanned do
    let _ ← char '['
    let elements ← commit elements
    let _ ← wanting [.text "]"] (labelled "array" (commit (char ']')))
    return elements
  return .array elements span
where
  /-- Takes the values, if there are any. -/
  elements : Scanner (List Item) := do
    if (← next?) = some ']' then return []
    let items ← separatedOrNone (do gap; let item ← value; gap; return item) (char ',')
    if !items.isEmpty then
      let _ ← optional (char ',')
    gap
    return items

/-- The table of the given keys. -/
def inlineTable (pairs : List (DottedKey × Item)) : Except Fault Table :=
  pairs.foldlM (fun t (key, item) => t.put none key.path key.key item)
    { TableOf.empty with inline := true }

/-- Takes keys with their values between braces, on one line. -/
def braces (value : Scanner Item) : Scanner Item := do
  let (t, span) ← spanned do
    let _ ← char '\x7b'
    let t ← commit ((do
      let pairs ← separatedOrNone (keyValue value spaces) (char ',')
      spaces
      return pairs).check inlineTable)
    let _ ← wanting [.text "\x7d"] (labelled "inline table" (commit (char '\x7d')))
    return t
  return .table { t with span? := some span }

/-- Takes a value, with the given ways to take an array and a table. -/
def valueWith (array table : Scanner Item) : Scanner Item := do
  match ← next? with
  | none => fail
  | some '"' | some '\'' => scalar (.string <$> quotedText)
  | some '[' => array
  | some '\x7b' => table
  | some '_' => wanting [.leadingDigit] (scalar (.integer <$> integer))
  | some '.' => wanting [.leadingDigit] (scalar (.float <$> float))
  | some 't' => word (scalar (commit do text "true"; return .boolean true))
  | some 'f' => word (scalar (commit do text "false"; return .boolean false))
  | some 'i' | some 'n' => word (scalar (.float <$> floatWord))
  | some c => if c.isDigit || c = '+' || c = '-' then scalar numeral else word fail
where
  /-- Takes a word. What is no word was meant to be a text in quotes. -/
  word (scan : Scanner Item) : Scanner Item :=
    wanting [.text "\"", .text "'"] (labelled "string" scan)

/-- Takes a value that holds values up to a depth. -/
def value : (depth : Nat) → Scanner Item
  | 0 => valueWith (commit (failWith .tooDeep)) (commit (failWith .tooDeep))
  | depth + 1 => valueWith (array (value depth)) (braces (value depth))

end Scanner

end WireLedger.Toml
