import WireLedger.Decimal.Shortest
import WireLedger.Settings.Basic
import WireLedger.Text.Quoted
import WireLedger.Toml.Complaint
/-!
# Settings in a document

The table `runtime` of a document holds the settings: `seed`, an integer of 32 bits, and
`log_level`, a string. Each may be missing and other keys do not count. Instead of a table there may
be an array with both in this order.
-/
namespace WireLedger

open Toml

namespace Settings

/-- Why an item is not what is expected. -/
inductive Mismatch where
  /-- It is of another kind, described so. -/
  | kind (found expected : String)
  /-- It is an integer out of range. -/
  | range (value : Int) (expected : String)
  /-- It is an array that is too short. -/
  | length (found : Nat) (expected : String)
deriving DecidableEq, Repr

/-- The mismatch in one sentence. -/
def Mismatch.message : Mismatch → String
  | kind found expected => "invalid type: " ++ found ++ ", expected " ++ expected
  | range value expected =>
    "invalid value: integer `" ++ toString value ++ "`, expected " ++ expected
  | length found expected => "invalid length " ++ Numeral.decimal found ++ ", expected " ++ expected

/-- An item in the words of a mismatch. -/
def describe : Item → String
  | .scalar (.string text) _ => "string " ++ Text.quote text
  | .scalar (.integer value) _ => "integer `" ++ toString value ++ "`"
  | .scalar (.float value) _ => "floating point `" ++ Decimal.ofFloat value ++ "`"
  | .scalar (.boolean value) _ => "boolean `" ++ toString value ++ "`"
  | .scalar .moment _ | .table _ => "map"
  | .array .. | .tables .. => "sequence"

/-- A mismatch and its place in the document. -/
structure Misfit where
  span : Span
  mismatch : Mismatch
deriving DecidableEq, Repr

/-- The place of an item; that of its key if it has none. -/
def place (key : Key) (item : Item) : Span := item.span?.getD key.span

/-- The seed that an item is. -/
def seedOf (span : Span) : Item → Except Misfit UInt32
  | .scalar (.integer value) _ =>
    if 0 ≤ value ∧ value < UInt32.size then .ok (UInt32.ofNat value.toNat)
    else .error ⟨span, .range value "u32"⟩
  | item => .error ⟨span, .kind (describe item) "u32"⟩

/-- The directive of the log filter that an item is. -/
def logLevelOf (span : Span) : Item → Except Misfit String
  | .scalar (.string text) _ => .ok text
  | item => .error ⟨span, .kind (describe item) "a string"⟩

/-- The settings with what one key sets. -/
def take (settings : Settings) (key : Key) (item : Item) : Except Misfit Settings := do
  let span := place key item
  if key.name = "seed" then return { settings with seed := some (← seedOf span item) }
  else if key.name = "log_level" then
    return { settings with logLevel := some (← logLevelOf span item) }
  else return settings

/-- The settings of an array. Every element has a place of its own, or the array's. -/
def ofElements (span : Span) (elements : List Item) : Except Misfit Settings := do
  let short (n : Nat) : Misfit := ⟨span, .length n "struct RuntimeConfig with 2 elements"⟩
  match elements with
  | [] => throw (short 0)
  | seed :: rest =>
    let seed ← seedOf (seed.span?.getD span) seed
    match rest with
    | [] => throw (short 1)
    | logLevel :: _ => return ⟨some seed, some (← logLevelOf (logLevel.span?.getD span) logLevel)⟩

/-- The settings that an item describes (`deserialize`). A date or a time counts as a table without
settings. -/
def ofItem (key : Key) (item : Item) : Except Misfit Settings :=
  match item with
  | .table t => t.entries.foldlM (fun settings (key, item) => settings.take key item) empty
  | .scalar .moment _ => .ok empty
  | .array elements span => ofElements span elements
  | .tables earlier last => ofElements (place key item) ((earlier ++ [last]).map .table)
  | .scalar _ span => .error ⟨span, .kind (describe item) "struct RuntimeConfig"⟩

/-- The settings of a document (`RawConfig`). -/
def ofTable (t : Table) : Except Misfit Settings :=
  match t.entries.find? (·.1.name = "runtime") with
  | some (key, item) => ofItem key item
  | none => .ok empty

/-- The settings of the text of a document, or what is wrong with it. -/
def ofText (text : String) : Except Complaint Settings := do
  let t ← (Table.ofText text).mapError (.ofFailure text)
  (ofTable t).mapError fun misfit => ⟨text, misfit.span, misfit.mismatch.message⟩

end Settings

end WireLedger
