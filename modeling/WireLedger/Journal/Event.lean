import WireLedger.Block.Text
import WireLedger.Symbol.Type
/-!
# Events

What the library tells of its own work. An event knows what happened; its level, its target, its
message and the text of its fields follow from that.
-/
namespace WireLedger

/-- How much an event matters, the most serious first. -/
inductive Level where
  | error
  | warn
  | info
  | debug
  | trace
deriving DecidableEq, Repr

namespace Level

/-- The place of a level: the more a level lets through, the higher. -/
def rank : Level → Nat
  | error => 1
  | warn => 2
  | info => 3
  | debug => 4
  | trace => 5

/-- The level in capitals. -/
def name : Level → String
  | error => "ERROR"
  | warn => "WARN"
  | info => "INFO"
  | debug => "DEBUG"
  | trace => "TRACE"

end Level

/-- Something that happened. -/
inductive Event where
  /-- A generator took its state from a seed. -/
  | seeded (seed : UInt32) (state : Block)
  /-- A generator went on to a state. -/
  | advanced (state : Block)
  /-- A name was bound to a version. -/
  | bound (name : String) (version : UInt32) (type : SymbolType)
  /-- A bound name has no versions. -/
  | noVersions (name : String)
  /-- In the history of `name`, the place of version `expected` holds another symbol, whose version
  is `found`. -/
  | gap (name : String) (expected : Nat) (found : UInt32)
deriving DecidableEq, Repr

namespace Event

/-- A field of an event; a text is quoted where events are written out. -/
inductive Field where
  | text (value : String)
  | plain (value : String)
deriving DecidableEq, Repr

/-- The value of a field without quotes. -/
def Field.value : Field → String
  | text value | plain value => value

/-- How much the event matters. -/
def level : Event → Level
  | seeded .. => .debug
  | advanced _ => .trace
  | bound .. => .debug
  | noVersions _ | gap .. => .warn

/-- The part of the program that the event comes from. -/
def target : Event → String
  | seeded .. | advanced _ => "gashlang::block::generator"
  | bound .. | noVersions _ | gap .. => "gashlang::symbol::store"

/-- What happened, in a few words. -/
def message : Event → String
  | seeded .. => "seeded block generator"
  | advanced _ => "advanced block generator"
  | bound .. => "bound symbol"
  | noVersions _ => "symbol has an empty version history"
  | gap .. => "symbol version history is not contiguous"

/-- The named values of the event, in order. -/
def fields : Event → List (String × Field)
  | seeded seed state =>
    [("seed", .plain (toString seed.toNat)), ("state", .plain state.display)]
  | advanced state => [("state", .plain state.display)]
  | bound name version type =>
    [("name", .text name), ("version", .plain (toString version.toNat)), ("ty", .plain type.name)]
  | noVersions name => [("name", .text name)]
  | gap name expected found =>
    [("name", .text name), ("expected", .plain (toString expected)),
      ("found", .plain (toString found.toNat))]

/-- The names of what the event tells: its message and its fields. -/
def names (event : Event) : List String := "message" :: event.fields.map Prod.fst

end Event

end WireLedger
