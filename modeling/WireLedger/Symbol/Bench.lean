import WireLedger.Symbol.Edit
/-!
# Registers of bundles and of symbols

Bundles and symbols that belong to no store, numbered in the order in which they were made. A step
reads or edits one register, or makes a new one; no step removes a register. A step on a register
that does not exist does nothing.
-/
namespace WireLedger

/-! ## Bundles -/

/-- Numbered bundles. -/
structure Shelf where
  bundles : List Bundle
deriving DecidableEq, Repr

namespace Shelf

/-- A step on numbered bundles. -/
inductive Step where
  /-- Binds wires to a bundle in the name of `owner`. -/
  | bind (register : Nat) (owner : String) (wires : List WireId)
  | get (register : Nat)
  | equal (left right : Nat)
  /-- Makes an empty bundle of the same width. -/
  | reshape (register : Nat)
  | clone (register : Nat)
  | create (width : Nat)
  /-- Makes the bundle without slots. -/
  | createEmpty
deriving DecidableEq, Repr

/-- What a step shows. -/
inductive Reply where
  | bundle (bundle : Bundle)
  | equal (verdict : Bool)
  | refused (refusal : SymbolError)
  /-- There is no such register. -/
  | absent
deriving DecidableEq, Repr

/-- The reply to a change of a bundle. -/
def Reply.ofOutcome (bundle : Bundle) : Except SymbolError Unit → Reply
  | .ok () => .bundle bundle
  | .error refusal => .refused refusal

/-- The shelf with one bundle of the given width. -/
def ofWidth (width : Nat) : Shelf := ⟨[.ofWidth width]⟩

/-- Adds a bundle and shows it. -/
def push (shelf : Shelf) (bundle : Bundle) : Shelf × Reply :=
  (⟨shelf.bundles ++ [bundle]⟩, .bundle bundle)

/-- The shelf after one step, and what the step shows. -/
def step (shelf : Shelf) : Step → Shelf × Reply
  | .bind register owner wires =>
    match shelf.bundles[register]? with
    | none => (shelf, .absent)
    | some bundle =>
      let (outcome, bundle) := (Bundle.InPlace.bind owner wires).on bundle
      (⟨shelf.bundles.set register bundle⟩, .ofOutcome bundle outcome)
  | .get register => (shelf, (shelf.bundles[register]?.map .bundle).getD .absent)
  | .equal left right =>
    match shelf.bundles[left]?, shelf.bundles[right]? with
    | some a, some b => (shelf, .equal (a == b))
    | _, _ => (shelf, .absent)
  | .reshape register =>
    match shelf.bundles[register]? with
    | some bundle => shelf.push bundle.reshaped
    | none => (shelf, .absent)
  | .clone register =>
    match shelf.bundles[register]? with
    | some bundle => shelf.push bundle
    | none => (shelf, .absent)
  | .create width => shelf.push (.ofWidth width)
  | .createEmpty => shelf.push .empty

end Shelf

/-! ## Symbols -/

/-- Numbered symbols. -/
structure Bench where
  symbols : List Symbol
deriving DecidableEq, Repr

namespace Bench

/-- A step on numbered symbols. -/
inductive Step where
  | request (register : Nat) (request : Symbol.Request)
  /-- Makes the version after a symbol. -/
  | next (register : Nat)
  | clone (register : Nat)
  | declare (name : String) (ty : SymbolType)
  | compare (left right : Nat)
deriving DecidableEq, Repr

/-- What a step shows. -/
inductive Reply where
  | symbol (symbol : Symbol)
  | answer (answer : Except SymbolError Symbol.Reply)
  /-- Whether two symbols are equal as a whole, in their payloads, and in their types. -/
  | compared (whole payload type : Bool)
  /-- There is no such register. -/
  | absent

/-- The bench with one declared symbol. -/
def declaring (name : String) (ty : SymbolType) : Bench := ⟨[.declare name ty]⟩

/-- Adds a symbol and shows it. -/
def push (bench : Bench) (symbol : Symbol) : Bench × Reply :=
  (⟨bench.symbols ++ [symbol]⟩, .symbol symbol)

/-- The bench after one step, and what the step shows. -/
def step (bench : Bench) : Step → Bench × Reply
  | .request register request =>
    match bench.symbols[register]? with
    | none => (bench, .absent)
    | some symbol =>
      let (symbol, answer) := symbol.answer request
      (⟨bench.symbols.set register symbol⟩, .answer answer)
  | .next register =>
    match bench.symbols[register]? with
    | some symbol => bench.push symbol.next
    | none => (bench, .absent)
  | .clone register =>
    match bench.symbols[register]? with
    | some symbol => bench.push symbol
    | none => (bench, .absent)
  | .declare name ty => bench.push (.declare name ty)
  | .compare left right =>
    match bench.symbols[left]?, bench.symbols[right]? with
    | some a, some b => (bench, .compared (a == b) (a.payload == b.payload) (a.type == b.type))
    | _, _ => (bench, .absent)

end Bench

end WireLedger
