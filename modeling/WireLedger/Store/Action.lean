import WireLedger.Store.Basic
import WireLedger.Symbol.Edit
/-!
# Actions on a store

Whatever changes a store is one of three actions: bind a name and work on the new version, work on
the newest version of a name, or put another symbol in its place. Actions are done in place. What an
action comes to, a new store or a refusal, is said beside it without writes.
-/
namespace WireLedger.Store

/-- Where a symbol that takes the place of another comes from. -/
inductive Replacement where
  /-- A symbol made elsewhere. -/
  | given (symbol : Symbol)
  /-- A first version (`declare`). -/
  | declare (name : String) (ty : SymbolType)
  /-- A copy of the symbol at a place of a history. -/
  | copy (name : String) (version : UInt32)
  /-- The version after the symbol at a place of a history (`derive_next`). -/
  | next (name : String) (version : UInt32)
deriving DecidableEq, Repr

/-- The symbol that a replacement stands for. -/
def replacement (s : Store) : Replacement → Except SymbolError Symbol
  | .given symbol => .ok symbol
  | .declare name ty => .ok (.declare name ty)
  | .copy name version => s.version name version
  | .next name version => do return (← s.version name version).next

/-- What changes a store. -/
inductive Action where
  /-- Binds a name as a type, given by its name (`bind`), and answers requests to the new
  version. -/
  | bind (name typeName : String) (requests : List Symbol.Request)
  /-- Answers requests to the newest version of a name (`latest_mut`). -/
  | amend (name : String) (requests : List Symbol.Request)
  /-- Puts another symbol in the place of the newest version of a name. -/
  | replace (name : String) (replacement : Replacement)
deriving DecidableEq, Repr

/-- Whether an action is an attempt to bind a name. -/
def Action.binds : Action → Bool
  | bind .. => true
  | _ => false

/-- Whether an action puts a whole symbol in the place of another. -/
def Action.replaces : Action → Bool
  | replace .. => true
  | _ => false

/-- The name whose newest version an action works on in place. -/
def Action.reworked? : Action → Option String
  | bind .. => none
  | amend name _ | replace name _ => some name

/-- Why an action is refused. -/
inductive Refusal where
  /-- The text names no type. -/
  | unknownType (text : String)
  | symbol (error : SymbolError)
deriving DecidableEq, Repr

/-- The refusal in one sentence. -/
def Refusal.message : Refusal → String
  | unknownType text => SymbolType.unknownMessage text
  | symbol error => error.message

/-- Answers to the requests of an action. -/
abbrev Replies := List (Except SymbolError Symbol.Reply)

/-- The store after requests to the symbol of a handle, and the answers to them. -/
def answerAt (s : Store) (id : SymbolId) (requests : List Symbol.Request) : Store × Replies :=
  match s.get? id with
  | some symbol =>
    let (symbol, replies) := symbol.answerAll requests
    (s.set id symbol, replies)
  | none => (s, [])

/-- The store after an action and the answers to its requests, or why it is refused. A replacement
shows the symbol put in place. Of two faults of a replacement the one of its source counts. -/
def act (s : Store) : Action → Logged (Except Refusal (Store × Replies))
  | .bind name typeName requests =>
    match SymbolType.ofName? typeName with
    | none => return .error (.unknownType typeName)
    | some ty => do
      match ← s.bind name ty with
      | .ok (id, s) => return .ok (s.answerAt id requests)
      | .error refusal => return .error (.symbol refusal)
  | .amend name requests =>
    match s.latestId name with
    | .ok id => return .ok (s.answerAt id requests)
    | .error refusal => return .error (.symbol refusal)
  | .replace name source =>
    match do return (← s.replacement source, ← s.latestId name) with
    | .ok (symbol, id) => return .ok (s.set id symbol, [.ok (.symbol symbol)])
    | .error refusal => return .error (.symbol refusal)

namespace InPlace

/-- Answers requests to the symbol of a handle in place, each to the symbol that the ones before it
left. -/
def answer (id : SymbolId) (requests : List Symbol.Request) : Change Refusal Replies := do
  let (s, replies) := (← get).answerAt id requests
  MonadState.set s
  return replies

/-- Does an action in place, on the symbol that `bind` or `latest_mut` hands out. -/
def act : Action → Change Refusal Replies
  | .bind name typeName requests => do
    match SymbolType.ofName? typeName with
    | none => throw (.unknownType typeName)
    | some ty => answer (← (bind name ty).adapt Refusal.symbol) requests
  | .amend name requests => do
    let id ← ((← get).latestId name).mapError Refusal.symbol
    answer id requests
  | .replace name source => do
    let symbol ← ((← get).replacement source).mapError Refusal.symbol
    let id ← ((← get).latestId name).mapError Refusal.symbol
    modify (·.set id symbol)
    return [.ok (.symbol symbol)]

end InPlace

/-- Does an action on a store: the answers to its requests or why it is refused, and the store that
it leaves. -/
def perform (s : Store) (action : Action) : Logged (Except Refusal Replies × Store) :=
  (InPlace.act action).run.run s

/-- The store that an action leaves. -/
def after (s : Store) (action : Action) : Store := (s.perform action).value.2

/-- The store after actions in order. -/
def run (s : Store) (actions : List Action) : Store := actions.foldl after s

/-- The events of actions in order. -/
def runEvents (s : Store) : List Action → List Event
  | [] => []
  | action :: rest => (s.perform action).events ++ runEvents (s.after action) rest

end WireLedger.Store
