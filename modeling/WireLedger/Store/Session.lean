import WireLedger.Store.Action
/-!
# Working with several stores

A session has numbered stores, one of which is in use, and numbered handles that were saved on the
way. A copy of a store goes on as a store of its own; handles are shared by all stores. A step on a
store or a handle that does not exist does nothing.
-/
namespace WireLedger.Store

/-- Numbered stores, the number of the one in use, and saved handles. -/
structure Session where
  stores : List Store
  current : Nat
  saved : List SymbolId
deriving DecidableEq

namespace Session

/-- The session with one empty store, in use. -/
def start : Session := ⟨[.empty], 0, []⟩

/-- A step of a session. -/
inductive Step where
  | act (action : Action)
  | contains (name : String)
  | require (name : String)
  | latestVersion (name : String)
  | latest (name : String)
  | version (name : String) (version : UInt32)
  | versions (name : String)
  | checkFor (name : String)
  | check
  | names
  | size
  | isEmpty
  /-- Shows the whole store. -/
  | whole
  /-- Saves the handle of the newest version of a name. -/
  | save (name : String)
  /-- Looks a saved handle up in the store in use. -/
  | get (handle : Nat)
  | compare (left right : Nat)
  /-- Adds a copy of the store in use. -/
  | clone
  /-- Adds an empty store. -/
  | create
  /-- Goes over to another store. -/
  | use (store : Nat)
deriving DecidableEq, Repr

/-- What a step shows. -/
inductive Reply where
  | replies (replies : Replies)
  | refused (refusal : Refusal)
  | done
  | verdict (verdict : Bool)
  | count (count : Nat)
  | versionNumber (version : UInt32)
  | symbol (symbol : Symbol)
  | symbols (symbols : List Symbol)
  | found (symbol : Option Symbol)
  | names (names : List String)
  | store (store : Store)
  | saved (index : Nat) (id : SymbolId)
  | ordering (ordering : Ordering)
  /-- There is no such store or handle. -/
  | absent

/-- The reply to a query that may be refused. -/
def Reply.ofExcept {α : Type} (view : α → Reply) : Except SymbolError α → Reply
  | .ok a => view a
  | .error refusal => .refused (.symbol refusal)

/-- The reply to an action. -/
def Reply.ofOutcome : Except Refusal Replies → Reply
  | .ok rs => .replies rs
  | .error refusal => .refused refusal

/-- The store in use. -/
def store (session : Session) : Store := session.stores.getD session.current .empty

/-- The session with the store in use replaced. -/
def withStore (session : Session) (store : Store) : Session :=
  { session with stores := session.stores.set session.current store }

/-- Adds a store, which is not in use, and shows its number. -/
def push (session : Session) (store : Store) : Session × Reply :=
  ({ session with stores := session.stores ++ [store] }, .count session.stores.length)

/-- The session after one step, and what the step shows. -/
def step (session : Session) : Step → Logged (Session × Reply)
  | .act action => do
    let (outcome, store) ← session.store.perform action
    return (session.withStore store, .ofOutcome outcome)
  | .contains name => return (session, .verdict (session.store.contains name))
  | .require name => return (session, .ofExcept (fun _ => .done) (session.store.require name))
  | .latestVersion name =>
    return (session, .ofExcept .versionNumber (session.store.latestVersion name))
  | .latest name => return (session, .ofExcept .symbol (session.store.latest name))
  | .version name version =>
    return (session, .ofExcept .symbol (session.store.version name version))
  | .versions name => return (session, .ofExcept .symbols (session.store.versions name))
  | .checkFor name => do return (session, .ofExcept .verdict (← session.store.checkFor name))
  | .check => do return (session, .verdict (← session.store.check))
  | .names => return (session, .names session.store.names)
  | .size => return (session, .count session.store.size)
  | .isEmpty => return (session, .verdict session.store.isEmpty)
  | .whole => return (session, .store session.store)
  | .save name =>
    match session.store.latestId name with
    | .ok id =>
      return ({ session with saved := session.saved ++ [id] }, .saved session.saved.length id)
    | .error refusal => return (session, .refused (.symbol refusal))
  | .get handle =>
    match session.saved[handle]? with
    | some id => return (session, .found (session.store.get? id))
    | none => return (session, .absent)
  | .compare left right =>
    match session.saved[left]?, session.saved[right]? with
    | some a, some b => return (session, .ordering (Ord.compare a b))
    | _, _ => return (session, .absent)
  | .clone => return session.push session.store
  | .create => return session.push .empty
  | .use number =>
    match session.stores[number]? with
    | some store => return ({ session with current := number }, .count store.size)
    | none => return (session, .absent)

/-- The session after one step. -/
def after (session : Session) (step : Step) : Session := (session.step step).value.1

/-- The session after steps in order. -/
def run (session : Session) (steps : List Step) : Session := steps.foldl after session

end Session

end WireLedger.Store
