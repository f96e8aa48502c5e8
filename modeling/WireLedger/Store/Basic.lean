import WireLedger.Store.Index
import WireLedger.Journal.Logged
/-!
# The store of symbol versions

The store keeps every version of every symbol in one arena, in the order of binding, and never
removes one. Its index leads from each name to the handles of its versions, oldest first. Versions
are found by their place in that history, whatever number they carry. Only the newest version of a
name can change. Names in brackets are the program's own.
-/
namespace WireLedger

/-- Every version of every bound name (`SymbolStore`). -/
structure Store where
  arena : Array Symbol
  index : Store.Index
deriving DecidableEq

namespace Store

/-- The store without symbols (`new`). -/
def empty : Store := ⟨#[], .empty⟩

instance : EmptyCollection Store := ⟨empty⟩

/-! ## Queries -/

/-- The number of symbols, over all names and versions (`len`). -/
def size (s : Store) : Nat := s.arena.size

/-- Whether nothing was ever bound (`is_empty`). -/
def isEmpty (s : Store) : Bool := s.arena.isEmpty

/-- The bound names, in ascending order (`names`). -/
def names (s : Store) : List String := s.index.names

/-- Whether the name is bound (`has`). -/
def contains (s : Store) (name : String) : Bool := (s.index.history? name).isSome

/-- The symbol of a handle (`get`). -/
def get? (s : Store) (id : SymbolId) : Option Symbol := s.arena[id.position]?

/-- The handles of the versions of a name, oldest first (`history`). -/
def history (s : Store) (name : String) : Except SymbolError (List SymbolId) :=
  match s.index.history? name with
  | some ids => .ok ids
  | none => .error (.unknownSymbol name)

/-- Refuses a name that is not bound (`require`). -/
def require (s : Store) (name : String) : Except SymbolError Unit := do
  let _ ← s.history name

/-- The handle of the newest version of a name (`latest_id`). -/
def latestId (s : Store) (name : String) : Except SymbolError SymbolId := do
  match (← s.history name).getLast? with
  | some id => return id
  | none => .error (.unknownSymbol name)

/-- The newest version of a name (`latest`). -/
def latest (s : Store) (name : String) : Except SymbolError Symbol := do
  match s.get? (← s.latestId name) with
  | some symbol => return symbol
  | none => .error (.unknownSymbol name)

/-- The number that the newest version of a name carries (`latest_version`). -/
def latestVersion (s : Store) (name : String) : Except SymbolError UInt32 := do
  return (← s.latest name).version

/-- The symbol at a place of the history of a name (`version`). -/
def version (s : Store) (name : String) (version : UInt32) : Except SymbolError Symbol := do
  match (← s.history name)[version.toNat]?.bind s.get? with
  | some symbol => return symbol
  | none => .error (.unknownVersion name version)

/-- Every version of a name, oldest first (`versions`). -/
def versions (s : Store) (name : String) : Except SymbolError (List Symbol) := do
  return (← s.history name).filterMap s.get?

/-! ## Changes -/

/-- A change of a store in place, refused for an `ε`. What it wrote and told of before it was
refused stays so. -/
abbrev Change (ε α : Type) := ExceptT ε (StateT Store Logged) α

/-- Puts a symbol in the place of a handle (what `latest_mut` allows). -/
def set (s : Store) (id : SymbolId) (symbol : Symbol) : Store :=
  { s with arena := s.arena.setIfInBounds id.position symbol }

/-- The symbol that binding `name` as `ty` would add: the version after the newest one, which has to
be of that type, or the first version of a name that is not bound. `bind` begins with it. -/
def successor (s : Store) (name : String) (ty : SymbolType) : Except SymbolError Symbol :=
  match s.latest name with
  | .ok previous =>
    if previous.type = ty then .ok previous.next
    else .error (.typeMismatch name previous.type ty)
  | .error _ => .ok (.declare name ty)

/-- Adds a symbol at the end of the arena and of the history of `name`: all that `bind` writes. -/
def push (s : Store) (name : String) (symbol : Symbol) : Store :=
  ⟨s.arena.push symbol, s.index.add name ⟨s.arena.size⟩⟩

/-- The handle of a new version of `name` of type `ty` and the store with that version, or why it
is refused: what `bind` comes to. A refusal emits no event. -/
def bind (s : Store) (name : String) (ty : SymbolType) :
    Logged (Except SymbolError (SymbolId × Store)) :=
  match s.successor name ty with
  | .ok symbol => do
    Logged.emit (.bound name symbol.version ty)
    return .ok (⟨s.arena.size⟩, s.push name symbol)
  | .error refusal => return .error refusal

/-- Binds `name` in place to a new version of type `ty` and gives its handle (`bind`). The new
version is told of before it is added, to the arena first and to the index then. -/
def InPlace.bind (name : String) (ty : SymbolType) : Change SymbolError SymbolId := do
  let symbol ← (← get).successor name ty
  Logged.emit (.bound name symbol.version ty)
  let id : SymbolId := ⟨(← get).size⟩
  modify fun s => { s with arena := s.arena.push symbol }
  modify fun s => { s with index := s.index.add name id }
  return id

/-! ## What a change does to handles -/

theorem get?_push_self (s : Store) (name : String) (symbol : Symbol) :
    (s.push name symbol).get? ⟨s.arena.size⟩ = some symbol := by
  simp [get?, push]

theorem get?_push_of_lt (s : Store) (name : String) (symbol : Symbol) {id : SymbolId}
    (h : id.position < s.arena.size) : (s.push name symbol).get? id = s.get? id := by
  simp only [get?, push, Array.getElem?_push, if_neg (Nat.ne_of_lt h)]

theorem get?_set_self (s : Store) {id : SymbolId} (symbol : Symbol)
    (h : id.position < s.arena.size) : (s.set id symbol).get? id = some symbol := by
  simp [get?, set, h]

theorem get?_set_of_ne (s : Store) {id other : SymbolId} (symbol : Symbol) (hne : other ≠ id) :
    (s.set id symbol).get? other = s.get? other := by
  have hne' : id.position ≠ other.position := fun he => hne (by cases id; cases other; simp_all)
  simp only [get?, set, Array.getElem?_setIfInBounds, if_neg hne']

theorem latestId_push_self (s : Store) (name : String) (symbol : Symbol) :
    (s.push name symbol).latestId name = .ok ⟨s.arena.size⟩ := by
  unfold latestId history push
  rw [Index.history?_add_self]
  show (match (_ ++ [_] : List SymbolId).getLast? with
    | some id => pure id
    | none => .error (.unknownSymbol name) : Except SymbolError SymbolId) = _
  rw [List.getLast?_append]
  rfl

/-! ## Consistency -/

/-- The first place of a history, counted from `expected` on, that does not hold that version of
`name`, and the version found there: the loop of `history_is_contiguous`. -/
def gapFrom? (s : Store) (name : String) (expected : Nat) : List SymbolId → Option (Nat × UInt32)
  | [] => none
  | id :: rest =>
    match s.get? id with
    | some symbol =>
      if symbol.name = name ∧ symbol.version.toNat = expected then
        gapFrom? s name (expected + 1) rest
      else some (expected, symbol.version)
    | none => gapFrom? s name (expected + 1) rest

/-- Whether a history holds the versions 0, 1, 2 and so on of `name`, at least one; the first gap is
told (`history_is_contiguous`). -/
def checkHistory (s : Store) (name : String) (history : List SymbolId) : Logged Bool :=
  if history.isEmpty then do
    Logged.emit (.noVersions name)
    return false
  else
    match s.gapFrom? name 0 history with
    | none => return true
    | some (expected, found) => do
      Logged.emit (.gap name expected found)
      return false

/-- Whether the history of a name is without gap (`check_consistency_for`). -/
def checkFor (s : Store) (name : String) : Logged (Except SymbolError Bool) :=
  match s.history name with
  | .ok history => do return .ok (← s.checkHistory name history)
  | .error refusal => return .error refusal

/-- Whether these histories are without gap, up to the first that is not: the loop of
`check_consistency`. -/
def checkEach (s : Store) : List (String × List SymbolId) → Logged Bool
  | [] => return true
  | (name, history) :: rest => do
    if ← s.checkHistory name history then checkEach s rest else return false

/-- Whether every history is without gap (`check_consistency`). -/
def check (s : Store) : Logged Bool := s.checkEach s.index.entries

end Store

end WireLedger
