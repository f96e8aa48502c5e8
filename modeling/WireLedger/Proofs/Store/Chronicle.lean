import Mathlib.Algebra.GroupWithZero.Nat
import Mathlib.Data.List.Dedup
import WireLedger.Proofs.Symbol.Shape
import WireLedger.Proofs.Text.ByteOrder
import WireLedger.Store.Action
/-!
# The chronicle: a store without arena and index

A chronicle is what a store stands for: for each key the list of its symbols, and over all keys the
order in which entries were bound. It has no handles that lead anywhere: a handle is a place in the
order of binding, and the symbol at that place is found by counting the entries of its key in front
of it.

Results:
* `mem_places_iff`, `pairwise_places`, `getElem?_places`: the places of a key are those of its
  entries, ascending, and the entry at a place is counted by the entries of the key in front of it.
* `places_push_self` to `history_amend_of_ne`: what binding and amending do to places and histories.
* `after_cases`: all that an action can do; `successor_cases`: the symbol that a bind adds.
* `history_after_cases`: what becomes of one history without replacement.
* `order_prefix_run`: the order of binding only grows.
-/
namespace WireLedger

/-- The key of every entry in the order of binding, and the symbols of each key, oldest first. -/
structure Chronicle where
  order : List String
  history : String → List Symbol

namespace Chronicle

/-- Nothing was bound yet. -/
def empty : Chronicle := ⟨[], fun _ => []⟩

/-! ## Queries -/

/-- The handles of the entries of a key, in the order of binding. -/
def places (m : Chronicle) (name : String) : List SymbolId := (m.order.idxsOf name).map SymbolId.mk

/-- The bound keys, each once. -/
def keys (m : Chronicle) : List String := m.order.dedup

/-- The bound keys, ascending by their bytes. -/
def names (m : Chronicle) : List String := m.keys.mergeSort Text.bytesLe

/-- The number of symbols over all histories. -/
def size (m : Chronicle) : Nat := (m.keys.map fun name => (m.history name).length).sum

/-- Whether there is no entry. -/
def isEmpty (m : Chronicle) : Bool := m.order.isEmpty

/-- Whether the key has a history. -/
def contains (m : Chronicle) (name : String) : Bool := !(m.history name).isEmpty

/-- The symbols of a key, oldest first. -/
def versions (m : Chronicle) (name : String) : Except SymbolError (List Symbol) :=
  if m.history name = [] then .error (.unknownSymbol name) else .ok (m.history name)

/-- Refuses a key without history. -/
def require (m : Chronicle) (name : String) : Except SymbolError Unit :=
  if m.history name = [] then .error (.unknownSymbol name) else .ok ()

/-- The newest symbol of a key. -/
def latest (m : Chronicle) (name : String) : Except SymbolError Symbol :=
  match (m.history name).getLast? with
  | some symbol => .ok symbol
  | none => .error (.unknownSymbol name)

/-- The number that the newest symbol of a key carries. -/
def latestVersion (m : Chronicle) (name : String) : Except SymbolError UInt32 :=
  (m.latest name).map Symbol.version

/-- The place of the last entry of a key. -/
def latestId (m : Chronicle) (name : String) : Except SymbolError SymbolId :=
  match (m.places name).getLast? with
  | some id => .ok id
  | none => .error (.unknownSymbol name)

/-- The symbol at a place of the order of binding. -/
def get? (m : Chronicle) (id : SymbolId) : Option Symbol := do
  let name ← m.order[id.position]?
  (m.history name)[(m.order.take id.position).count name]?

/-- The symbol at a place of a history. -/
def version (m : Chronicle) (name : String) (version : UInt32) : Except SymbolError Symbol :=
  if m.history name = [] then .error (.unknownSymbol name)
  else
    match (m.history name)[version.toNat]? with
    | some symbol => .ok symbol
    | none => .error (.unknownVersion name version)

/-! ## Changes -/

/-- Binds an entry of a key. -/
def push (m : Chronicle) (name : String) (symbol : Symbol) : Chronicle :=
  ⟨m.order ++ [name], fun key => if key = name then m.history name ++ [symbol] else m.history key⟩

/-- Puts a symbol in the place of the newest one of a key. -/
def amend (m : Chronicle) (name : String) (symbol : Symbol) : Chronicle :=
  ⟨m.order, fun key => if key = name then (m.history name).dropLast ++ [symbol] else m.history key⟩

/-- The symbol that binding `name` as `ty` adds. -/
def successor (m : Chronicle) (name : String) (ty : SymbolType) : Except SymbolError Symbol :=
  match (m.history name).getLast? with
  | some previous =>
    if previous.type = ty then .ok previous.next else .error (.typeMismatch name previous.type ty)
  | none => .ok (.declare name ty)

/-- Binds `name` to a new version of type `ty`, at the end of the order of binding. -/
def bind (m : Chronicle) (name : String) (ty : SymbolType) :
    Logged (Except SymbolError (SymbolId × Chronicle)) :=
  match m.successor name ty with
  | .ok symbol => ⟨.ok (⟨m.order.length⟩, m.push name symbol), [.bound name symbol.version ty]⟩
  | .error refusal => ⟨.error refusal, []⟩

/-- The chronicle after requests to the newest symbol of a key, and the answers to them. -/
def answerLatest (m : Chronicle) (name : String) (requests : List Symbol.Request) :
    Except SymbolError (Chronicle × Store.Replies) :=
  (m.latest name).map fun symbol =>
    (m.amend name (symbol.answerAll requests).1, (symbol.answerAll requests).2)

/-- The symbol that a replacement stands for. -/
def replacement (m : Chronicle) : Store.Replacement → Except SymbolError Symbol
  | .given symbol => .ok symbol
  | .declare name ty => .ok (.declare name ty)
  | .copy name version => m.version name version
  | .next name version => (m.version name version).map Symbol.next

/-- The chronicle after the newest symbol of a key is replaced, and the symbol put in place. -/
def replaceLatest (m : Chronicle) (name : String) (source : Store.Replacement) :
    Except SymbolError (Chronicle × Store.Replies) :=
  match m.replacement source, m.latest name with
  | .error refusal, _ => .error refusal
  | .ok _, .error refusal => .error refusal
  | .ok symbol, .ok _ => .ok (m.amend name symbol, [.ok (.symbol symbol)])

/-- The chronicle after an action and the answers to its requests, or why it is refused. -/
def act (m : Chronicle) : Store.Action → Logged (Except Store.Refusal (Chronicle × Store.Replies))
  | .bind name typeName requests =>
    match SymbolType.ofName? typeName with
    | none => ⟨.error (.unknownType typeName), []⟩
    | some ty =>
      match m.bind name ty with
      | ⟨.ok (_, m), events⟩ => ⟨(m.answerLatest name requests).mapError .symbol, events⟩
      | ⟨.error refusal, events⟩ => ⟨.error (.symbol refusal), events⟩
  | .amend name requests => ⟨(m.answerLatest name requests).mapError .symbol, []⟩
  | .replace name source => ⟨(m.replaceLatest name source).mapError .symbol, []⟩

/-- The chronicle after an action, which is the same if the action is refused. -/
def after (m : Chronicle) (action : Store.Action) : Chronicle :=
  match (m.act action).value with
  | .ok (m, _) => m
  | .error _ => m

/-- The chronicle after actions in order. -/
def run (m : Chronicle) (actions : List Store.Action) : Chronicle := actions.foldl after m

/-! ## Places -/

theorem mem_places_iff {m : Chronicle} {name : String} {id : SymbolId} :
    id ∈ m.places name ↔ m.order[id.position]? = some name := by
  unfold places
  rw [List.mem_map, List.getElem?_eq_some_iff]
  constructor
  · rintro ⟨p, hp, rfl⟩
    obtain ⟨hlt, he⟩ := List.mem_idxsOf_iff_exists_getElem_pos.1 hp
    exact ⟨hlt, by simpa using he⟩
  · rintro ⟨hlt, he⟩
    exact ⟨id.position, List.mem_idxsOf_iff_exists_getElem_pos.2 ⟨hlt, by simpa using he⟩, rfl⟩

theorem pairwise_places (m : Chronicle) (name : String) :
    (m.places name).Pairwise (·.position < ·.position) :=
  List.pairwise_map.2 List.pairwise_idxsOf

theorem nodup_places (m : Chronicle) (name : String) : (m.places name).Nodup :=
  (m.pairwise_places name).imp fun hlt he => by rw [he] at hlt; exact Nat.lt_irrefl _ hlt

@[simp] theorem length_places (m : Chronicle) (name : String) :
    (m.places name).length = m.order.count name := by
  unfold places
  rw [List.length_map, List.length_idxsOf]

theorem places_eq_nil_iff {m : Chronicle} {name : String} :
    m.places name = [] ↔ name ∉ m.order := by
  rw [← List.length_eq_zero_iff, length_places, List.count_eq_zero]

theorem getElem?_places {m : Chronicle} {name : String} {p : Nat}
    (h : m.order[p]? = some name) :
    (m.places name)[(m.order.take p).count name]? = some ⟨p⟩ := by
  obtain ⟨hlt, he⟩ := List.getElem?_eq_some_iff.1 h
  have hsplit : m.order = m.order.take p ++ name :: m.order.drop (p + 1) := by
    rw [← he, ← List.drop_eq_getElem_cons hlt, List.take_append_drop]
  have hplaces : m.order.idxsOf name =
      (m.order.take p).idxsOf name ++ p :: (m.order.drop (p + 1)).idxsOf name (p + 1) := by
    conv => lhs; rw [hsplit, List.idxsOf_append, List.idxsOf_cons]
    simp [Nat.min_eq_left (Nat.le_of_lt hlt)]
  unfold places
  rw [← List.length_idxsOf, List.getElem?_map, hplaces, List.getElem?_append_right (Nat.le_refl _),
    Nat.sub_self, List.getElem?_cons_zero, Option.map_some]

theorem places_push_self (m : Chronicle) (name : String) (symbol : Symbol) :
    (m.push name symbol).places name = m.places name ++ [⟨m.order.length⟩] := by
  simp [places, push, List.idxsOf_append]

theorem places_push_of_ne (m : Chronicle) {name other : String} (symbol : Symbol)
    (hne : other ≠ name) : (m.push name symbol).places other = m.places other := by
  simp [places, push, List.idxsOf_append, Ne.symm hne]

@[simp] theorem places_amend (m : Chronicle) (name other : String) (symbol : Symbol) :
    (m.amend name symbol).places other = m.places other := rfl

/-! ## Histories -/

theorem history_push_self (m : Chronicle) (name : String) (symbol : Symbol) :
    (m.push name symbol).history name = m.history name ++ [symbol] := if_pos rfl

theorem history_push_of_ne (m : Chronicle) {name other : String} (symbol : Symbol)
    (hne : other ≠ name) : (m.push name symbol).history other = m.history other := if_neg hne

theorem history_amend_self (m : Chronicle) (name : String) (symbol : Symbol) :
    (m.amend name symbol).history name = (m.history name).dropLast ++ [symbol] := if_pos rfl

theorem history_amend_of_ne (m : Chronicle) {name other : String} (symbol : Symbol)
    (hne : other ≠ name) : (m.amend name symbol).history other = m.history other := if_neg hne

theorem amend_push (m : Chronicle) (name : String) (first second : Symbol) :
    (m.push name first).amend name second = m.push name second := by
  unfold push amend
  congr 1
  funext key
  by_cases h : key = name <;> simp [h]

/-! ## What an action does -/

theorem after_of_error {m : Chronicle} {action : Store.Action} {refusal : Store.Refusal}
    (h : (m.act action).value = .error refusal) : m.after action = m := by
  unfold after
  rw [h]

/-- Every action is refused and changes nothing, or binds one entry, or puts one symbol in the
place of the newest one of its key. -/
theorem after_cases (m : Chronicle) (action : Store.Action) :
    ((∃ refusal, (m.act action).value = .error refusal) ∧ m.after action = m) ∨
    (∃ name typeName requests ty symbol, action = .bind name typeName requests ∧
      SymbolType.ofName? typeName = some ty ∧ m.successor name ty = .ok symbol ∧
      m.after action = m.push name (symbol.answerAll requests).1) ∨
    (∃ name requests symbol, action = .amend name requests ∧ m.latest name = .ok symbol ∧
      m.after action = m.amend name (symbol.answerAll requests).1) ∨
    ∃ name source symbol old, action = .replace name source ∧ m.replacement source = .ok symbol ∧
      m.latest name = .ok old ∧ m.after action = m.amend name symbol := by
  cases action with
  | bind name typeName requests =>
    cases hty : SymbolType.ofName? typeName with
    | none =>
      have h : (m.act (.bind name typeName requests)).value = .error (.unknownType typeName) := by
        simp only [act, hty]
      exact .inl ⟨⟨_, h⟩, after_of_error h⟩
    | some ty =>
      cases hs : m.successor name ty with
      | error refusal =>
        have h : (m.act (.bind name typeName requests)).value = .error (.symbol refusal) := by
          simp only [act, hty, bind, hs]
        exact .inl ⟨⟨_, h⟩, after_of_error h⟩
      | ok symbol =>
        refine .inr (.inl ⟨name, typeName, requests, ty, symbol, rfl, hty, hs, ?_⟩)
        have hlatest : (m.push name symbol).latest name = .ok symbol := by
          simp [latest, history_push_self]
        simp only [after, act, hty, bind, hs, answerLatest, hlatest, Except.map, Except.mapError,
          amend_push]
  | amend name requests =>
    cases hl : m.latest name with
    | error refusal =>
      have h : (m.act (.amend name requests)).value = .error (.symbol refusal) := by
        simp only [act, answerLatest, hl, Except.map, Except.mapError]
      exact .inl ⟨⟨_, h⟩, after_of_error h⟩
    | ok symbol =>
      refine .inr (.inr (.inl ⟨name, requests, symbol, rfl, hl, ?_⟩))
      simp only [after, act, answerLatest, hl, Except.map, Except.mapError]
  | replace name source =>
    cases hr : m.replacement source with
    | error refusal =>
      have h : (m.act (.replace name source)).value = .error (.symbol refusal) := by
        simp only [act, replaceLatest, hr, Except.mapError]
      exact .inl ⟨⟨_, h⟩, after_of_error h⟩
    | ok symbol =>
      cases hl : m.latest name with
      | error refusal =>
        have h : (m.act (.replace name source)).value = .error (.symbol refusal) := by
          simp only [act, replaceLatest, hr, hl, Except.mapError]
        exact .inl ⟨⟨_, h⟩, after_of_error h⟩
      | ok old =>
        refine .inr (.inr (.inr ⟨name, source, symbol, old, rfl, hr, hl, ?_⟩))
        simp only [after, act, replaceLatest, hr, hl, Except.mapError]

theorem getLast?_eq_of_latest {m : Chronicle} {name : String} {symbol : Symbol}
    (h : m.latest name = .ok symbol) : (m.history name).getLast? = some symbol := by
  unfold latest at h
  split at h
  · cases h
    assumption
  · cases h

/-- The symbol that a bind adds is a first version, or it comes after the newest one. -/
theorem successor_cases {m : Chronicle} {name : String} {ty : SymbolType} {symbol : Symbol}
    (h : m.successor name ty = .ok symbol) :
    (m.history name = [] ∧ symbol = .declare name ty) ∨
    ∃ newest, (m.history name).getLast? = some newest ∧ newest.type = ty ∧
      symbol = newest.next := by
  unfold successor at h
  split at h
  · rename_i newest hlast
    split at h
    · rename_i hty
      cases h
      exact .inr ⟨newest, hlast, hty, rfl⟩
    · cases h
  · rename_i hlast
    cases h
    exact .inl ⟨List.getLast?_eq_none_iff.1 hlast, rfl⟩

/-- A bind that is carried out adds one entry of its name. -/
theorem after_bind {m : Chronicle} {name typeName : String} {requests : List Symbol.Request}
    {out : Chronicle × Store.Replies} (h : (m.act (.bind name typeName requests)).value = .ok out) :
    ∃ ty symbol, SymbolType.ofName? typeName = some ty ∧ m.successor name ty = .ok symbol ∧
      m.after (.bind name typeName requests) = m.push name (symbol.answerAll requests).1 := by
  rcases m.after_cases (.bind name typeName requests) with ⟨⟨refusal, he⟩, -⟩ |
    ⟨_, _, _, ty, symbol, he, hty, hs, hafter⟩ | ⟨_, _, _, he, -⟩ | ⟨_, _, _, _, he, -⟩
  · rw [he] at h
    cases h
  · cases he
    exact ⟨ty, symbol, hty, hs, hafter⟩
  · cases he
  · cases he

/-- Without replacement a history stays, or one symbol is added to it, or its newest symbol is
edited. -/
theorem history_after_cases {m : Chronicle} {action : Store.Action}
    (hplain : action.replaces = false) (name : String) :
    (m.after action).history name = m.history name ∨
    (∃ ty symbol edited, m.successor name ty = .ok symbol ∧ symbol.Keeps edited ∧
      (m.after action).history name = m.history name ++ [edited]) ∨
    ∃ older newest edited, m.history name = older ++ [newest] ∧ newest.Keeps edited ∧
      (m.after action).history name = older ++ [edited] := by
  rcases m.after_cases action with ⟨-, h⟩ | ⟨key, _, requests, ty, symbol, -, -, hsucc, h⟩ |
    ⟨key, requests, symbol, -, hlatest, h⟩ | ⟨_, _, _, _, rfl, -⟩
  · exact .inl (by rw [h])
  · rw [h]
    by_cases hk : name = key
    · subst hk
      exact .inr (.inl ⟨ty, symbol, _, hsucc, symbol.keeps_answerAll requests,
        m.history_push_self name _⟩)
    · exact .inl (m.history_push_of_ne _ hk)
  · rw [h]
    by_cases hk : name = key
    · subst hk
      exact .inr (.inr ⟨_, symbol, _,
        (List.dropLast_append_getLast? _ (getLast?_eq_of_latest hlatest)).symm,
        symbol.keeps_answerAll requests, m.history_amend_self name _⟩)
    · exact .inl (m.history_amend_of_ne _ hk)
  · cases hplain

/-- The order of binding only grows. -/
theorem order_prefix_after (m : Chronicle) (action : Store.Action) :
    m.order <+: (m.after action).order := by
  rcases m.after_cases action with ⟨-, h⟩ | ⟨name, _, _, _, _, -, -, -, h⟩ | ⟨_, _, _, -, -, h⟩ |
    ⟨_, _, _, _, -, -, -, h⟩
  · exact ⟨[], by simp [h]⟩
  · exact ⟨[name], by simp [h, push]⟩
  · exact ⟨[], by simp [h, amend]⟩
  · exact ⟨[], by simp [h, amend]⟩

theorem order_prefix_run (m : Chronicle) (actions : List Store.Action) :
    m.order <+: (m.run actions).order := by
  induction actions generalizing m with
  | nil => exact List.prefix_rfl
  | cons action rest ih => exact (m.order_prefix_after action).trans (ih (m.after action))

/-- Only an attempt to bind can add an entry, and it adds at most one. -/
theorem length_order_after_le (m : Chronicle) (action : Store.Action) :
    (m.after action).order.length ≤ m.order.length + if action.binds then 1 else 0 := by
  rcases m.after_cases action with ⟨-, h⟩ | ⟨_, _, _, _, _, rfl, -, -, h⟩ | ⟨_, _, _, -, -, h⟩ |
    ⟨_, _, _, _, -, -, -, h⟩ <;> rw [h]
  · exact Nat.le_add_right _ _
  · exact Nat.le_of_eq List.length_append
  · exact Nat.le_add_right _ _
  · exact Nat.le_add_right _ _

theorem length_order_run_le (m : Chronicle) (actions : List Store.Action) :
    (m.run actions).order.length ≤ m.order.length + actions.countP Store.Action.binds := by
  induction actions generalizing m with
  | nil => exact Nat.le_refl _
  | cons action rest ih =>
    have hstep := m.length_order_after_le action
    have hrest := ih (m.after action)
    rw [List.countP_cons]
    exact Nat.le_trans hrest (by omega)

end Chronicle

end WireLedger
