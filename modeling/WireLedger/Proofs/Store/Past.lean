import WireLedger.Proofs.Store.Acting
import WireLedger.Proofs.Store.Clones
import WireLedger.Proofs.Symbol.Past
/-!
# The past of what a store holds

Beside the arena of a store stand the pasts of its symbols, in the same places. A bind adds the past
of the newest version, derived once more, or that of a first version; requests go on with the past
of the symbol that answers them; a replacement brings its own past along, unless it was made
elsewhere. A refused action is not recorded.

Results:
* `Recorded.successor`, `Recorded.replacement`: the past of what a bind or a replacement puts in.
* `Recorded.after`: after an action the symbols are what their pasts tell.
* `Session.Recorded.after`: so they are in all stores of a session after a step.
-/
namespace WireLedger.Store

/-! ## Pasts along actions -/

/-- Whether an action makes what it puts into the store from the store alone. -/
def Action.own : Action → Bool
  | replace _ (.given _) => false
  | _ => true

/-- The handle at a place of the history of a name. -/
def place? (s : Store) (name : String) (v : UInt32) : Option SymbolId :=
  match s.history name with
  | .ok ids => ids[v.toNat]?
  | .error _ => none

/-- The past of the newest version of a name. -/
def pastOfLatest? (s : Store) (pasts : List Symbol.Past) (name : String) : Option Symbol.Past :=
  match s.latestId name with
  | .ok id => pasts[id.position]?
  | .error _ => none

/-- The past of the symbol that binding `name` as `ty` would add. -/
def pastOfBind (s : Store) (pasts : List Symbol.Past) (name : String) (ty : SymbolType) :
    Symbol.Past :=
  ((s.pastOfLatest? pasts name).map .next).getD (.declared ty)

/-- The past of the symbol that a replacement stands for. Of one made elsewhere nothing is known. -/
def pastOf? (s : Store) (pasts : List Symbol.Past) : Replacement → Option Symbol.Past
  | .given _ => none
  | .declare _ ty => some (.declared ty)
  | .copy name v => (s.place? name v).bind fun id => pasts[id.position]?
  | .next name v => ((s.place? name v).bind fun id => pasts[id.position]?).map .next

/-- The pasts once a symbol with that past is in the place of the newest version of a name. -/
def recordPut (s : Store) (pasts : List Symbol.Past) (name : String) (past : Symbol.Past) :
    List Symbol.Past :=
  match s.latestId name with
  | .ok id => pasts.set id.position past
  | .error _ => pasts

/-- The pasts after an action. -/
def record (s : Store) (pasts : List Symbol.Past) : Action → List Symbol.Past
  | .bind name typeName rs =>
    match SymbolType.ofName? typeName with
    | some ty =>
      match s.successor name ty with
      | .ok symbol => pasts ++ [(s.pastOfBind pasts name ty).answerAll symbol rs]
      | .error _ => pasts
    | none => pasts
  | .amend name rs =>
    match s.latestId name with
    | .ok id =>
      match s.get? id with
      | some symbol => pasts.modify id.position (·.answerAll symbol rs)
      | none => pasts
    | .error _ => pasts
  | .replace name source =>
    match s.pastOf? pasts source with
    | some past => s.recordPut pasts name past
    | none => pasts

/-- Each symbol of the store is what the past in its place tells. -/
def Recorded (s : Store) (pasts : List Symbol.Past) : Prop :=
  List.Forall₂ Symbol.Past.Tells pasts s.arena.toList

variable {s : Store} {pasts : List Symbol.Past} {past : Symbol.Past} {symbol : Symbol}
  {name : String}

theorem toOption_latest (s : Store) (name : String) : (s.latest name).toOption =
    match s.latestId name with
    | .ok id => s.get? id
    | .error _ => none := by
  unfold latest
  cases s.latestId name with
  | error refusal => rfl
  | ok id =>
    show Except.toOption (match s.get? id with
      | some symbol => .ok symbol
      | none => .error _) = _
    split <;> rename_i h <;> exact h.symm

theorem toOption_version (s : Store) (name : String) (v : UInt32) :
    (s.version name v).toOption = (s.place? name v).bind s.get? := by
  unfold version place?
  cases s.history name with
  | error refusal => rfl
  | ok ids =>
    show Except.toOption (match ids[v.toNat]?.bind s.get? with
      | some symbol => .ok symbol
      | none => .error _) = _
    split <;> rename_i h <;> exact h.symm

theorem after_replace {source : Replacement} (hs : s.replacement source = .ok symbol) :
    s.after (.replace name source) =
      match s.latestId name with
      | .ok id => s.set id symbol
      | .error _ => s := by
  simp only [after_eq, act, hs]
  cases s.latestId name <;> rfl

theorem after_replace_of_error {source : Replacement} {e : SymbolError}
    (hs : s.replacement source = .error e) : s.after (.replace name source) = s := by
  simp only [after_eq, act, hs]
  rfl

namespace Recorded

theorem get? (h : s.Recorded pasts) (id : SymbolId) :
    Option.Rel Symbol.Past.Tells pasts[id.position]? (s.get? id) := by
  rw [Store.get?, ← Array.getElem?_toList]
  exact optionRel_getElem? h id.position

theorem push (h : s.Recorded pasts) (hp : past.Tells symbol) :
    (s.push name symbol).Recorded (pasts ++ [past]) := by
  unfold Recorded Store.push
  rw [Array.toList_push]
  exact List.rel_append h (.cons hp .nil)

theorem set (h : s.Recorded pasts) (id : SymbolId) (hp : past.Tells symbol) :
    (s.set id symbol).Recorded (pasts.set id.position past) := by
  unfold Recorded Store.set
  rw [Array.toList_setIfInBounds]
  exact forall₂_set h id.position hp

theorem modify (h : s.Recorded pasts) {id : SymbolId} {edited : Symbol}
    {f : Symbol.Past → Symbol.Past} (hid : s.get? id = some symbol)
    (hf : ∀ past : Symbol.Past, past.Tells symbol → (f past).Tells edited) :
    (s.set id edited).Recorded (pasts.modify id.position f) := by
  unfold Recorded Store.set
  rw [Array.toList_setIfInBounds]
  rw [Store.get?, ← Array.getElem?_toList] at hid
  exact forall₂_modify_set h hid hf

theorem latest (h : s.Recorded pasts) (name : String) :
    Option.Rel Symbol.Past.Tells (s.pastOfLatest? pasts name) (s.latest name).toOption := by
  rw [toOption_latest]
  unfold pastOfLatest?
  cases s.latestId name with
  | error refusal => exact .none
  | ok id => exact h.get? id

theorem version (h : s.Recorded pasts) (name : String) (v : UInt32) :
    Option.Rel Symbol.Past.Tells ((s.place? name v).bind fun id => pasts[id.position]?)
      (s.version name v).toOption := by
  rw [toOption_version]
  cases s.place? name v with
  | none => exact .none
  | some id => exact h.get? id

/-- The past of the symbol that a bind adds. -/
theorem successor (h : s.Recorded pasts) {ty : SymbolType}
    (hs : s.successor name ty = .ok symbol) : (s.pastOfBind pasts name ty).Tells symbol := by
  have hrel := h.latest name
  unfold pastOfBind
  rcases successor_cases hs with ⟨⟨refusal, hl⟩, rfl⟩ | ⟨newest, hl, -, rfl⟩
  · rw [hl] at hrel
    rw [eq_none_of_optionRel_none hrel]
    exact Symbol.Past.tells_declared name ty
  · rw [hl] at hrel
    obtain ⟨past, hp, hpast⟩ := exists_of_optionRel_some hrel
    rw [hp]
    exact hpast.next

/-- The past of what a replacement stands for, if it is made from the store alone. -/
theorem replacement (h : s.Recorded pasts) {source : Replacement}
    (hown : (Action.replace name source).own = true) :
    Option.Rel Symbol.Past.Tells (s.pastOf? pasts source) (s.replacement source).toOption := by
  cases source with
  | given symbol => cases hown
  | declare other ty => exact .some (Symbol.Past.tells_declared other ty)
  | copy other v => exact h.version other v
  | next other v =>
    have hnext := optionRel_map (h.version other v) fun _ _ hpast => hpast.next
    simp only [Store.replacement]
    cases hv : s.version other v with
    | ok symbol => rwa [hv] at hnext
    | error refusal => rwa [hv] at hnext

/-- A symbol is put in the place of another, and takes its past along. -/
theorem replace (h : s.Recorded pasts) {source : Replacement}
    (hs : s.replacement source = .ok symbol) (hp : past.Tells symbol) :
    (s.after (.replace name source)).Recorded (s.recordPut pasts name past) := by
  rw [after_replace hs]
  unfold recordPut
  cases s.latestId name with
  | ok id => exact h.set id hp
  | error refusal => exact h

theorem after (h : s.Recorded pasts) {action : Action} (hown : action.own = true) :
    (s.after action).Recorded (s.record pasts action) := by
  cases action with
  | bind name typeName rs =>
    cases hty : SymbolType.ofName? typeName with
    | none =>
      simp only [after_eq, act, record, hty]
      exact h
    | some ty =>
      cases hs : s.successor name ty with
      | error refusal =>
        simp only [after_eq, act, record, hty, bind, hs]
        exact h
      | ok symbol =>
        simp only [after_eq, act_bind hty hs, record, hty, hs]
        exact h.push ((h.successor hs).answerAll rs)
  | amend name rs =>
    cases hid : s.latestId name with
    | error refusal =>
      simp only [after_eq, act, record, hid]
      exact h
    | ok id =>
      cases hget : s.get? id with
      | none =>
        -- a handle that leads nowhere: there is nothing to answer the requests
        simp only [after_eq, act, record, hid, answerAt, hget]
        exact h
      | some symbol =>
        simp only [after_amend hid hget, record, hid, hget]
        exact h.modify hget fun _ hpast => hpast.answerAll rs
  | replace name source =>
    have hrel := h.replacement hown
    cases hs : s.replacement source with
    | error refusal =>
      rw [hs] at hrel
      simp only [record, eq_none_of_optionRel_none hrel, after_replace_of_error hs]
      exact h
    | ok symbol =>
      rw [hs] at hrel
      obtain ⟨past, hp, hpast⟩ := exists_of_optionRel_some hrel
      simp only [record, hp]
      exact h.replace hs hpast

end Recorded

/-! ## Pasts along a session -/

namespace Session

/-- Whether a step makes what it puts into a store from that store alone. -/
def Step.own : Step → Bool
  | act action => action.own
  | _ => true

/-- The pasts of the symbols of the store in use. -/
def pastsInUse (session : Session) (records : List (List Symbol.Past)) : List Symbol.Past :=
  records.getD session.current []

/-- The pasts of all stores after a step; a copy of a store takes the pasts along. -/
def record (session : Session) (records : List (List Symbol.Past)) :
    Step → List (List Symbol.Past)
  | .act action =>
    records.set session.current (session.store.record (session.pastsInUse records) action)
  | .clone => records ++ [session.pastsInUse records]
  | .create => records ++ [[]]
  | _ => records

/-- The pasts of all stores once a symbol with that past is put into the store in use. -/
def recordPut (session : Session) (records : List (List Symbol.Past)) (name : String)
    (past : Symbol.Past) : List (List Symbol.Past) :=
  records.set session.current (session.store.recordPut (session.pastsInUse records) name past)

/-- Each store holds what the pasts in its place tell. -/
def Recorded (session : Session) (records : List (List Symbol.Past)) : Prop :=
  List.Forall₂ (fun pasts s => s.Recorded pasts) records session.stores

variable {session : Session} {records : List (List Symbol.Past)}

theorem recorded_start : start.Recorded [[]] := .cons .nil .nil

theorem Recorded.store (h : session.Recorded records) :
    session.store.Recorded (session.pastsInUse records) := by
  have hrel := optionRel_getElem? h session.current
  unfold Session.store pastsInUse
  rw [List.getD_eq_getElem?_getD, List.getD_eq_getElem?_getD]
  cases hs : session.stores[session.current]? with
  | none =>
    rw [hs] at hrel
    rw [eq_none_of_optionRel_none hrel]
    exact .nil
  | some s =>
    rw [hs] at hrel
    obtain ⟨pasts, hp, hstore⟩ := exists_of_optionRel_some hrel
    rw [hp]
    exact hstore

/-- The store in use is replaced, and its pasts with it. -/
theorem Recorded.act (h : session.Recorded records) {action : Action}
    {pasts : List Symbol.Past} (ha : (session.store.after action).Recorded pasts) :
    (session.after (.act action)).Recorded (records.set session.current pasts) := by
  unfold Recorded
  rw [stores_after_act]
  exact forall₂_set h session.current ha

theorem Recorded.put (h : session.Recorded records) {symbol : Symbol} {past : Symbol.Past}
    (hp : past.Tells symbol) (name : String) :
    (session.after (.act (.replace name (.given symbol)))).Recorded
      (session.recordPut records name past) := h.act (h.store.replace rfl hp)

theorem Recorded.after (h : session.Recorded records) {step : Step} (hown : step.own = true) :
    (session.after step).Recorded (session.record records step) := by
  cases step with
  | act action => exact h.act (h.store.after hown)
  | clone => exact List.rel_append h (.cons h.store .nil)
  | create => exact List.rel_append h (.cons .nil .nil)
  | save name | get handle | compare left right | use number =>
    simp only [Session.after, Session.step]
    split <;> exact h
  | _ => exact h

end Session

end WireLedger.Store
