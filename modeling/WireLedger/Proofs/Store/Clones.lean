import WireLedger.Proofs.Store.Handle
/-!
# Handles over several stores

The stores of a session go their own ways: what becomes of one depends on the actions on it alone.
So a handle taken in one store keeps resolving there whatever is done to the others, and a handle
taken before a copy was made resolves in the copy as well.

Results:
* `stores_run`: a store of a run is what the actions on it make of it.
* `Sound.run`: every store of a session stands for a chronicle.
* `handle_persists`: handles never dangle, superseded versions never change, copies are apart.
-/
namespace WireLedger.Store

/-- No action of the run changes the symbol of `id`. -/
def Leaves (s : Store) (id : SymbolId) : List Action → Prop
  | [] => True
  | action :: rest => (s.after action).get? id = s.get? id ∧ (s.after action).Leaves id rest

theorem get?_run_of_leaves {s : Store} {id : SymbolId} {actions : List Action}
    (h : s.Leaves id actions) : (s.run actions).get? id = s.get? id := by
  induction actions generalizing s with
  | nil => rfl
  | cons action rest ih => exact (ih h.2).trans h.1

namespace Session

/-! ## The actions on one store -/

/-- The action of a step on the store of that number. -/
def actionOn? (session : Session) (number : Nat) : Step → Option Action
  | .act action => if session.current = number then some action else none
  | _ => none

/-- The actions of steps on the store of that number, in order. -/
def actionsOn (session : Session) (number : Nat) : List Step → List Action
  | [] => []
  | step :: rest =>
    (session.actionOn? number step).toList ++ (session.after step).actionsOn number rest

theorem actionOn?_eq_some_iff {session : Session} {number : Nat} {step : Step} {action : Action} :
    session.actionOn? number step = some action ↔
      step = .act action ∧ session.current = number := by
  cases step <;> simp [actionOn?, and_comm]

theorem stores_after_act (session : Session) (action : Action) :
    (session.after (.act action)).stores =
      session.stores.set session.current (session.store.after action) := rfl

/-- A step is an action on the store in use, or it changes no store and adds at most one, a copy or
an empty one. -/
theorem stores_after_cases (session : Session) (step : Step) :
    (∃ action, step = .act action ∧ (session.after step).stores =
      session.stores.set session.current (session.store.after action)) ∨
    (∀ number, session.actionOn? number step = none) ∧
      ∃ added, (session.after step).stores = session.stores ++ added ∧
        ∀ s ∈ added, s = session.store ∨ s = .empty := by
  cases step with
  | act action => exact .inl ⟨action, rfl, session.stores_after_act action⟩
  | clone => exact .inr ⟨fun _ => rfl, [session.store], rfl, by simp⟩
  | create => exact .inr ⟨fun _ => rfl, [.empty], rfl, by simp⟩
  | save name | get handle | compare left right | use number =>
    refine .inr ⟨fun _ => rfl, [], ?_, nofun⟩
    simp only [Session.after, Session.step, List.append_nil]
    split <;> rfl
  | _ => exact .inr ⟨fun _ => rfl, [], (List.append_nil _).symm, nofun⟩

theorem store_of_stores {session : Session} {s : Store}
    (hs : session.stores[session.current]? = some s) : session.store = s := by
  rw [store, List.getD_eq_getElem?_getD, hs, Option.getD_some]

theorem stores_after {session : Session} {number : Nat} {s : Store}
    (hs : session.stores[number]? = some s) (step : Step) :
    (session.after step).stores[number]? =
      some (s.run (session.actionOn? number step).toList) := by
  have hlt := (List.getElem?_eq_some_iff.1 hs).1
  rcases session.stores_after_cases step with ⟨action, rfl, he⟩ | ⟨hnone, added, he, -⟩
  · rw [he, List.getElem?_set, actionOn?]
    split
    · rename_i hcur
      subst hcur
      rw [if_pos hlt, store_of_stores hs]
      rfl
    · exact hs
  · rw [he, List.getElem?_append_left hlt, hs, hnone]
    rfl

/-- A store of a run is what the actions on it make of it, whatever is done to the others. -/
theorem stores_run {session : Session} {number : Nat} {s : Store}
    (hs : session.stores[number]? = some s) (steps : List Step) :
    (session.run steps).stores[number]? = some (s.run (session.actionsOn number steps)) := by
  induction steps generalizing session s with
  | nil => exact hs
  | cons step rest ih =>
    have hrun := ih (stores_after hs step)
    rw [actionsOn, Store.run, List.foldl_append]
    exact hrun

/-! ## Every store stands for a chronicle -/

/-- Every store of the session stands for some chronicle. -/
def Sound (session : Session) : Prop := ∀ s ∈ session.stores, ∃ m, s.Represents m

theorem sound_start : start.Sound := by
  intro s hs
  rw [List.mem_singleton.1 hs]
  exact ⟨.empty, represents_empty⟩

theorem Sound.store {session : Session} (h : session.Sound) : ∃ m, session.store.Represents m := by
  unfold Session.store
  rw [List.getD_eq_getElem?_getD]
  cases hs : session.stores[session.current]? with
  | none => exact ⟨.empty, represents_empty⟩
  | some s => exact h s (List.mem_of_getElem? hs)

theorem Sound.after {session : Session} (h : session.Sound) (step : Step) :
    (session.after step).Sound := by
  intro s hs
  obtain ⟨m, hm⟩ := h.store
  rcases session.stores_after_cases step with ⟨action, -, he⟩ | ⟨-, added, he, hnew⟩
  · rw [he] at hs
    rcases List.mem_or_eq_of_mem_set hs with hs | rfl
    · exact h s hs
    · exact ⟨m.after action, hm.after action⟩
  · rw [he, List.mem_append] at hs
    rcases hs with hs | hs
    · exact h s hs
    · rcases hnew s hs with rfl | rfl
      · exact ⟨m, hm⟩
      · exact ⟨.empty, represents_empty⟩

theorem Sound.run {session : Session} (h : session.Sound) (steps : List Step) :
    (session.run steps).Sound := by
  induction steps generalizing session with
  | nil => exact h
  | cons step rest ih => exact ih (h.after step)

/-! ## What handles keep -/

/-- In store `number` the handle `id` keeps place `k` of the history of `name` and always resolves;
from the next bind of the name in that store on its symbol is fixed; before that only an action
which works on the newest version of the name in place, in that store, can change it. -/
structure Persists (session : Session) (number : Nat) (name : String) (k : Nat) (id : SymbolId) :
    Prop where
  resolves : ∀ steps, ∃ s symbol,
    (session.run steps).stores[number]? = some s ∧ s.Holds name k id symbol
  fixed : ∀ steps typeName requests replies, (session.run steps).current = number →
    ((session.run steps).step (.act (.bind name typeName requests))).value.2 = .replies replies →
    ∃ s symbol, (session.run steps).stores[number]? = some s ∧ s.get? id = some symbol ∧
      ∀ more, ∃ t, (((session.run steps).after
        (.act (.bind name typeName requests))).run more).stores[number]? = some t ∧
        t.Holds name k id symbol
  changed : ∀ steps step s t, (session.run steps).stores[number]? = some s →
    ((session.run steps).after step).stores[number]? = some t → t.get? id ≠ s.get? id →
    s.latestId name = .ok id ∧ (session.run steps).current = number ∧
      ∃ action, step = .act action ∧ action.reworked? = some name

/-- Once the store in use was copied, the original and the copy both keep the handle, each of them
is what the actions on it alone make of the store that was copied, and the symbol of the handle is
one and the same as long as neither changes it. -/
structure Splits (session : Session) (name : String) (k : Nat) (id : SymbolId) : Prop where
  original : (session.after .clone).Persists session.current name k id
  copy : (session.after .clone).Persists session.stores.length name k id
  apart : ∀ more, ((session.after .clone).run more).stores[session.current]? =
      some (session.store.run ((session.after .clone).actionsOn session.current more)) ∧
    ((session.after .clone).run more).stores[session.stores.length]? =
      some (session.store.run ((session.after .clone).actionsOn session.stores.length more))
  same : ∀ more,
    session.store.Leaves id ((session.after .clone).actionsOn session.current more) →
    session.store.Leaves id ((session.after .clone).actionsOn session.stores.length more) →
    ∃ s t symbol, ((session.after .clone).run more).stores[session.current]? = some s ∧
      ((session.after .clone).run more).stores[session.stores.length]? = some t ∧
      s.get? id = some symbol ∧ t.get? id = some symbol

/-- Store `number` stands for a chronicle in which the handle has that place. -/
def Bears (session : Session) (number : Nat) (name : String) (k : Nat) (id : SymbolId) : Prop :=
  ∃ s m, session.stores[number]? = some s ∧ s.Represents m ∧ (m.places name)[k]? = some id

variable {session : Session} {number : Nat} {name : String} {k : Nat} {id : SymbolId}

theorem Bears.run (h : session.Bears number name k id) (steps : List Step) :
    (session.run steps).Bears number name k id := by
  obtain ⟨s, m, hs, hm, hid⟩ := h
  exact ⟨_, _, stores_run hs steps, hm.run _, Chronicle.getElem?_places_run hid _⟩

theorem Bears.exists_holds (h : session.Bears number name k id) :
    ∃ s symbol, session.stores[number]? = some s ∧ s.Holds name k id symbol := by
  obtain ⟨s, m, hs, hm, hid⟩ := h
  exact ⟨s, _, hs, hm.holds hid (List.getElem?_eq_getElem (hm.lt_length_of_places hid))⟩

theorem exists_act_of_replies {action : Action} {replies : Replies}
    (h : (session.step (.act action)).value.2 = .replies replies) :
    ∃ s, (session.store.act action).value = .ok (s, replies) := by
  rw [step_act, Logged.value_bind] at h
  split at h
  · rename_i s replies' heq
    cases h
    exact ⟨s, heq⟩
  · cases h

/-- After a bind of its name was carried out, the symbol of a handle is fixed. -/
theorem Bears.fixed (h : session.Bears number name k id) (hcur : session.current = number)
    {typeName : String} {requests : List Symbol.Request} {replies : Replies}
    (hbind : (session.step (.act (.bind name typeName requests))).value.2 = .replies replies) :
    ∃ s symbol, session.stores[number]? = some s ∧ s.get? id = some symbol ∧
      ∀ more, ∃ t, ((session.after
        (.act (.bind name typeName requests))).run more).stores[number]? = some t ∧
        t.Holds name k id symbol := by
  obtain ⟨s, m, hs, hm, hid⟩ := h
  subst hcur
  obtain ⟨s', hact⟩ := exists_act_of_replies hbind
  rw [store_of_stores hs] at hact
  have hout := (hm.act (.bind name typeName requests)).2
  rw [hact] at hout
  obtain ⟨out, hmact, -⟩ := hout.exists_of_ok
  have hlt := hm.lt_length_of_places hid
  have hsymbol := List.getElem?_eq_getElem hlt
  refine ⟨s, _, hs, (hm.get?_eq_history hid).trans hsymbol, fun more => ?_⟩
  have hstores := stores_after hs (.act (.bind name typeName requests))
  rw [actionOn?, if_pos rfl] at hstores
  refine ⟨_, stores_run hstores more, ?_⟩
  have hmafter := hm.after (.bind name typeName requests)
  have hsuper : k + 1 < ((m.after (.bind name typeName requests)).history name).length := by
    rw [Chronicle.length_history_bind hmact]
    omega
  have hsame : ((m.after (.bind name typeName requests)).history name)[k]? =
      (m.history name)[k]? := Chronicle.getElem?_history_after hlt fun he => by cases he
  refine (hmafter.run _).holds ?_ ?_
  · exact Chronicle.getElem?_places_run (Chronicle.getElem?_places_run hid [_]) _
  · rw [hmafter.getElem?_history_run hsuper, hsame, hsymbol]

theorem Bears.changed (h : session.Bears number name k id) {step : Step} {s t : Store}
    (hs : session.stores[number]? = some s) (ht : (session.after step).stores[number]? = some t)
    (hne : t.get? id ≠ s.get? id) :
    s.latestId name = .ok id ∧ session.current = number ∧
      ∃ action, step = .act action ∧ action.reworked? = some name := by
  obtain ⟨s', m, hs', hm, hid⟩ := h
  rw [hs] at hs'
  cases hs'
  rw [stores_after hs step] at ht
  cases ht
  cases hact : session.actionOn? number step with
  | none =>
    rw [hact] at hne
    exact absurd rfl hne
  | some action =>
    rw [hact] at hne
    obtain ⟨hstep, hcur⟩ := actionOn?_eq_some_iff.1 hact
    obtain ⟨hlatest, hrework⟩ := hm.reworked_of_get?_after_ne hid hne
    exact ⟨hlatest, hcur, action, hstep, hrework⟩

theorem Bears.persists (h : session.Bears number name k id) :
    session.Persists number name k id where
  resolves steps := (h.run steps).exists_holds
  fixed steps _ _ _ hcur hbind := (h.run steps).fixed hcur hbind
  changed steps _ _ _ hs ht hne := (h.run steps).changed hs ht hne

theorem Bears.splits (h : session.Bears session.current name k id) : session.Splits name k id := by
  obtain ⟨s, m, hs, hm, hid⟩ := h
  have hstore := store_of_stores hs
  have hlt := (List.getElem?_eq_some_iff.1 hs).1
  have horiginal : (session.after .clone).stores[session.current]? = some s := by
    show (session.stores ++ [session.store])[session.current]? = some s
    rw [List.getElem?_append_left hlt, hs]
  have hcopy : (session.after .clone).stores[session.stores.length]? = some s := by
    show (session.stores ++ [session.store])[session.stores.length]? = some s
    rw [List.getElem?_concat_length, hstore]
  have hsymbol : s.get? id = some _ :=
    (hm.get?_eq_history hid).trans (List.getElem?_eq_getElem (hm.lt_length_of_places hid))
  have hparts more := And.intro (stores_run horiginal more) (stores_run hcopy more)
  rw [← hstore] at hparts
  refine ⟨Bears.persists ⟨s, m, horiginal, hm, hid⟩, Bears.persists ⟨s, m, hcopy, hm, hid⟩,
    hparts, fun more hleft hright => ?_⟩
  obtain ⟨hl, hr⟩ := hparts more
  rw [hstore] at hl hr hleft hright
  exact ⟨_, _, _, hl, hr, (get?_run_of_leaves hleft).trans hsymbol,
    (get?_run_of_leaves hright).trans hsymbol⟩

/-- A handle that a store of any session gave for the newest version of a name never dangles there,
and leads to one and the same symbol from the next bind of that name on. Copies keep it as well, and
go on apart from each other. -/
theorem handle_persists (before : List Step) (number : Nat) (s : Store) (name : String)
    (id : SymbolId) (hs : (start.run before).stores[number]? = some s)
    (hid : s.latestId name = .ok id) :
    ∃ k, (start.run before).Persists number name k id ∧
      ∀ steps, ((start.run before).run steps).current = number →
        ((start.run before).run steps).Splits name k id := by
  obtain ⟨m, hm⟩ := sound_start.run before s (List.mem_of_getElem? hs)
  have hbears : (start.run before).Bears number name ((m.history name).length - 1) id :=
    ⟨s, m, hs, hm, hm.places_of_latestId hid⟩
  refine ⟨_, hbears.persists, fun steps hcur => ?_⟩
  have hlater := hbears.run steps
  rw [← hcur] at hlater
  exact hlater.splits

/-- A handle is taken in the original, which then goes on; a copy was made before. -/
def copyThenSave : List Step :=
  [.act (.bind "key" "num" [.edit (.setWidth 1)]), .clone, .act (.bind "other" "func" []),
    .act (.amend "key" [.edit (.bindWires [⟨3⟩])]), .save "key"]

theorem handle_persists_copyThenSave :
    (start.run copyThenSave).saved = [⟨0⟩] ∧
    ∃ k, (start.run copyThenSave).Persists 0 "key" k ⟨0⟩ ∧
      ∀ steps, ((start.run copyThenSave).run steps).current = 0 →
        ((start.run copyThenSave).run steps).Splits "key" k ⟨0⟩ :=
  ⟨by decide, handle_persists copyThenSave 0 (start.run copyThenSave).store "key" ⟨0⟩ rfl
    (by decide)⟩

end Session

end WireLedger.Store
