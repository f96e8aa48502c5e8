import WireLedger.Proofs.Symbol.InPlace
import WireLedger.Store.Session
/-!
# Actions in place are all or nothing

A bind compares types before it tells of anything and before it writes; an amendment and a
replacement find all their symbols before they write. So a refused action leaves the store as it
was, and any other action leaves what it comes to.

Results:
* `InPlace.run_bind`, `perform_eq`: binding and acting in place are settled.
* `after_eq`, `Session.step_act`: what an action leaves in a store and in a session.
-/
namespace WireLedger.Store

variable {ε α γ : Type} {s : Store}

namespace InPlace

/-- A failed check ends what it begins, with nothing changed and nothing told. -/
theorem run_check {check : Store → Except ε γ} {next : Store → γ → Change ε α} (s : Store) :
    (get >>= fun t => liftM (check t) >>= next t : Change ε α).run.run s =
      match check s with
      | .ok c => (next s c).run.run s
      | .error e => pure (.error e, s) := by
  show (ExceptT.bindCont (m := StateT Store Logged) (next s) (check s)).run s = _
  cases check s <;> rfl

theorem run_adapt (change : Change SymbolError α) (s : Store) :
    (change.adapt Refusal.symbol).run.run s =
      (fun r => (r.1.mapError Refusal.symbol, r.2)) <$> change.run.run s :=
  congrArg (Logged.mk _) (List.append_nil _)

/-- The types are compared before the new version is told of and added. -/
theorem run_bind (name : String) (ty : SymbolType) (s : Store) :
    (bind name ty).run.run s = settled s <$> s.bind name ty := by
  unfold bind Store.bind
  rw [run_check]
  cases s.successor name ty <;> rfl

theorem run_bind_of_error {name : String} {ty : SymbolType} {refusal : SymbolError}
    (h : ((bind name ty).run.run s).value.1 = .error refusal) :
    (bind name ty).run.run s = pure (.error refusal, s) := by
  rw [run_bind, Store.bind] at h ⊢
  cases hs : s.successor name ty with
  | ok symbol =>
    rw [hs] at h
    cases h
  | error e =>
    rw [hs] at h
    cases h
    rfl

end InPlace

/-- An action in place leaves what it comes to, or the store as it was if it is refused. -/
theorem perform_eq (s : Store) (action : Action) : s.perform action =
    (fun outcome => settled s (Prod.swap <$> outcome)) <$> s.act action := by
  unfold perform
  cases action with
  | bind name text rs =>
    cases hty : SymbolType.ofName? text with
    | none =>
      simp only [InPlace.act, act, hty]
      rfl
    | some ty =>
      simp only [InPlace.act, act, hty]
      rw [ExceptT.run_bind, StateT.run_bind, InPlace.run_adapt, InPlace.run_bind]
      obtain ⟨refusal | ⟨id, t⟩, events⟩ := s.bind name ty <;> rfl
  | amend name rs =>
    simp only [InPlace.act, act]
    rw [InPlace.run_check]
    cases s.latestId name <;> rfl
  | replace name source =>
    simp only [InPlace.act, act]
    rw [InPlace.run_check]
    cases s.replacement source with
    | error refusal => rfl
    | ok symbol =>
      show (get >>= fun t => liftM ((t.latestId name).mapError Refusal.symbol) >>= _ :
        Change Refusal Replies).run.run s = _
      rw [InPlace.run_check]
      cases s.latestId name <;> rfl

theorem events_perform (s : Store) (action : Action) :
    (s.perform action).events = (s.act action).events := by
  rw [perform_eq, Logged.events_map]

theorem after_eq (s : Store) (action : Action) : s.after action =
    match (s.act action).value with
    | .ok (t, _) => t
    | .error _ => s := by
  rw [after, perform_eq, Logged.value_map]
  cases (s.act action).value <;> rfl

theorem runEvents_cons (s : Store) (action : Action) (rest : List Action) :
    s.runEvents (action :: rest) = (s.act action).events ++ (s.after action).runEvents rest := by
  rw [runEvents, events_perform]

namespace Session

/-- The store in use stands in its place. -/
theorem set_store (session : Session) :
    session.stores.set session.current session.store = session.stores := by
  cases hs : session.stores[session.current]? with
  | none => exact List.set_eq_of_length_le (List.getElem?_eq_none_iff.1 hs)
  | some s =>
    rw [store, List.getD_eq_getElem?_getD, hs, Option.getD_some]
    exact set_of_getElem? hs

theorem withStore_store (session : Session) : session.withStore session.store = session := by
  rw [withStore, set_store]

theorem step_act (session : Session) (action : Action) : session.step (.act action) = (do
    match ← session.store.act action with
    | .ok (s, replies) => return (session.withStore s, .replies replies)
    | .error refusal => return (session, .refused refusal)) := by
  rw [step, perform_eq]
  obtain ⟨refusal | ⟨s, replies⟩, events⟩ := session.store.act action
  · show Logged.mk (session.withStore session.store, _) _ = _
    rw [withStore_store]
    rfl
  · rfl

end Session

end WireLedger.Store
