import WireLedger.Proofs.Store.Clones
import WireLedger.Proofs.Store.Fault
/-!
# Failing steps are atomic

A refused step leaves the session as it was, and nothing is told of it. Nothing takes back what a
step wrote before it was refused: binds, edits and the binding of wires are done in place, and they
are all or nothing because their checks come first. An action that is carried out may still have
some of its requests declined; these count as if they had not been made.

Results:
* `step_of_refused`: a refused step changes nothing and emits nothing.
* `grants_of_worksOn`: what becomes of an action when some of its requests are declined.
* `atomic_run`: all of this in every session that a run leads to, with the faults that there are.
-/
namespace WireLedger.Store

/-! ## Refused steps -/

theorem checkFor_of_error {s : Store} {name : String} {e : SymbolError}
    (h : (s.checkFor name).value = .error e) : s.checkFor name = return .error e := by
  unfold checkFor at h ⊢
  split at h
  · cases h
  · exact congrArg pure h

namespace Session

variable {session : Session} {step : Step} {refusal : Refusal} {m : Chronicle}

/-- A refused step leaves the session as it was, and nothing is told of it. -/
theorem step_of_refused (hm : session.store.Represents m)
    (h : (session.step step).value.2 = .refused refusal) :
    session.step step = return (session, .refused refusal) := by
  cases step with
  | act action =>
    rw [step_act, (hm.act_of_error (act_refused_iff.1 h)).1]
    rfl
  | checkFor name =>
    obtain ⟨e, he, rfl⟩ := (ofExcept_eq_refused_iff (by simp)).1 h
    simp only [Session.step, checkFor_of_error he]
    rfl
  | save name =>
    simp only [Session.step] at h ⊢
    split at h
    · cases h
    · cases h
      rfl
  | require name | latestVersion name | latest name | version name v | versions name =>
    exact congrArg (fun reply => pure (session, reply)) h
  | get handle | compare left right | use number =>
    simp only [Session.step] at h
    split at h <;> cases h
  | _ => cases h

/-! ## Declined requests -/

/-- What becomes of an action that is carried out when some of its requests are declined. -/
structure Grants (session : Session) (action : Action) (replies : Replies) : Prop where
  /-- Each request has its reply. -/
  answered : replies.length = action.requests.length
  /-- The requests may as well be made in turn. -/
  inTurn : ∀ rs rs', session.store.after (action.asking (rs ++ rs')) =
    (session.store.after (action.asking rs)).after (.amend action.name rs')
  /-- A request is declined by the newest version as the requests in front of it left that. -/
  declined : ∀ (k : Nat) (r : Symbol.Request), action.requests[k]? = some r → ∃ symbol,
    (session.store.after (action.asking (action.requests.take k))).latest action.name = .ok symbol ∧
      ∀ e, replies[k]? = some (.error e) ↔ symbol.Declines r e
  /-- A declined request leaves everything as the requests in front of it did. -/
  unmoved : ∀ (k : Nat) (e : SymbolError), replies[k]? = some (.error e) →
    session.after (.act (action.asking (action.requests.take (k + 1)))) =
      session.after (.act (action.asking (action.requests.take k)))
  /-- The granted requests alone come to the same, and none of them is declined. -/
  granted : session.step (.act (action.asking (Symbol.granted action.requests replies))) =
    ⟨(session.after (.act action), .replies (replies.filter Except.isOk)),
      (session.step (.act action)).events⟩
  /-- Nothing is left of requests that are all declined. -/
  untouched : action.binds = false → (∀ reply ∈ replies, reply.isOk = false) →
    session.after (.act action) = session
  /-- A bind is told of once, whatever is requested, and nothing else is. -/
  told : ∀ rs, (session.step (.act (action.asking rs))).events.map Event.message =
    if action.binds then ["bound symbol"] else []

variable {action : Action} {base : Store} {id : SymbolId} {symbol : Symbol} {replies : Replies}

theorem step_of_worksOn (w : session.store.WorksOn action base id symbol)
    (rs : List Symbol.Request) : session.step (.act (action.asking rs)) =
      ⟨(session.withStore (base.set id (symbol.answerAll rs).1), .replies (symbol.answerAll rs).2),
        (session.store.act action).events⟩ := by
  have hnil := List.append_nil (session.store.act action).events
  simp only [step_act, w.act]
  exact congrArg (Logged.mk _) hnil

theorem after_of_worksOn (w : session.store.WorksOn action base id symbol)
    (rs : List Symbol.Request) : session.after (.act (action.asking rs)) =
      session.withStore (base.set id (symbol.answerAll rs).1) := by
  unfold Session.after
  rw [step_of_worksOn w]

theorem grants_of_worksOn (w : session.store.WorksOn action base id symbol) :
    session.Grants action (symbol.answerAll action.requests).2 where
  answered := symbol.length_answerAll _
  inTurn rs rs' := by
    rw [after_amend (w.latestId_after rs) (w.get?_after rs), w.after, w.after, set_set,
      Symbol.answerAll_append]
  declined k r hr := by
    refine ⟨(symbol.answerAll (action.requests.take k)).1, ?_, fun e => ?_⟩
    · exact latest_of_latestId (w.latestId_after _) (w.get?_after _)
    · rw [Symbol.getElem?_answerAll, hr, Option.map_some, Option.some_inj]
      exact Symbol.answer_eq_error_iff
  unmoved k e he := by
    rw [after_of_worksOn w, after_of_worksOn w, Symbol.answerAll_take_succ he]
  granted := by
    have hafter := after_of_worksOn w action.requests
    have hevents := congrArg Logged.events (step_of_worksOn w action.requests)
    rw [action.asking_requests] at hafter hevents
    rw [step_of_worksOn w, Symbol.answerAll_granted, hafter, hevents]
  untouched hbinds hnone := by
    have hafter := after_of_worksOn w action.requests
    rw [action.asking_requests, Symbol.answerAll_of_declined hnone, set_of_get? w.found,
      w.same hbinds] at hafter
    rw [hafter, withStore, session.set_store]
  told rs := by
    rw [step_of_worksOn w]
    exact w.told

/-- Every step of the session that fails is all or nothing. -/
structure Atomic (session : Session) : Prop where
  /-- A refused bind, done in place, has written nothing to the store and told of nothing. -/
  bound : ∀ name ty refusal,
    ((InPlace.bind name ty).run.run session.store).value.1 = .error refusal →
      (InPlace.bind name ty).run.run session.store = return (.error refusal, session.store)
  /-- A refused edit, done in place, has written nothing to the symbol, whichever that is. -/
  edited : ∀ e, (Symbol.InPlace.edit e).AllOrNothing
  /-- Nor has a refused binding of wires written to the bundle. -/
  wired : ∀ owner wires, (Bundle.InPlace.bind owner wires).AllOrNothing
  /-- The steps that are refused, and why. -/
  refused : ∀ step refusal,
    (session.step step).value.2 = .refused refusal ↔ Fault session.store step refusal
  /-- A refused step changes nothing and is not told of. -/
  unchanged : ∀ step refusal, (session.step step).value.2 = .refused refusal →
    session.after step = session ∧ (session.step step).events = []
  /-- Requests that are declined count as if they had not been made. -/
  grants : ∀ action replies, action.replaces = false →
    (session.step (.act action)).value.2 = .replies replies → session.Grants action replies

theorem Sound.atomic (h : session.Sound) : session.Atomic := by
  obtain ⟨m, hm⟩ := h.store
  refine ⟨fun _ _ _ => InPlace.run_bind_of_error, Symbol.InPlace.allOrNothing_edit,
    Bundle.InPlace.allOrNothing_bind, fun step refusal => refused_iff hm,
    fun step refusal hr => ?_, fun action replies hin hr => ?_⟩
  · unfold Session.after
    rw [step_of_refused hm hr]
    exact ⟨rfl, rfl⟩
  · obtain ⟨s, hact⟩ := exists_act_of_replies hr
    obtain ⟨base, id, symbol, w⟩ := hm.exists_worksOn hin hact
    rw [w.own] at hact
    cases hact
    exact grants_of_worksOn w

/-- Whatever was done to the stores of a session, a step that fails leaves them as they were. -/
theorem atomic_run (before : List Step) : (start.run before).Atomic :=
  (sound_start.run before).atomic

/-- The second edit is for arrays, so only the first one counts. -/
example : start.after (.act (.bind "key" "num" [.edit (.setWidth 2), .edit (.pushElement 3)])) =
    start.after (.act (.bind "key" "num" [.edit (.setWidth 2)])) := by decide

end Session

end WireLedger.Store
