import WireLedger.Proofs.Store.Acting
import WireLedger.Proofs.Symbol.Rewiring
import WireLedger.Store.Session
/-!
# Stores with other wires

A store leads from names to symbols and never looks at their wires: to rewire it and every request
first and to act then is the same as to act first and to rewire then. Handles, names, verdicts and
events are not touched at all, nor is the symbol that a bind adds.

Results:
* `latest_rewire` to `checkEach_rewire`: what becomes of queries.
* `successor_rewire`: the symbol that a bind adds stays the same.
* `act_rewire`, `Session.step_rewire`: what becomes of actions and of steps.
* `Session.run_rewire`, `Session.outcomes_rename`: what becomes of runs.
-/
namespace WireLedger.Store

variable {w : Rewiring}

/-- The store with other wires. -/
def rewire (w : Rewiring) (s : Store) : Store := { s with arena := s.arena.map (Symbol.rewire w) }

/-! ## Queries -/

theorem get?_rewire (s : Store) (id : SymbolId) :
    (s.rewire w).get? id = (s.get? id).map (Symbol.rewire w) := Array.getElem?_map

theorem index_rewire (s : Store) : (s.rewire w).index = s.index := rfl

theorem size_rewire (s : Store) : (s.rewire w).size = s.size := Array.size_map

@[simp] theorem rewire_empty : empty.rewire w = empty := by
  simp [rewire, empty]

theorem history_rewire (s : Store) (name : String) :
    (s.rewire w).history name = s.history name := rfl

theorem latestId_rewire (s : Store) (name : String) :
    (s.rewire w).latestId name = s.latestId name := rfl

theorem latest_rewire (s : Store) (name : String) :
    (s.rewire w).latest name = Symbol.rewire w <$> s.latest name := by
  simp only [latest, latestId_rewire, get?_rewire, map_bind]
  congr 1
  funext id
  cases s.get? id <;> rfl

theorem latestVersion_rewire (s : Store) (name : String) :
    (s.rewire w).latestVersion name = s.latestVersion name := by
  simp only [latestVersion, latest_rewire, bind_map_left, Symbol.version_rewire]

theorem bind_get?_rewire (s : Store) (id : Option SymbolId) :
    id.bind (s.rewire w).get? = (id.bind s.get?).map (Symbol.rewire w) := by
  cases id with
  | none => rfl
  | some id => exact s.get?_rewire id

theorem version_rewire (s : Store) (name : String) (v : UInt32) :
    (s.rewire w).version name v = Symbol.rewire w <$> s.version name v := by
  simp only [version, history_rewire, bind_get?_rewire, map_bind]
  congr 1
  funext ids
  cases ids[v.toNat]?.bind s.get? <;> rfl

theorem versions_rewire (s : Store) (name : String) :
    (s.rewire w).versions name = List.map (Symbol.rewire w) <$> s.versions name := by
  have hget : (s.rewire w).get? = fun id => (s.get? id).map (Symbol.rewire w) :=
    funext s.get?_rewire
  simp only [versions, history_rewire, map_bind, map_pure, hget, List.map_filterMap]

theorem isEmpty_rewire (s : Store) : (s.rewire w).isEmpty = s.isEmpty := by
  simp only [isEmpty, rewire, Array.isEmpty, Array.size_map]

/-! ## Consistency -/

theorem gapFrom?_rewire (s : Store) (name : String) (expected : Nat) (ids : List SymbolId) :
    (s.rewire w).gapFrom? name expected ids = s.gapFrom? name expected ids := by
  induction ids generalizing expected with
  | nil => rfl
  | cons id rest ih =>
    rw [gapFrom?, gapFrom?, get?_rewire]
    cases s.get? id with
    | none => exact ih (expected + 1)
    | some symbol => simp only [Option.map_some, Symbol.name_rewire, Symbol.version_rewire, ih]

theorem checkHistory_rewire (s : Store) (name : String) (ids : List SymbolId) :
    (s.rewire w).checkHistory name ids = s.checkHistory name ids := by
  simp only [checkHistory, gapFrom?_rewire]

theorem checkFor_rewire (s : Store) (name : String) :
    (s.rewire w).checkFor name = s.checkFor name := by
  simp only [checkFor, history_rewire, checkHistory_rewire]

theorem checkEach_rewire (s : Store) (entries : List (String × List SymbolId)) :
    (s.rewire w).checkEach entries = s.checkEach entries := by
  induction entries with
  | nil => rfl
  | cons entry rest ih => simp only [checkEach, checkHistory_rewire, ih]

theorem check_rewire (s : Store) : (s.rewire w).check = s.check := s.checkEach_rewire _

/-! ## Changes -/

/-- The symbol that a bind adds depends on the newest one without its wires. -/
theorem successor_rewire (s : Store) (name : String) (ty : SymbolType) :
    (s.rewire w).successor name ty = s.successor name ty := by
  unfold successor
  rw [latest_rewire]
  cases s.latest name with
  | error refusal => rfl
  | ok newest =>
    show (if (newest.rewire w).type = ty then _ else _) = if newest.type = ty then _ else _
    rw [Symbol.type_rewire, Symbol.next_rewire]

theorem push_rewire (s : Store) (name : String) (symbol : Symbol) :
    (s.rewire w).push name (symbol.rewire w) = (s.push name symbol).rewire w := by
  simp only [push, rewire, Array.map_push, Array.size_map]

theorem set_rewire (s : Store) (id : SymbolId) (symbol : Symbol) :
    (s.rewire w).set id (symbol.rewire w) = (s.set id symbol).rewire w := by
  simp only [set, rewire, Array.map_setIfInBounds]

/-- The replacement with other wires. -/
def Replacement.rewire (w : Rewiring) : Replacement → Replacement
  | .given symbol => .given (symbol.rewire w)
  | source => source

theorem replacement_rewire (s : Store) (source : Replacement) :
    (s.rewire w).replacement (source.rewire w) = Symbol.rewire w <$> s.replacement source := by
  cases source with
  | given symbol => rfl
  | declare name ty => exact congrArg Except.ok (Symbol.rewire_declare name ty).symm
  | copy name v => exact s.version_rewire name v
  | next name v =>
    simp only [Replacement.rewire, replacement, version_rewire, bind_map_left, map_bind, map_pure,
      Symbol.next_rewire, Symbol.rewire_next]

/-! ## Actions -/

namespace Action

/-- The action with other wires. -/
def rewire (w : Rewiring) : Action → Action
  | bind name typeName rs => .bind name typeName (rs.filterMap (Symbol.Request.rewire? w))
  | amend name rs => .amend name (rs.filterMap (Symbol.Request.rewire? w))
  | replace name source => .replace name (source.rewire w)

/-- The answers to an action that are left, with other wires. -/
def answers (w : Rewiring) : Action → Replies → Replies
  | bind _ _ rs, replies | amend _ rs, replies => w.answers rs replies
  | replace _ _, replies => replies.map (Symbol.Reply.rewire w <$> ·)

theorem answers_rename (f : WireId → WireId) (action : Action) (replies : Replies) :
    action.answers (.rename f) replies = replies.map (Symbol.Reply.rewire (.rename f) <$> ·) := by
  cases action <;> rfl

end Action

theorem answerAt_rewire (s : Store) (id : SymbolId) (rs : List Symbol.Request) :
    (s.rewire w).answerAt id (rs.filterMap (Symbol.Request.rewire? w)) =
      ((s.answerAt id rs).1.rewire w, w.answers rs (s.answerAt id rs).2) := by
  unfold answerAt
  rw [get?_rewire]
  cases s.get? id with
  | none => exact congrArg (Prod.mk _) (w.answers_nil rs).symm
  | some symbol => simp only [Option.map_some, Symbol.answerAll_rewire, set_rewire]

theorem rewire_of_successor {s : Store} {name : String} {ty : SymbolType} {symbol : Symbol}
    (h : s.successor name ty = .ok symbol) : symbol.rewire w = symbol := by
  rcases successor_cases h with ⟨-, rfl⟩ | ⟨newest, -, -, rfl⟩
  · exact Symbol.rewire_declare name ty
  · exact newest.rewire_next

/-- The rewired store answers the rewired action in the same way, but for wires. -/
theorem act_rewire (w : Rewiring) (s : Store) (action : Action) :
    (s.rewire w).act (action.rewire w) =
      Except.map (fun out => (out.1.rewire w, action.answers w out.2)) <$> s.act action := by
  cases action with
  | bind name text rs =>
    cases hty : SymbolType.ofName? text with
    | none =>
      simp only [act, Action.rewire, hty]
      rfl
    | some ty =>
      have hsame := s.successor_rewire (w := w) name ty
      cases hs : s.successor name ty with
      | error refusal =>
        simp only [act, Action.rewire, hty, bind, hsame, hs]
        rfl
      | ok symbol =>
        have hanswers := symbol.answerAll_rewire w rs
        rw [rewire_of_successor hs] at hanswers
        rw [Action.rewire, act_bind hty (hsame.trans hs), act_bind hty hs, hanswers, push_rewire]
        rfl
  | amend name rs =>
    simp only [act, Action.rewire, latestId_rewire]
    cases s.latestId name with
    | error refusal => rfl
    | ok id =>
      simp only [answerAt_rewire]
      rfl
  | replace name source =>
    simp only [act, Action.rewire, replacement_rewire, latestId_rewire]
    cases s.replacement source with
    | error refusal => rfl
    | ok symbol =>
      cases s.latestId name with
      | error refusal => rfl
      | ok id =>
        show pure (Except.ok ((s.rewire w).set id (symbol.rewire w), _)) = _
        rw [set_rewire]
        rfl

namespace Session

/-! ## Steps of a session -/

/-- The session with other wires in all of its stores. -/
def rewire (w : Rewiring) (session : Session) : Session :=
  { session with stores := session.stores.map (Store.rewire w) }

/-- The step with other wires. -/
def Step.rewire (w : Rewiring) : Step → Step
  | .act action => .act (action.rewire w)
  | step => step

/-- The reply with other wires. -/
def Reply.rewire (w : Rewiring) : Reply → Reply
  | .replies rs => .replies (rs.map (Symbol.Reply.rewire w <$> ·))
  | .symbol s => .symbol (s.rewire w)
  | .symbols ss => .symbols (ss.map (Symbol.rewire w))
  | .found s? => .found (s?.map (Symbol.rewire w))
  | .store s => .store (s.rewire w)
  | reply => reply

/-- The reply to a step with other wires, without the answers to requests that are left out. -/
def Step.shown (w : Rewiring) : Step → Reply → Reply
  | .act action, .replies replies => .replies (action.answers w replies)
  | _, reply => reply.rewire w

theorem Step.shown_rename (f : WireId → WireId) (step : Step) (reply : Reply) :
    step.shown (.rename f) reply = reply.rewire (.rename f) := by
  unfold shown
  split
  · rw [Action.answers_rename]
    rfl
  · rfl

theorem current_rewire (session : Session) : (session.rewire w).current = session.current := rfl

theorem saved_rewire (session : Session) : (session.rewire w).saved = session.saved := rfl

theorem getElem?_rewire (session : Session) (number : Nat) :
    (session.rewire w).stores[number]? = session.stores[number]?.map (Store.rewire w) :=
  List.getElem?_map

theorem store_rewire (session : Session) : (session.rewire w).store = session.store.rewire w := by
  show (session.rewire w).stores.getD session.current .empty = _
  rw [store, List.getD_eq_getElem?_getD, List.getD_eq_getElem?_getD, getElem?_rewire]
  cases session.stores[session.current]? with
  | none => exact rewire_empty.symm
  | some s => rfl

theorem withStore_rewire (session : Session) (s : Store) :
    (session.rewire w).withStore (s.rewire w) = (session.withStore s).rewire w := by
  simp only [withStore, rewire, List.map_set]

theorem push_rewire (session : Session) (s : Store) :
    (session.rewire w).push (s.rewire w) =
      ((session.push s).1.rewire w, (session.push s).2.rewire w) := by
  simp only [push, rewire, Reply.rewire, List.map_append, List.map_singleton, List.length_map]

theorem ofExcept_rewire {α : Type} (f : α → α) (view : α → Reply)
    (hview : ∀ a, view (f a) = (view a).rewire w) (x : Except SymbolError α) :
    Reply.ofExcept view (f <$> x) = (Reply.ofExcept view x).rewire w := by
  cases x with
  | ok a => exact hview a
  | error refusal => rfl

theorem ofExcept_unwired {α : Type} (view : α → Reply) (hview : ∀ a, view a = (view a).rewire w)
    (x : Except SymbolError α) : Reply.ofExcept view x = (Reply.ofExcept view x).rewire w := by
  rw [← ofExcept_rewire id view hview, id_map]

/-- A step that only shows something leaves the rewired session. -/
theorem pure_rewire {session : Session} {reply reply' : Reply} (h : reply' = reply.rewire w) :
    (pure (session.rewire w, reply') : Logged (Session × Reply)) =
      (fun out => (out.1.rewire w, out.2.rewire w)) <$> pure (session, reply) := by
  rw [h]
  rfl

/-- The rewired session takes the rewired step in the same way, but for wires. -/
theorem step_rewire (w : Rewiring) (session : Session) (step : Step) :
    (session.rewire w).step (step.rewire w) =
      (fun out => (out.1.rewire w, step.shown w out.2)) <$> session.step step := by
  have hstore := session.store_rewire (w := w)
  cases step with
  | act action =>
    simp only [step_act, Step.rewire, hstore, act_rewire]
    obtain ⟨value, events⟩ := session.store.act action
    cases value with
    | error refusal => rfl
    | ok out =>
      show Logged.mk ((session.rewire w).withStore (out.1.rewire w), _) _ = _
      rw [withStore_rewire]
      rfl
  | contains name | names | whole | isEmpty | check | clone =>
    simp only [Session.step, Step.rewire, hstore, isEmpty_rewire, check_rewire, push_rewire]
    rfl
  | size =>
    simp only [Session.step, Step.rewire, hstore, size_rewire]
    rfl
  | require name | latestVersion name =>
    simp only [Session.step, Step.rewire, hstore, latestVersion_rewire]
    exact pure_rewire (ofExcept_unwired _ (fun _ => rfl) _)
  | latest name | version name v =>
    simp only [Session.step, Step.rewire, hstore, latest_rewire, version_rewire]
    exact pure_rewire (ofExcept_rewire (Symbol.rewire w) .symbol (fun _ => rfl) _)
  | versions name =>
    simp only [Session.step, Step.rewire, hstore, versions_rewire]
    exact pure_rewire (ofExcept_rewire (List.map (Symbol.rewire w)) .symbols (fun _ => rfl) _)
  | checkFor name =>
    simp only [Session.step, Step.rewire, hstore, checkFor_rewire]
    obtain ⟨value, events⟩ := session.store.checkFor name
    have hsame := ofExcept_unwired (w := w) .verdict (fun _ => rfl) value
    exact congrArg (fun reply => Logged.mk (session.rewire w, reply) _) hsame
  | save name =>
    simp only [Session.step, Step.rewire, hstore, latestId_rewire]
    cases session.store.latestId name <;> rfl
  | get handle =>
    simp only [Session.step, Step.rewire, hstore, saved_rewire, get?_rewire]
    cases session.saved[handle]? <;> rfl
  | compare left right =>
    simp only [Session.step, Step.rewire, saved_rewire]
    cases session.saved[left]? with
    | none => rfl
    | some a => cases session.saved[right]? <;> rfl
  | create =>
    have hpush := session.push_rewire (w := w) .empty
    rw [rewire_empty] at hpush
    simp only [Session.step, Step.rewire, hpush]
    rfl
  | use number =>
    simp only [Session.step, Step.rewire, getElem?_rewire]
    cases session.stores[number]? with
    | none => rfl
    | some s =>
      simp only [Option.map_some, size_rewire]
      rfl

theorem rewire_after (w : Rewiring) (session : Session) (step : Step) :
    (session.rewire w).after (step.rewire w) = (session.after step).rewire w := by
  rw [after, step_rewire]
  rfl

theorem run_rewire (w : Rewiring) (session : Session) (steps : List Step) :
    (session.rewire w).run (steps.map (Step.rewire w)) = (session.run steps).rewire w := by
  induction steps generalizing session with
  | nil => rfl
  | cons step rest ih =>
    have hrest := ih (session.after step)
    rw [← rewire_after] at hrest
    exact hrest

/-- What steps in order show, and what is told of them. -/
def outcomes (session : Session) : List Step → List (Logged Reply)
  | [] => []
  | step :: rest => (Prod.snd <$> session.step step) :: (session.after step).outcomes rest

theorem outcomes_rewire (w : Rewiring) (session : Session) (steps : List Step) :
    (session.rewire w).outcomes (steps.map (Step.rewire w)) =
      List.zipWith (fun step outcome => step.shown w <$> outcome) steps
        (session.outcomes steps) := by
  induction steps generalizing session with
  | nil => rfl
  | cons step rest ih =>
    rw [List.map_cons, outcomes, outcomes, step_rewire, rewire_after, ih]
    rfl

theorem outcomes_rename (f : WireId → WireId) (session : Session) (steps : List Step) :
    (session.rewire (.rename f)).outcomes (steps.map (Step.rewire (.rename f))) =
      (session.outcomes steps).map (Reply.rewire (.rename f) <$> ·) := by
  induction steps generalizing session with
  | nil => rfl
  | cons step rest ih =>
    have hshown := funext (step.shown_rename f)
    rw [List.map_cons, outcomes, outcomes, step_rewire, rewire_after, ih, hshown]
    rfl

end Session

end WireLedger.Store
