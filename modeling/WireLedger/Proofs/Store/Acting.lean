import WireLedger.Proofs.Store.InPlace
/-!
# Actions that work on one symbol

A bind works on the version that it adds, an amendment on the newest version of its name. Whatever
is requested then, that one symbol answers it.

Results:
* `successor_cases`: the symbol that a bind adds.
* `worksOn_bind`, `worksOn_amend`: the symbol that an action works on.
* `WorksOn.after`, `WorksOn.latestId_after`, `WorksOn.get?_after`: the store that comes out.
-/
namespace WireLedger.Store

/-! ## Actions with other requests -/

namespace Action

/-- The name that an action is on. -/
def name : Action → String
  | bind name _ _ | amend name _ | replace name _ => name

/-- The requests of an action; a replacement has none. -/
def requests : Action → List Symbol.Request
  | bind _ _ rs | amend _ rs => rs
  | replace _ _ => []

/-- The action with these requests in place of its own. -/
def asking (rs : List Symbol.Request) : Action → Action
  | bind name typeName _ => .bind name typeName rs
  | amend name _ => .amend name rs
  | replace name source => .replace name source

theorem asking_requests (action : Action) : action.asking action.requests = action := by
  cases action <;> rfl

end Action

/-- Whatever is requested with `action`, the symbol of `id` in `base` answers it. -/
structure WorksOn (s : Store) (action : Action) (base : Store) (id : SymbolId) (symbol : Symbol) :
    Prop where
  newest : base.latestId action.name = .ok id
  found : base.get? id = some symbol
  act : ∀ rs, s.act (action.asking rs) =
    ⟨.ok (base.set id (symbol.answerAll rs).1, (symbol.answerAll rs).2), (s.act action).events⟩
  same : action.binds = false → base = s
  told : (s.act action).events.map Event.message = if action.binds then ["bound symbol"] else []

theorem answerAt_of_get? {s : Store} {id : SymbolId} {symbol : Symbol} (h : s.get? id = some symbol)
    (rs : List Symbol.Request) :
    s.answerAt id rs = (s.set id (symbol.answerAll rs).1, (symbol.answerAll rs).2) := by
  unfold answerAt
  rw [h]

theorem set_of_get? {s : Store} {id : SymbolId} {symbol : Symbol} (h : s.get? id = some symbol) :
    s.set id symbol = s := by
  obtain ⟨hlt, rfl⟩ := Array.getElem?_eq_some_iff.1 h
  unfold set
  rw [Array.setIfInBounds_def, dif_pos hlt, Array.set_getElem_self]

theorem set_set (s : Store) (id : SymbolId) (first second : Symbol) :
    (s.set id first).set id second = s.set id second := by
  simp [set]

theorem latestId_set (s : Store) (id : SymbolId) (symbol : Symbol) (name : String) :
    (s.set id symbol).latestId name = s.latestId name := rfl

theorem latest_of_latestId {s : Store} {name : String} {id : SymbolId} {symbol : Symbol}
    (hid : s.latestId name = .ok id) (h : s.get? id = some symbol) :
    s.latest name = .ok symbol := by
  simp only [latest, hid, Bind.bind, Except.bind, h]
  rfl

namespace WorksOn

variable {s base : Store} {action : Action} {id : SymbolId} {symbol : Symbol}

theorem after (w : s.WorksOn action base id symbol) (rs : List Symbol.Request) :
    s.after (action.asking rs) = base.set id (symbol.answerAll rs).1 := by
  rw [after_eq, w.act]

/-- The answered symbol is the newest version then. -/
theorem latestId_after (w : s.WorksOn action base id symbol) (rs : List Symbol.Request) :
    (s.after (action.asking rs)).latestId action.name = .ok id := by
  rw [w.after, latestId_set, w.newest]

theorem get?_after (w : s.WorksOn action base id symbol) (rs : List Symbol.Request) :
    (s.after (action.asking rs)).get? id = some (symbol.answerAll rs).1 := by
  rw [w.after, base.get?_set_self _ (Array.getElem?_eq_some_iff.1 w.found).1]

/-- The action itself asks for its own requests. -/
theorem own (w : s.WorksOn action base id symbol) : s.act action =
    ⟨.ok (base.set id (symbol.answerAll action.requests).1, (symbol.answerAll action.requests).2),
      (s.act action).events⟩ := by
  have hact := w.act action.requests
  rwa [action.asking_requests] at hact

end WorksOn

/-! ## What a bind and an amendment leave -/

/-- The symbol that a bind adds is a first version, or it comes after the newest one. -/
theorem successor_cases {s : Store} {name : String} {ty : SymbolType} {symbol : Symbol}
    (h : s.successor name ty = .ok symbol) :
    ((∃ refusal, s.latest name = .error refusal) ∧ symbol = .declare name ty) ∨
    ∃ newest, s.latest name = .ok newest ∧ newest.type = ty ∧ symbol = newest.next := by
  unfold successor at h
  split at h
  · rename_i newest hlatest
    split at h
    · rename_i hty
      cases h
      exact .inr ⟨newest, hlatest, hty, rfl⟩
    · cases h
  · rename_i refusal hlatest
    cases h
    exact .inl ⟨⟨refusal, hlatest⟩, rfl⟩

theorem set_push (s : Store) (name : String) (symbol edited : Symbol) :
    (s.push name symbol).set ⟨s.arena.size⟩ edited = s.push name edited := by
  have harena : (s.arena.push symbol).setIfInBounds s.arena.size edited = s.arena.push edited := by
    apply Array.toList_inj.1
    simp
  simp only [set, push, harena]

/-- A bind adds the version that its requests leave, and tells of the one that it added. -/
theorem act_bind {s : Store} {name text : String} {ty : SymbolType} {symbol : Symbol}
    (hty : SymbolType.ofName? text = some ty) (hs : s.successor name ty = .ok symbol)
    (rs : List Symbol.Request) : s.act (.bind name text rs) =
      ⟨.ok (s.push name (symbol.answerAll rs).1, (symbol.answerAll rs).2),
        [.bound name symbol.version ty]⟩ := by
  rw [← s.set_push name symbol, ← answerAt_of_get? (s.get?_push_self name symbol)]
  simp only [act, hty, bind, hs]
  rfl

/-- An amendment puts what its requests leave in the place of the newest version. -/
theorem act_amend {s : Store} {name : String} {id : SymbolId} {symbol : Symbol}
    (hid : s.latestId name = .ok id) (hget : s.get? id = some symbol) (rs : List Symbol.Request) :
    s.act (.amend name rs) =
      pure (.ok (s.set id (symbol.answerAll rs).1, (symbol.answerAll rs).2)) := by
  rw [← answerAt_of_get? hget]
  simp only [act, hid]

theorem after_amend {s : Store} {name : String} {id : SymbolId} {symbol : Symbol}
    (hid : s.latestId name = .ok id) (h : s.get? id = some symbol) (rs : List Symbol.Request) :
    s.after (.amend name rs) = s.set id (symbol.answerAll rs).1 := by
  rw [after_eq, act_amend hid h]
  rfl

/-! ## The symbol that an action works on -/

/-- A bind works on the version that it adds. -/
theorem worksOn_bind {s : Store} {name text : String} {ty : SymbolType} {symbol : Symbol}
    (hty : SymbolType.ofName? text = some ty) (hs : s.successor name ty = .ok symbol)
    (rs : List Symbol.Request) :
    s.WorksOn (.bind name text rs) (s.push name symbol) ⟨s.arena.size⟩ symbol := by
  have hget := s.get?_push_self name symbol
  refine ⟨s.latestId_push_self name symbol, hget, fun rs => ?_, nofun, ?_⟩
  · simp only [Action.asking, act_bind hty hs, set_push]
  · simp only [act_bind hty hs]
    rfl

/-- An amendment works on the newest version. -/
theorem worksOn_amend {s : Store} {name : String} {id : SymbolId} {symbol : Symbol}
    (hid : s.latestId name = .ok id) (hget : s.get? id = some symbol)
    (rs : List Symbol.Request) : s.WorksOn (.amend name rs) s id symbol := by
  refine ⟨hid, hget, fun rs => ?_, fun _ => rfl, ?_⟩
  · simp only [Action.asking, act_amend hid hget]
    rfl
  · simp only [act_amend hid hget]
    rfl

end WireLedger.Store
