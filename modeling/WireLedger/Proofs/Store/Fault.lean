import WireLedger.Proofs.Store.Acting
import WireLedger.Proofs.Store.Refinement
import WireLedger.Proofs.Symbol.Requests
import WireLedger.Store.Session
/-!
# Which steps are refused

A step is refused for a text that names no type, for a bind as another type, or for a name or a
version that is not there. Where a store stands for a chronicle these are all the faults there are.

Results:
* `Represents.latestId_eq_error_iff` to `Represents.version_eq_error_iff`: when a query is refused.
* `Represents.act_cases`: all that an action can do.
* `Represents.act_of_error`, `Represents.act_of_fault`: when an action is refused.
* `refused_iff`: when a step is refused.
-/
namespace WireLedger.Store

/-! ## When a query is refused -/

/-- Why there is no version `v` of `name`. -/
inductive Lacks (s : Store) (name : String) (v : UInt32) : SymbolError → Prop
  | name (h : s.contains name = false) : s.Lacks name v (.unknownSymbol name)
  | version {ids : List SymbolId} (h : s.history name = .ok ids) (hv : ids.length ≤ v.toNat) :
    s.Lacks name v (.unknownVersion name v)

theorem history_eq_error_iff {s : Store} {name : String} {e : SymbolError} :
    s.history name = .error e ↔ s.contains name = false ∧ e = .unknownSymbol name := by
  unfold history contains
  cases s.index.history? name <;> simp [eq_comm]

/-- What goes through the whole history is refused only for want of a history. -/
theorem history_bind_eq_error_iff {α : Type} {s : Store} {name : String} {e : SymbolError}
    {f : List SymbolId → Except SymbolError α} (hf : ∀ ids, f ids ≠ .error e) :
    s.history name >>= f = .error e ↔ s.contains name = false ∧ e = .unknownSymbol name := by
  rw [Symbol.bind_eq_error_iff_of_total hf, history_eq_error_iff]

theorem checkFor_eq_error_iff {s : Store} {name : String} {e : SymbolError} :
    (s.checkFor name).value = .error e ↔ s.contains name = false ∧ e = .unknownSymbol name := by
  rw [← history_eq_error_iff]
  unfold checkFor
  cases s.history name <;> simp

namespace Represents

variable {s : Store} {m : Chronicle} {name : String} {e : SymbolError}

theorem latestId_eq_error_iff (h : s.Represents m) :
    s.latestId name = .error e ↔ s.contains name = false ∧ e = .unknownSymbol name := by
  rw [h.contains_eq_false_iff]
  rcases h.latest_cases name with ⟨he, -, hnil⟩ | ⟨id, symbol, hid, -, -, hlast⟩
  · simp [he, hnil, eq_comm]
  · have hne := List.ne_nil_of_mem (List.mem_of_getLast? hlast)
    simp [hid, hne]

theorem latest_eq_error_iff (h : s.Represents m) :
    s.latest name = .error e ↔ s.contains name = false ∧ e = .unknownSymbol name := by
  rw [h.latest_eq, h.contains_eq_false_iff]
  rcases h.latest_cases name with ⟨-, he, hnil⟩ | ⟨id, symbol, -, -, hok, hlast⟩
  · simp [he, hnil, eq_comm]
  · have hne := List.ne_nil_of_mem (List.mem_of_getLast? hlast)
    simp [hok, hne]

theorem version_eq_error_iff (h : s.Represents m) {v : UInt32} :
    s.version name v = .error e ↔ s.Lacks name v e := by
  rw [h.version_eq, Chronicle.version]
  have hhist := h.history_eq name
  by_cases hnil : m.history name = []
  · rw [if_pos hnil] at hhist ⊢
    constructor
    · intro he
      cases he
      exact .name (h.contains_eq_false_iff.2 hnil)
    · intro hl
      cases hl with
      | name => rfl
      | version hids => cases hhist.symm.trans hids
  · rw [if_neg hnil] at hhist ⊢
    have hlen : (m.places name).length = (m.history name).length := by
      rw [Chronicle.length_places, h.length_history]
    cases hv : (m.history name)[v.toNat]? with
    | none =>
      constructor
      · intro he
        cases he
        exact .version hhist (hlen ▸ List.getElem?_eq_none_iff.1 hv)
      · intro hl
        cases hl with
        | name hc => exact absurd (h.contains_eq_false_iff.1 hc) hnil
        | version => rfl
    | some symbol =>
      refine ⟨nofun, fun hl => ?_⟩
      cases hl with
      | name hc => exact absurd (h.contains_eq_false_iff.1 hc) hnil
      | version hids hle =>
        cases hhist.symm.trans hids
        have hlt := (List.getElem?_eq_some_iff.1 hv).1
        omega

end Represents

/-! ## When a step is refused -/

/-- The version that a replacement is made from. -/
def Replacement.reads? : Replacement → Option (String × UInt32)
  | .copy name v | .next name v => some (name, v)
  | .given _ | .declare _ _ => none

namespace Session

/-- The name that has to be bound for a step. -/
def Step.needs? : Step → Option String
  | .act (.amend name _) | .require name | .latestVersion name | .latest name | .versions name
  | .checkFor name | .save name => some name
  | _ => none

/-- The version that has to be there for a step. -/
def Step.reads? : Step → Option (String × UInt32)
  | .version name v => some (name, v)
  | .act (.replace _ source) => source.reads?
  | _ => none

/-- No step needs a name and reads a version as well. -/
theorem Step.reads?_eq_none {step : Step} {name : String} (hs : step.needs? = some name) :
    step.reads? = none := by
  unfold needs? at hs
  split at hs <;> first | rfl | cases hs

/-- Why a step on a store is refused. -/
inductive Fault (s : Store) : Step → Refusal → Prop
  /-- The text names no type. -/
  | typeName {name text : String} {rs : List Symbol.Request} (h : SymbolType.ofName? text = none) :
    Fault s (.act (.bind name text rs)) (.unknownType text)
  /-- The newest version is of another type. -/
  | otherType {name text : String} {rs : List Symbol.Request} {ty : SymbolType} {newest : Symbol}
    (hty : SymbolType.ofName? text = some ty) (h : s.latest name = .ok newest)
    (hne : newest.type ≠ ty) :
    Fault s (.act (.bind name text rs)) (.symbol (.typeMismatch name newest.type ty))
  | unbound {step : Step} {name : String} (hs : step.needs? = some name)
    (h : s.contains name = false) : Fault s step (.symbol (.unknownSymbol name))
  | missing {step : Step} {name : String} {v : UInt32} {e : SymbolError}
    (hs : step.reads? = some (name, v)) (h : s.Lacks name v e) : Fault s step (.symbol e)
  /-- There is a replacement, but nothing that it could replace. -/
  | noTarget {name : String} {source : Replacement} {symbol : Symbol}
    (hs : s.replacement source = .ok symbol) (h : s.contains name = false) :
    Fault s (.act (.replace name source)) (.symbol (.unknownSymbol name))

variable {s : Store} {step : Step} {name : String} {refusal : Refusal}

theorem fault_iff_of_needs (hs : step.needs? = some name) :
    Fault s step refusal ↔ s.contains name = false ∧ refusal = .symbol (.unknownSymbol name) := by
  constructor
  · intro h
    cases h with
    | typeName | otherType | noTarget => cases hs
    | unbound hs' h =>
      cases hs.symm.trans hs'
      exact ⟨h, rfl⟩
    | missing hr => cases (Step.reads?_eq_none hs).symm.trans hr
  · rintro ⟨h, rfl⟩
    exact .unbound hs h

theorem fault_version_iff {v : UInt32} :
    Fault s (.version name v) refusal ↔ ∃ e, s.Lacks name v e ∧ refusal = .symbol e := by
  constructor
  · intro h
    cases h with
    | unbound hs => cases hs
    | missing hs h =>
      cases hs
      exact ⟨_, h, rfl⟩
  · rintro ⟨e, h, rfl⟩
    exact .missing rfl h

theorem not_fault (hs : step.needs? = none) (hr : step.reads? = none)
    (ha : ∀ action, step ≠ .act action) : ¬ Fault s step refusal := by
  intro h
  cases h with
  | typeName | otherType | noTarget => exact ha _ rfl
  | unbound hs' => cases hs.symm.trans hs'
  | missing hr' => cases hr.symm.trans hr'

end Session

theorem successor_eq_error_iff {s : Store} {name : String} {ty : SymbolType} {e : SymbolError} :
    s.successor name ty = .error e ↔
      ∃ newest, s.latest name = .ok newest ∧ newest.type ≠ ty ∧
        e = .typeMismatch name newest.type ty := by
  unfold successor
  cases s.latest name with
  | error e' => simp
  | ok newest =>
    by_cases ht : newest.type = ty
    · simp [ht]
    · simp [ht, eq_comm (a := e)]

namespace Represents

variable {s : Store} {m : Chronicle} {action : Action} {refusal : Refusal}

theorem replacement_eq_error_iff (h : s.Represents m) {source : Replacement} {e : SymbolError} :
    s.replacement source = .error e ↔
      ∃ name v, source.reads? = some (name, v) ∧ s.Lacks name v e := by
  cases source with
  | given symbol | declare name ty =>
    constructor
    · nofun
    · rintro ⟨_, _, hr, -⟩
      cases hr
  | copy name v =>
    rw [replacement, h.version_eq_error_iff]
    simp [Replacement.reads?]
  | next name v =>
    rw [replacement, Symbol.bind_eq_error_iff_of_total fun _ => Symbol.pure_ne_error,
      h.version_eq_error_iff]
    simp [Replacement.reads?]

/-- All that an action can do: it is refused for one of the faults and nothing is told of it, it
binds a name, it works on the newest version of a name, or it puts a symbol in the place of that. -/
theorem act_cases (h : s.Represents m) (action : Action) :
    (∃ refusal, s.act action = pure (.error refusal) ∧ Session.Fault s (.act action) refusal) ∨
    (∃ name text rs ty symbol, action = .bind name text rs ∧ SymbolType.ofName? text = some ty ∧
      s.successor name ty = .ok symbol) ∨
    (∃ name rs id symbol, action = .amend name rs ∧ s.latestId name = .ok id ∧
      s.get? id = some symbol) ∨
    ∃ name source id symbol, action = .replace name source ∧
      s.act action = pure (.ok (s.set id symbol, [.ok (.symbol symbol)])) := by
  cases action with
  | bind name text rs =>
    cases hty : SymbolType.ofName? text with
    | none =>
      refine .inl ⟨_, ?_, .typeName hty⟩
      simp only [Store.act, hty]
    | some ty =>
      cases hs : s.successor name ty with
      | ok symbol => exact .inr (.inl ⟨name, text, rs, ty, symbol, rfl, hty, hs⟩)
      | error e =>
        obtain ⟨newest, hl, hne, rfl⟩ := successor_eq_error_iff.1 hs
        refine .inl ⟨_, ?_, .otherType hty hl hne⟩
        simp only [Store.act, hty, Store.bind, hs]
        rfl
  | amend name rs =>
    rcases h.latest_cases name with ⟨he, -⟩ | ⟨id, symbol, hid, hget, -⟩
    · obtain ⟨hc, -⟩ := h.latestId_eq_error_iff.1 he
      refine .inl ⟨_, ?_, .unbound rfl hc⟩
      simp only [Store.act, he]
    · exact .inr (.inr (.inl ⟨name, rs, id, symbol, rfl, hid, hget⟩))
  | replace name source =>
    cases hr : s.replacement source with
    | error e =>
      obtain ⟨key, v, hreads, hl⟩ := h.replacement_eq_error_iff.1 hr
      refine .inl ⟨_, ?_, .missing hreads hl⟩
      simp only [Store.act, hr]
      rfl
    | ok symbol =>
      cases hid : s.latestId name with
      | error e =>
        obtain ⟨hc, rfl⟩ := h.latestId_eq_error_iff.1 hid
        refine .inl ⟨_, ?_, .noTarget hr hc⟩
        simp only [Store.act, hr, hid]
        rfl
      | ok id =>
        refine .inr (.inr (.inr ⟨name, source, id, symbol, rfl, ?_⟩))
        simp only [Store.act, hr, hid]
        rfl

/-- An action is refused only for one of the faults, and then nothing is told of it. -/
theorem act_of_error (h : s.Represents m) (he : (s.act action).value = .error refusal) :
    s.act action = pure (.error refusal) ∧ Session.Fault s (.act action) refusal := by
  rcases h.act_cases action with ⟨refusal', hact, hf⟩ | ⟨name, text, rs, ty, symbol, rfl, hty, hs⟩ |
    ⟨name, rs, id, symbol, rfl, hid, hget⟩ | ⟨_, _, id, symbol, -, hact⟩
  · rw [hact] at he
    cases he
    exact ⟨hact, hf⟩
  · rw [act_bind hty hs] at he
    cases he
  · rw [act_amend hid hget] at he
    cases he
  · rw [hact] at he
    cases he

theorem exists_worksOn (h : s.Represents m) (hin : action.replaces = false)
    {out : Store × Replies} (hact : (s.act action).value = .ok out) :
    ∃ base id symbol, s.WorksOn action base id symbol := by
  rcases h.act_cases action with ⟨refusal, he, -⟩ | ⟨name, text, rs, ty, symbol, rfl, hty, hs⟩ |
    ⟨name, rs, id, symbol, rfl, hid, hget⟩ | ⟨_, _, _, _, rfl, -⟩
  · rw [he] at hact
    cases hact
  · exact ⟨_, _, symbol, worksOn_bind hty hs rs⟩
  · exact ⟨s, id, symbol, worksOn_amend hid hget rs⟩
  · cases hin

/-- Each of the faults has an action refused. -/
theorem act_of_fault (h : s.Represents m) (hf : Session.Fault s (.act action) refusal) :
    (s.act action).value = .error refusal := by
  cases hf with
  | typeName hty => simp only [Store.act, hty, Logged.value_pure]
  | otherType hty hl hne =>
    have hs := successor_eq_error_iff.2 ⟨_, hl, hne, rfl⟩
    simp only [Store.act, hty, Store.bind, hs]
    rfl
  | unbound hneeds hc =>
    cases action with
    | amend name rs =>
      cases hneeds
      have hs := h.latestId_eq_error_iff.2 ⟨hc, rfl⟩
      simp only [Store.act, hs, Logged.value_pure]
    | bind | replace => cases hneeds
  | missing hreads hl =>
    cases action with
    | replace name source =>
      have hr := h.replacement_eq_error_iff.2 ⟨_, _, hreads, hl⟩
      simp only [Store.act, hr]
      rfl
    | bind | amend => cases hreads
  | noTarget hr hc =>
    have hs := h.latestId_eq_error_iff.2 ⟨hc, rfl⟩
    simp only [Store.act, hr, hs]
    rfl

end Represents

namespace Session

/-! ## Refused steps -/

variable {session : Session} {step : Step} {refusal : Refusal} {m : Chronicle}

theorem act_refused_iff {action : Action} :
    (session.step (.act action)).value.2 = .refused refusal ↔
      (session.store.act action).value = .error refusal := by
  rw [step_act, Logged.value_bind]
  split <;> simp_all

theorem ofExcept_eq_refused_iff {α : Type} {view : α → Reply} {x : Except SymbolError α}
    (hview : ∀ a refusal, view a ≠ .refused refusal) :
    Reply.ofExcept view x = .refused refusal ↔ ∃ e, x = .error e ∧ refusal = .symbol e := by
  cases x with
  | ok a => simp [Reply.ofExcept, hview]
  | error e => simp [Reply.ofExcept, eq_comm]

/-- A query that needs a bound name, and nothing else, is refused exactly for want of it. -/
theorem query_refused_iff {α : Type} {view : α → Reply} {x : Except SymbolError α} {name : String}
    {s : Store} (hview : ∀ a refusal, view a ≠ .refused refusal) (hs : step.needs? = some name)
    (hx : ∀ e, x = .error e ↔ s.contains name = false ∧ e = .unknownSymbol name) :
    Reply.ofExcept view x = .refused refusal ↔ Fault s step refusal := by
  rw [ofExcept_eq_refused_iff hview, fault_iff_of_needs hs]
  constructor
  · rintro ⟨e, he, rfl⟩
    obtain ⟨hc, rfl⟩ := (hx e).1 he
    exact ⟨hc, rfl⟩
  · rintro ⟨hc, rfl⟩
    exact ⟨_, (hx _).2 ⟨hc, rfl⟩, rfl⟩

/-- The steps that are refused, and why. -/
theorem refused_iff (h : session.store.Represents m) :
    (session.step step).value.2 = .refused refusal ↔ Fault session.store step refusal := by
  cases step with
  | act action =>
    rw [act_refused_iff]
    exact ⟨fun he => (h.act_of_error he).2, h.act_of_fault⟩
  | require name =>
    exact query_refused_iff (by simp) rfl fun e =>
      history_bind_eq_error_iff fun _ => Symbol.pure_ne_error
  | latestVersion name =>
    refine query_refused_iff (by simp) rfl fun e => ?_
    rw [latestVersion, Symbol.bind_eq_error_iff_of_total fun _ => Symbol.pure_ne_error,
      h.latest_eq_error_iff]
  | latest name => exact query_refused_iff (by simp) rfl fun e => h.latest_eq_error_iff
  | version name v =>
    rw [fault_version_iff]
    simp only [← h.version_eq_error_iff]
    exact ofExcept_eq_refused_iff (by simp)
  | versions name =>
    exact query_refused_iff (by simp) rfl fun e =>
      history_bind_eq_error_iff fun _ => Symbol.pure_ne_error
  | checkFor name =>
    exact query_refused_iff (by simp) rfl fun e => checkFor_eq_error_iff
  | save name =>
    have hreply : (session.step (.save name)).value.2 =
        .ofExcept (.saved session.saved.length) (session.store.latestId name) := by
      simp only [Session.step]
      cases session.store.latestId name <;> rfl
    rw [hreply]
    exact query_refused_iff (by simp) rfl fun e => h.latestId_eq_error_iff
  | get handle | compare left right | use number =>
    refine iff_of_false ?_ (not_fault rfl rfl (by simp))
    simp only [Session.step]
    split <;> simp
  | _ => exact iff_of_false (by simp [Session.step, push]) (not_fault rfl rfl (by simp))

end Session

end WireLedger.Store
