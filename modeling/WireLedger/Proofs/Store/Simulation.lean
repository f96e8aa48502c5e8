import WireLedger.Proofs.Store.InPlace
import WireLedger.Proofs.Store.Refinement
/-!
# Runs of the store simulate runs of the chronicle

Results:
* `Represents.bind`, `Represents.act`: an action has the same outcome and the same events on both
  sides, and leads to a store and a chronicle that belong together again.
* `represents_run`: so does every run from nothing bound.
* `run_simulates`: what this says of the histories, the queries and the next action.
-/
namespace WireLedger.Store

/-- Both are the same refusal, or both are results that `R` relates. -/
def Outcomes {ε α β : Type} (R : α → β → Prop) : Except ε α → Except ε β → Prop
  | .ok a, .ok b => R a b
  | .error refusal, .error refusal' => refusal = refusal'
  | _, _ => False

theorem Outcomes.exists_of_ok {ε α β : Type} {R : α → β → Prop} {a : α} {y : Except ε β}
    (h : Outcomes R (.ok a) y) : ∃ b, y = .ok b ∧ R a b := by
  cases y with
  | ok b => exact ⟨b, rfl, h⟩
  | error refusal => exact h.elim

theorem Outcomes.eq_of_error {ε α β : Type} {R : α → β → Prop} {refusal : ε} {y : Except ε β}
    (h : Outcomes R (.error refusal) y) : y = .error refusal := by
  cases y with
  | ok b => exact h.elim
  | error refusal' => exact congrArg Except.error h.symm

theorem Outcomes.error_of_eq {ε α β : Type} {R : α → β → Prop} {x : Except ε α} {refusal : ε}
    (h : Outcomes R x (.error refusal)) : x = .error refusal := by
  cases x with
  | ok a => exact h.elim
  | error refusal' => exact congrArg Except.error h

/-- The same events, and outcomes that `R` relates. -/
def Alike {ε α β : Type} (R : α → β → Prop) (x : Logged (Except ε α)) (y : Logged (Except ε β)) :
    Prop :=
  x.events = y.events ∧ Outcomes R x.value y.value

/-- The same handle or the same answers, with a store that represents the chronicle. -/
def SameBind (a : SymbolId × Store) (b : SymbolId × Chronicle) : Prop :=
  a.1 = b.1 ∧ a.2.Represents b.2

def SameAct (a : Store × Replies) (b : Chronicle × Replies) : Prop :=
  a.1.Represents b.1 ∧ a.2 = b.2

namespace Represents

variable {s : Store} {m : Chronicle}

theorem bind (h : s.Represents m) (name : String) (ty : SymbolType) :
    Alike SameBind (s.bind name ty) (m.bind name ty) := by
  unfold Store.bind Chronicle.bind
  rw [h.successor_eq]
  cases m.successor name ty with
  | ok symbol => exact ⟨rfl, congrArg SymbolId.mk h.size, h.push name symbol⟩
  | error refusal => exact ⟨rfl, rfl⟩

/-- Requests through the handle of the newest version are requests to the newest symbol. -/
theorem answerAt (h : s.Represents m) {name : String} {id : SymbolId}
    (hid : s.latestId name = .ok id) (requests : List Symbol.Request) :
    ∃ b, m.answerLatest name requests = .ok b ∧ SameAct (s.answerAt id requests) b := by
  rcases h.latest_cases name with ⟨he, -⟩ | ⟨id', symbol, hid', hget, hlatest, -⟩
  · rw [he] at hid
    cases hid
  · rw [hid'] at hid
    cases hid
    unfold Chronicle.answerLatest Store.answerAt
    rw [hlatest, hget]
    exact ⟨_, rfl, h.set _ hid', rfl⟩

theorem act (h : s.Represents m) (action : Action) :
    Alike SameAct (s.act action) (m.act action) := by
  cases action with
  | bind name typeName requests =>
    simp only [Store.act, Chronicle.act]
    cases SymbolType.ofName? typeName with
    | none => exact ⟨rfl, rfl⟩
    | some ty =>
      simp only [Store.bind, Chronicle.bind, h.successor_eq]
      cases m.successor name ty with
      | error refusal => exact ⟨rfl, rfl⟩
      | ok symbol =>
        obtain ⟨b, hb, hsame⟩ :=
          (h.push name symbol).answerAt (s.latestId_push_self name symbol) requests
        simp only [hb]
        exact ⟨rfl, hsame⟩
  | amend name requests =>
    simp only [Store.act, Chronicle.act]
    rcases h.latest_cases name with ⟨he, hl, -⟩ | ⟨id, symbol, hid, -⟩
    · simp only [he, Chronicle.answerLatest, hl]
      exact ⟨rfl, rfl⟩
    · obtain ⟨b, hb, hsame⟩ := h.answerAt hid requests
      simp only [hid, hb]
      exact ⟨rfl, hsame⟩
  | replace name source =>
    simp only [Store.act, Chronicle.act, Chronicle.replaceLatest, h.replacement_eq]
    cases m.replacement source with
    | error refusal => exact ⟨rfl, rfl⟩
    | ok symbol =>
      rcases h.latest_cases name with ⟨he, hl, -⟩ | ⟨id, old, hid, -, hl, -⟩
      · simp only [he, hl]
        exact ⟨rfl, rfl⟩
      · simp only [hid, hl]
        exact ⟨rfl, h.set symbol hid, rfl⟩

theorem after (h : s.Represents m) (action : Action) :
    (s.after action).Represents (m.after action) := by
  have hout := (h.act action).2
  rw [after_eq, Chronicle.after]
  cases hs : (s.act action).value with
  | ok a =>
    rw [hs] at hout
    obtain ⟨b, hb, hsame⟩ := hout.exists_of_ok
    rw [hb]
    exact hsame.1
  | error refusal =>
    rw [hs] at hout
    rw [hout.eq_of_error]
    exact h

theorem run (h : s.Represents m) (actions : List Action) :
    (s.run actions).Represents (m.run actions) := by
  induction actions generalizing s m with
  | nil => exact h
  | cons action rest ih => exact ih (h.after action)

end Represents

/-- Every run from the empty store leads to what the same run of the chronicle stands for. -/
theorem represents_run (actions : List Action) :
    (run .empty actions).Represents (Chronicle.run .empty actions) :=
  represents_empty.run actions

/-! ## What a simulated store answers -/

/-- The histories share the arena out: none is empty, each ascends, and every place of the arena
stands once in one of them and in no other. -/
structure SharesOut (s : Store) : Prop where
  nonempty : ∀ name ids, s.index.history? name = some ids → ids ≠ []
  ascending : ∀ name ids, s.index.history? name = some ids → ids.Pairwise (·.position < ·.position)
  inside : ∀ name ids, s.index.history? name = some ids → ∀ id ∈ ids, id.position < s.arena.size
  once : ∀ p < s.arena.size, ∃ name ids, s.index.history? name = some ids ∧ ids.count ⟨p⟩ = 1 ∧
    ∀ other others, other ≠ name → s.index.history? other = some others → ⟨p⟩ ∉ others

/-- Every query of the store has the answer of the chronicle. -/
structure AnswersAs (s : Store) (m : Chronicle) : Prop where
  contains : ∀ name, s.contains name = m.contains name
  require : ∀ name, s.require name = m.require name
  latest : ∀ name, s.latest name = m.latest name
  latestVersion : ∀ name, s.latestVersion name = m.latestVersion name
  latestId : ∀ name, s.latestId name = m.latestId name
  get? : ∀ id, s.get? id = m.get? id
  version : ∀ name v, s.version name v = m.version name v
  versions : ∀ name, s.versions name = m.versions name
  names : s.names = m.names
  size : s.size = m.size
  isEmpty : s.isEmpty = m.isEmpty

/-- The names ascend strictly by their bytes, they are the bound keys, and they come out of sorting
these by bytes in whatever order they are met. -/
structure NamesByBytes (s : Store) : Prop where
  ascending : s.names.Pairwise (Text.bytes · < Text.bytes ·)
  bound : ∀ name, name ∈ s.names ↔ s.contains name = true
  sorted : ∀ keys : List String, keys.Nodup → (∀ name, name ∈ keys ↔ s.contains name = true) →
    keys.mergeSort Text.bytesLe = s.names

namespace Represents

variable {s : Store} {m : Chronicle}

theorem sharesOut (h : s.Represents m) : s.SharesOut where
  nonempty name ids hids := by
    obtain ⟨hmem, rfl⟩ := h.eq_places hids
    exact fun hnil => Chronicle.places_eq_nil_iff.1 hnil hmem
  ascending name ids hids := by
    rw [(h.eq_places hids).2]
    exact m.pairwise_places name
  inside name ids hids id hid := by
    rw [(h.eq_places hids).2] at hid
    exact h.position_lt hid
  once p hp := by
    rw [h.size] at hp
    have hkey : m.order[p]? = some m.order[p] := List.getElem?_eq_getElem hp
    have hmem : ⟨p⟩ ∈ m.places m.order[p] := Chronicle.mem_places_iff.2 hkey
    refine ⟨m.order[p], m.places m.order[p], ?_, ?_, ?_⟩
    · rw [h.index, if_pos (List.getElem_mem hp)]
    · exact List.count_eq_one_of_mem (m.nodup_places _) hmem
    · intro other others hne hothers hin
      rw [(h.eq_places hothers).2, Chronicle.mem_places_iff, hkey] at hin
      exact hne (Option.some.inj hin).symm

theorem answersAs (h : s.Represents m) : s.AnswersAs m where
  contains := h.contains_eq
  require := h.require_eq
  latest := h.latest_eq
  latestVersion := h.latestVersion_eq
  latestId := h.latestId_eq
  get? := h.get?_eq
  version := h.version_eq
  versions := h.versions_eq
  names := h.names_eq
  size := h.size_eq
  isEmpty := h.isEmpty_eq

theorem contains_iff (h : s.Represents m) (name : String) :
    s.contains name = true ↔ name ∈ m.order := by
  unfold Store.contains
  rw [h.index]
  split <;> simp_all

theorem namesByBytes (h : s.Represents m) : s.NamesByBytes where
  ascending := s.index.names_pairwise.imp (Text.bytes_lt_iff _ _).2
  bound name := by rw [h.contains_iff, h.mem_names_iff]
  sorted keys hnodup hmem :=
    h.mergeSort_eq_names hnodup fun name => (hmem name).trans (h.contains_iff name)

end Represents

/-- Whatever was done to it, a store stands for the chronicle of the same actions: its histories
share the arena out, every query has the answer of the chronicle, and so has every bind and every
action that may come next. Binds and actions that are done in place come to the same. -/
theorem run_simulates (actions : List Action) :
    (run .empty actions).Represents (Chronicle.run .empty actions) ∧
    (run .empty actions).SharesOut ∧
    (run .empty actions).AnswersAs (Chronicle.run .empty actions) ∧
    (run .empty actions).NamesByBytes ∧
    (∀ name ty, Alike SameBind ((run .empty actions).bind name ty)
      ((Chronicle.run .empty actions).bind name ty)) ∧
    (∀ action, Alike SameAct ((run .empty actions).act action)
      ((Chronicle.run .empty actions).act action)) ∧
    (∀ name ty, (InPlace.bind name ty).run.run (run .empty actions) =
      settled (run .empty actions) <$> (run .empty actions).bind name ty) ∧
    ∀ action, (run .empty actions).perform action =
      (fun outcome => settled (run .empty actions) (Prod.swap <$> outcome)) <$>
        (run .empty actions).act action :=
  have h := represents_run actions
  ⟨h, h.sharesOut, h.answersAs, h.namesByBytes, h.bind, h.act,
    fun name ty => InPlace.run_bind name ty _, perform_eq _⟩

end WireLedger.Store
