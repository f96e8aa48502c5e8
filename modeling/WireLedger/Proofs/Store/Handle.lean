import WireLedger.Proofs.Store.Simulation
/-!
# Handles along a run

A handle keeps its place in the history of its name for good. The symbol there can change only while
it is the newest version of the name, and only by an action that works on that version in place;
from the next bind of the name on it is fixed.

Results:
* `Chronicle.getElem?_history_after`, `Represents.getElem?_history_run`: the frame of an action and
  of a run.
* `Represents.holds`: a place of a history is found by its handle and by its number.
* `Represents.reworked_of_get?_after_ne`: what it takes to change the symbol of a handle.
-/
namespace WireLedger

namespace Chronicle

variable {m : Chronicle} {name key : String} {symbol : Symbol} {k : Nat}

theorem places_prefix_run (m : Chronicle) (name : String) (actions : List Store.Action) :
    m.places name <+: (m.run actions).places name := by
  obtain ⟨more, h⟩ := m.order_prefix_run actions
  unfold places
  rw [← h, List.idxsOf_append, List.map_append]
  exact List.prefix_append _ _

/-- An entry keeps its place for good. -/
theorem getElem?_places_run {id : SymbolId} (hid : (m.places name)[k]? = some id)
    (actions : List Store.Action) : ((m.run actions).places name)[k]? = some id := by
  obtain ⟨more, hmore⟩ := m.places_prefix_run name actions
  rw [← hmore, List.getElem?_append_left (List.getElem?_eq_some_iff.1 hid).1, hid]

theorem getElem?_history_push (hk : k < (m.history name).length) :
    ((m.push key symbol).history name)[k]? = (m.history name)[k]? := by
  by_cases he : name = key
  · subst he
    rw [history_push_self, List.getElem?_append_left hk]
  · rw [history_push_of_ne m symbol he]

theorem getElem?_history_amend (hk : key = name → k + 1 < (m.history name).length) :
    ((m.amend key symbol).history name)[k]? = (m.history name)[k]? := by
  by_cases he : name = key
  · subst he
    have hlt : k < (m.history name).dropLast.length := by
      have := hk rfl
      rw [List.length_dropLast]
      omega
    rw [history_amend_self, List.getElem?_append_left hlt, List.getElem?_dropLast, if_pos]
    rwa [List.length_dropLast] at hlt
  · rw [history_amend_of_ne m symbol he]

/-- An action changes no place of a history but the last one, and that only if it works on the
newest version of the name in place. -/
theorem getElem?_history_after {action : Store.Action} (hk : k < (m.history name).length)
    (hfree : action.reworked? = some name → k + 1 < (m.history name).length) :
    ((m.after action).history name)[k]? = (m.history name)[k]? := by
  rcases m.after_cases action with ⟨-, h⟩ | ⟨key, _, _, _, _, -, -, -, h⟩ |
    ⟨key, _, _, rfl, -, h⟩ | ⟨key, _, _, _, rfl, -, -, h⟩ <;> rw [h]
  · exact getElem?_history_push hk
  · exact getElem?_history_amend fun he => hfree (congrArg some he)
  · exact getElem?_history_amend fun he => hfree (congrArg some he)

/-- A bind that is carried out adds one version. -/
theorem length_history_bind {typeName : String} {requests : List Symbol.Request}
    {out : Chronicle × Store.Replies}
    (h : (m.act (.bind name typeName requests)).value = .ok out) :
    ((m.after (.bind name typeName requests)).history name).length =
      (m.history name).length + 1 := by
  obtain ⟨ty, symbol, -, -, hafter⟩ := after_bind h
  rw [hafter, history_push_self]
  exact List.length_append

end Chronicle

namespace Store

/-- In the history of `name` the handle `id` stands at place `k`, and both lead to `symbol`. -/
structure Holds (s : Store) (name : String) (k : Nat) (id : SymbolId) (symbol : Symbol) :
    Prop where
  place : ∃ ids, s.history name = .ok ids ∧ ids[k]? = some id
  get : s.get? id = some symbol
  version : ∀ v : UInt32, v.toNat = k → s.version name v = .ok symbol

namespace Represents

variable {s : Store} {m : Chronicle} {name : String} {k : Nat} {id : SymbolId} {symbol : Symbol}

theorem lt_length_of_places (h : s.Represents m) (hid : (m.places name)[k]? = some id) :
    k < (m.history name).length := by
  have hlt := (List.getElem?_eq_some_iff.1 hid).1
  rwa [Chronicle.length_places, ← h.length_history] at hlt

theorem get?_eq_history (h : s.Represents m) (hid : (m.places name)[k]? = some id) :
    s.get? id = (m.history name)[k]? := by
  rw [← h.getElem?_bind_get?, hid, Option.bind_some]

theorem holds (h : s.Represents m) (hid : (m.places name)[k]? = some id)
    (hsymbol : (m.history name)[k]? = some symbol) : s.Holds name k id symbol where
  place := by
    have hne : m.history name ≠ [] := fun hnil => by
      rw [hnil] at hsymbol
      cases hsymbol
    exact ⟨m.places name, by rw [h.history_eq, if_neg hne], hid⟩
  get := by rw [h.get?_eq_history hid, hsymbol]
  version v hv := by rw [h.version_eq_ok_iff, hv, hsymbol]

/-- The handle of the newest version stands at the last place. -/
theorem places_of_latestId (h : s.Represents m) (hid : s.latestId name = .ok id) :
    (m.places name)[(m.history name).length - 1]? = some id := by
  rw [h.length_history, ← Chronicle.length_places, ← List.getLast?_eq_getElem?,
    h.places_eq_of_latestId hid, List.getLast?_concat]

theorem latestId_of_places (h : s.Represents m) (hid : (m.places name)[k]? = some id)
    (hk : (m.history name).length ≤ k + 1) : s.latestId name = .ok id := by
  have hlt := h.lt_length_of_places hid
  have hlast : (m.places name).getLast? = some id := by
    rw [List.getLast?_eq_getElem?, Chronicle.length_places, ← h.length_history, ← hid]
    congr 1
    omega
  rw [h.latestId_eq, Chronicle.latestId, hlast]

theorem length_history_run (h : s.Represents m) (name : String) (actions : List Action) :
    (m.history name).length ≤ ((m.run actions).history name).length := by
  rw [h.length_history, (h.run actions).length_history]
  exact (m.order_prefix_run actions).sublist.count_le name

/-- A superseded version stays as it is. -/
theorem getElem?_history_run (h : s.Represents m) (hk : k + 1 < (m.history name).length)
    (actions : List Action) : ((m.run actions).history name)[k]? = (m.history name)[k]? := by
  induction actions generalizing s m with
  | nil => rfl
  | cons action rest ih =>
    have hlen := h.length_history_run name [action]
    exact (ih (h.after action) (Nat.lt_of_lt_of_le hk hlen)).trans
      (Chronicle.getElem?_history_after (Nat.lt_of_succ_lt hk) fun _ => hk)

/-- The symbol of a handle changes only while the handle is the newest of a name, and only by an
action that works on the newest version of that name in place. -/
theorem reworked_of_get?_after_ne (h : s.Represents m) (hid : (m.places name)[k]? = some id)
    {action : Action} (hne : (s.after action).get? id ≠ s.get? id) :
    s.latestId name = .ok id ∧ action.reworked? = some name := by
  have hafter : ((m.after action).places name)[k]? = some id :=
    Chronicle.getElem?_places_run hid [action]
  rw [h.get?_eq_history hid, (h.after action).get?_eq_history hafter] at hne
  have hlt := h.lt_length_of_places hid
  by_cases hfree : action.reworked? = some name → k + 1 < (m.history name).length
  · exact absurd (Chronicle.getElem?_history_after hlt hfree) hne
  · rw [Classical.not_imp, Nat.not_lt] at hfree
    exact ⟨h.latestId_of_places hid hfree.2, hfree.1⟩

end Represents

end Store

end WireLedger
