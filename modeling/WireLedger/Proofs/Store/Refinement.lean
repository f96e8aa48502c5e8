import Mathlib.Algebra.BigOperators.Group.List.Lemmas
import Mathlib.Data.List.Sort
import WireLedger.Proofs.Store.Chronicle
/-!
# The store refines the chronicle

`Represents` lays a chronicle out in a store: the arena holds the entries in the order of binding,
and the index leads from each key to the places of its entries. Every query of the store then
answers as the chronicle does, and both ways to change the store are changes of the chronicle.

Results:
* `Represents.latestId_eq` to `Represents.names_eq`: one equation per query.
* `Represents.push`, `Represents.set`: the two ways in which a store changes.
-/
namespace WireLedger.Store

/-- The arena of `s` holds the entries of `m` in the order of binding, and its index the places of
each key. -/
structure Represents (s : Store) (m : Chronicle) : Prop where
  size : s.arena.size = m.order.length
  index : ∀ name, s.index.history? name = if name ∈ m.order then some (m.places name) else none
  symbols : ∀ name, (m.places name).map s.get? = (m.history name).map some

theorem represents_empty : Represents .empty .empty :=
  ⟨rfl, fun _ => rfl, fun _ => rfl⟩

/-- An option whose image under `f` is the image of `b` under `some` leads to `b` through `f`. -/
theorem bind_eq_of_map_eq {α β : Type} {f : α → Option β} {a : Option α} {b : Option β}
    (h : a.map f = b.map some) : a.bind f = b := by
  cases a <;> cases b <;> simp_all

namespace Represents

variable {s : Store} {m : Chronicle}

/-! ## Histories and places -/

theorem length_history (h : s.Represents m) (name : String) :
    (m.history name).length = m.order.count name := by
  have := congrArg List.length (h.symbols name)
  simpa using this.symm

theorem history_eq_nil_iff (h : s.Represents m) {name : String} :
    m.history name = [] ↔ name ∉ m.order := by
  rw [← List.length_eq_zero_iff, h.length_history, List.count_eq_zero]

theorem history_eq (h : s.Represents m) (name : String) :
    s.history name =
      if m.history name = [] then .error (.unknownSymbol name) else .ok (m.places name) := by
  unfold Store.history
  rw [h.index]
  by_cases hm : name ∈ m.order
  · rw [if_pos hm, if_neg fun hn => h.history_eq_nil_iff.1 hn hm]
  · rw [if_neg hm, if_pos (h.history_eq_nil_iff.2 hm)]

theorem places_eq_nil_iff (h : s.Represents m) {name : String} :
    m.places name = [] ↔ m.history name = [] := by
  rw [h.history_eq_nil_iff, Chronicle.places_eq_nil_iff]

theorem eq_places (h : s.Represents m) {name : String} {ids : List SymbolId}
    (hids : s.index.history? name = some ids) : name ∈ m.order ∧ ids = m.places name := by
  rw [h.index] at hids
  split at hids
  · rename_i hmem
    exact ⟨hmem, (Option.some.inj hids).symm⟩
  · cases hids

/-- The symbol at a place of a history is the one at its place in the arena. -/
theorem getElem?_bind_get? (h : s.Represents m) (name : String) (k : Nat) :
    (m.places name)[k]?.bind s.get? = (m.history name)[k]? := by
  apply bind_eq_of_map_eq
  rw [← List.getElem?_map, ← List.getElem?_map, h.symbols]

theorem getLast?_bind_get? (h : s.Represents m) (name : String) :
    (m.places name).getLast?.bind s.get? = (m.history name).getLast? := by
  apply bind_eq_of_map_eq
  rw [← List.getLast?_map, ← List.getLast?_map, h.symbols]

/-! ## Queries -/

theorem get?_eq (h : s.Represents m) (id : SymbolId) : s.get? id = m.get? id := by
  unfold Chronicle.get?
  cases ho : m.order[id.position]? with
  | none =>
    have := List.getElem?_eq_none_iff.1 ho
    exact Array.getElem?_eq_none (by rw [h.size]; exact this)
  | some name =>
    have := h.getElem?_bind_get? name ((m.order.take id.position).count name)
    rw [Chronicle.getElem?_places ho] at this
    exact this

theorem contains_eq (h : s.Represents m) (name : String) : s.contains name = m.contains name := by
  unfold Store.contains Chronicle.contains
  rw [h.index]
  by_cases hm : name ∈ m.order
  · have := mt h.history_eq_nil_iff.1 (not_not.2 hm)
    simp [hm, this]
  · simp [hm, h.history_eq_nil_iff.2 hm]

theorem contains_eq_false_iff (h : s.Represents m) {name : String} :
    s.contains name = false ↔ m.history name = [] := by
  rw [h.contains_eq, Chronicle.contains, Bool.not_eq_false', List.isEmpty_iff]

theorem require_eq (h : s.Represents m) (name : String) : s.require name = m.require name := by
  unfold Store.require Chronicle.require
  rw [h.history_eq]
  split <;> rfl

theorem latestId_eq (h : s.Represents m) (name : String) : s.latestId name = m.latestId name := by
  unfold Store.latestId Chronicle.latestId
  rw [h.history_eq]
  split
  · rename_i hn
    rw [h.places_eq_nil_iff.2 hn]
    rfl
  · rfl

theorem latest_eq (h : s.Represents m) (name : String) : s.latest name = m.latest name := by
  unfold Store.latest Chronicle.latest
  rw [h.latestId_eq, ← h.getLast?_bind_get?]
  unfold Chronicle.latestId
  cases (m.places name).getLast? <;> rfl

theorem latestVersion_eq (h : s.Represents m) (name : String) :
    s.latestVersion name = m.latestVersion name := by
  unfold Store.latestVersion Chronicle.latestVersion
  rw [h.latest_eq]
  cases m.latest name <;> rfl

theorem version_eq (h : s.Represents m) (name : String) (v : UInt32) :
    s.version name v = m.version name v := by
  unfold Store.version Chronicle.version
  rw [h.history_eq, ← h.getElem?_bind_get?]
  split <;> rfl

theorem version_eq_ok_iff (h : s.Represents m) {name : String} {v : UInt32} {symbol : Symbol} :
    s.version name v = .ok symbol ↔ (m.history name)[v.toNat]? = some symbol := by
  rw [h.version_eq]
  unfold Chronicle.version
  split
  · rename_i hnil
    simp [hnil]
  · split <;> simp_all

theorem versions_eq (h : s.Represents m) (name : String) : s.versions name = m.versions name := by
  have hsymbols : (m.places name).filterMap s.get? = m.history name := by
    have := congrArg (List.filterMap id) (h.symbols name)
    simpa [List.filterMap_map, Function.comp_def] using this
  unfold Store.versions Chronicle.versions
  rw [h.history_eq]
  split
  · rfl
  · exact congrArg Except.ok hsymbols

theorem size_eq_length (h : s.Represents m) : s.size = m.order.length := h.size

theorem size_eq (h : s.Represents m) : s.size = m.size := by
  rw [h.size_eq_length, ← List.sum_map_count_dedup_eq_length]
  simp only [Chronicle.size, Chronicle.keys, h.length_history]

theorem isEmpty_eq (h : s.Represents m) : s.isEmpty = m.isEmpty := by
  unfold Store.isEmpty Chronicle.isEmpty
  rw [Array.isEmpty, h.size, Bool.eq_iff_iff]
  simp

theorem mem_names_iff (h : s.Represents m) (name : String) : name ∈ s.names ↔ name ∈ m.order := by
  unfold Store.names
  rw [Index.mem_names_iff, h.index]
  split <;> simp_all

/-- In whatever order the keys are met: sorted by their bytes they are the names of the store. -/
theorem mergeSort_eq_names (h : s.Represents m) {keys : List String} (hkeys : keys.Nodup)
    (hmem : ∀ name, name ∈ keys ↔ name ∈ m.order) : keys.mergeSort Text.bytesLe = s.names := by
  have hasc : s.names.Pairwise (· < ·) := s.index.names_pairwise
  have hperm : (keys.mergeSort Text.bytesLe).Perm s.names := by
    refine (List.mergeSort_perm _ _).trans ?_
    refine (List.perm_ext_iff_of_nodup hkeys (hasc.imp String.ne_of_lt)).2 fun name => ?_
    rw [hmem, h.mem_names_iff]
  exact hperm.eq_of_pairwise (fun _ _ _ _ => String.le_antisymm)
    (Text.pairwise_mergeSort_bytesLe keys) (hasc.imp Std.le_of_lt)

theorem names_eq (h : s.Represents m) : s.names = m.names :=
  (h.mergeSort_eq_names m.order.nodup_dedup fun _ => List.mem_dedup).symm

/-! ## Changes -/

theorem position_lt (h : s.Represents m) {name : String} {id : SymbolId}
    (hid : id ∈ m.places name) : id.position < s.arena.size := by
  rw [h.size]
  exact (List.getElem?_eq_some_iff.1 (Chronicle.mem_places_iff.1 hid)).1

theorem getD_index (h : s.Represents m) (name : String) :
    (s.index.history? name).getD [] = m.places name := by
  rw [h.index]
  split
  · rfl
  · rename_i hn
    exact (Chronicle.places_eq_nil_iff.2 hn).symm

theorem push (h : s.Represents m) (name : String) (symbol : Symbol) :
    (s.push name symbol).Represents (m.push name symbol) where
  size := by simp [Store.push, Chronicle.push, h.size]
  index key := by
    by_cases hk : key = name
    · subst hk
      rw [Chronicle.places_push_self, if_pos (by simp [Chronicle.push]), ← h.size, ← h.getD_index]
      exact s.index.history?_add_self key ⟨s.arena.size⟩
    · rw [Chronicle.places_push_of_ne m symbol hk]
      refine (s.index.history?_add_of_ne ⟨s.arena.size⟩ hk).trans ?_
      simp [h.index, Chronicle.push, hk]
  symbols key := by
    have hold : (m.places key).map (s.push name symbol).get? = (m.history key).map some := by
      rw [← h.symbols]
      exact List.map_congr_left fun id hid => s.get?_push_of_lt name symbol (h.position_lt hid)
    by_cases hk : key = name
    · subst hk
      rw [Chronicle.places_push_self, Chronicle.history_push_self, List.map_append, hold, ← h.size,
        List.map_append, List.map_singleton, s.get?_push_self, List.map_singleton]
    · rw [Chronicle.places_push_of_ne m symbol hk, Chronicle.history_push_of_ne m symbol hk, hold]

/-- The handle of the newest version is the last of the places. -/
theorem places_eq_of_latestId (h : s.Represents m) {name : String} {id : SymbolId}
    (hid : s.latestId name = .ok id) : m.places name = (m.places name).dropLast ++ [id] := by
  rw [h.latestId_eq, Chronicle.latestId] at hid
  split at hid
  · rename_i hlast
    cases hid
    exact (List.dropLast_append_getLast? _ hlast).symm
  · cases hid

theorem set (h : s.Represents m) {name : String} {id : SymbolId} (symbol : Symbol)
    (hid : s.latestId name = .ok id) : (s.set id symbol).Represents (m.amend name symbol) where
  size := by simp [Store.set, Chronicle.amend, h.size]
  index := h.index
  symbols key := by
    have hsplit := h.places_eq_of_latestId hid
    have hmem : id ∈ m.places name := by rw [hsplit]; simp
    rw [Chronicle.places_amend]
    by_cases hk : key = name
    · subst hk
      have hnodup := m.nodup_places key
      rw [hsplit] at hnodup
      have hrest : (m.places key).dropLast.map (s.set id symbol).get? =
          (m.history key).dropLast.map some := by
        rw [List.map_dropLast, List.map_dropLast, ← h.symbols, ← List.map_dropLast,
          ← List.map_dropLast]
        refine List.map_congr_left fun other hother => s.get?_set_of_ne symbol fun he => ?_
        exact List.disjoint_of_nodup_append hnodup (he ▸ hother) (List.mem_singleton_self id)
      rw [Chronicle.history_amend_self, hsplit, List.map_append, hrest, List.map_append,
        List.map_singleton, s.get?_set_self symbol (h.position_lt hmem), List.map_singleton]
    · rw [Chronicle.history_amend_of_ne m symbol hk, ← h.symbols]
      refine List.map_congr_left fun other hother => s.get?_set_of_ne symbol fun he => hk ?_
      -- one place cannot be that of two keys
      have hkey := Chronicle.mem_places_iff.1 hother
      rw [he, Chronicle.mem_places_iff.1 hmem] at hkey
      exact (Option.some.inj hkey).symm

/-! ## What changes depend on -/

theorem latest_cases (h : s.Represents m) (name : String) :
    (s.latestId name = .error (.unknownSymbol name) ∧
      m.latest name = .error (.unknownSymbol name) ∧ m.history name = []) ∨
    ∃ id symbol, s.latestId name = .ok id ∧ s.get? id = some symbol ∧ m.latest name = .ok symbol ∧
      (m.history name).getLast? = some symbol := by
  have hlast := h.getLast?_bind_get? name
  rw [h.latestId_eq]
  unfold Chronicle.latestId Chronicle.latest
  cases hp : (m.places name).getLast? with
  | none =>
    rw [hp] at hlast
    rw [← hlast]
    exact .inl ⟨rfl, rfl, h.places_eq_nil_iff.1 (List.getLast?_eq_none_iff.1 hp)⟩
  | some id =>
    have hlt := h.position_lt (List.mem_of_getLast? hp)
    have hget : s.get? id = some s.arena[id.position] := Array.getElem?_eq_getElem hlt
    rw [hp, Option.bind_some, hget] at hlast
    rw [← hlast]
    exact .inr ⟨id, _, rfl, hget, rfl, rfl⟩

theorem successor_eq (h : s.Represents m) (name : String) (ty : SymbolType) :
    s.successor name ty = m.successor name ty := by
  unfold Store.successor Chronicle.successor
  rw [h.latest_eq]
  unfold Chronicle.latest
  cases (m.history name).getLast? <;> rfl

theorem replacement_eq (h : s.Represents m) (source : Replacement) :
    s.replacement source = m.replacement source := by
  cases source with
  | given symbol => rfl
  | declare name ty => rfl
  | copy name version => exact h.version_eq name version
  | next name version =>
    show (do return (← s.version name version).next) = (m.version name version).map Symbol.next
    rw [h.version_eq]
    cases m.version name version <;> rfl

end Represents

end WireLedger.Store
