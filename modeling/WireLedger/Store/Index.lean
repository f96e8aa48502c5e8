import WireLedger.Symbol.Basic
/-!
# The index of a store

An index keeps one history per name: the handles of the versions of the name, oldest first. Names
stand in ascending order by code point, which is also the order of their UTF-8 bytes.

Results:
* `history?_add_self`, `history?_add_of_ne`: adding a handle appends it to one history.
* `mem_names_iff`: the names are those that have a history.
-/
namespace WireLedger

/-- A handle of one symbol of a store: its place in the order of binding (`SymbolId`). -/
structure SymbolId where
  position : Nat
deriving DecidableEq, Repr, Ord

instance : ToString SymbolId where
  toString id := "SymbolId(" ++ toString id.position ++ ")"

namespace Store

/-- Appends a handle to the history of `name`, in its place in the order of names. -/
def Index.addTo (name : String) (id : SymbolId) :
    List (String × List SymbolId) → List (String × List SymbolId)
  | [] => [(name, [id])]
  | (key, ids) :: rest =>
    if name = key then (key, ids ++ [id]) :: rest
    else if name < key then (name, [id]) :: (key, ids) :: rest
    else (key, ids) :: addTo name id rest

theorem Index.mem_addTo {name : String} {id : SymbolId} {entry : String × List SymbolId} :
    ∀ {entries : List (String × List SymbolId)}, entry ∈ Index.addTo name id entries →
      entry.1 = name ∨ ∃ old ∈ entries, entry.1 = old.1
  | [], h => by simp [addTo] at h; simp [h]
  | (key, ids) :: rest, h => by
    unfold addTo at h
    split at h
    · rcases List.mem_cons.1 h with rfl | h
      · exact .inl (Eq.symm ‹_›)
      · exact .inr ⟨entry, List.mem_cons_of_mem _ h, rfl⟩
    · split at h
      · rcases List.mem_cons.1 h with rfl | h
        · exact .inl rfl
        · exact .inr ⟨entry, h, rfl⟩
      · rcases List.mem_cons.1 h with rfl | h
        · exact .inr ⟨_, List.mem_cons_self .., rfl⟩
        · rcases mem_addTo h with h | ⟨old, hm, h⟩
          · exact .inl h
          · exact .inr ⟨old, List.mem_cons_of_mem _ hm, h⟩

theorem Index.addTo_ascending (name : String) (id : SymbolId) :
    ∀ {entries : List (String × List SymbolId)}, entries.Pairwise (·.1 < ·.1) →
      (Index.addTo name id entries).Pairwise (·.1 < ·.1)
  | [], _ => by simp [addTo]
  | (key, ids) :: rest, h => by
    obtain ⟨hkey, hrest⟩ := List.pairwise_cons.1 h
    unfold addTo
    split
    · exact List.pairwise_cons.2 ⟨hkey, hrest⟩
    · split
      · rename_i hlt
        refine List.pairwise_cons.2 ⟨fun entry hm => ?_, h⟩
        rcases List.mem_cons.1 hm with rfl | hm
        · exact hlt
        · exact String.lt_trans hlt (hkey _ hm)
      · rename_i hne hnlt
        refine List.pairwise_cons.2 ⟨fun entry hm => ?_, addTo_ascending name id hrest⟩
        rcases mem_addTo hm with he | ⟨old, hold, he⟩
        · have hle : key ≤ name := String.not_lt.1 hnlt
          rw [he]
          exact Std.lt_of_le_of_ne hle (fun heq => hne heq.symm)
        · rw [he]; exact hkey _ hold

/-- One history of handles per name, in ascending order of names (`versions`). -/
structure Index where
  entries : List (String × List SymbolId)
  ascending : entries.Pairwise (·.1 < ·.1)
deriving DecidableEq

namespace Index

/-- The index without names. -/
def empty : Index := ⟨[], .nil⟩

/-- The handles of the versions of a name, oldest first. -/
def history? (index : Index) (name : String) : Option (List SymbolId) := index.entries.lookup name

/-- The names, in ascending order. -/
def names (index : Index) : List String := index.entries.map Prod.fst

/-- Appends a handle to the history of a name. -/
def add (index : Index) (name : String) (id : SymbolId) : Index :=
  ⟨addTo name id index.entries, addTo_ascending name id index.ascending⟩

/-! ## What adding does to histories -/

theorem lookup_eq_none {name : String} : ∀ {entries : List (String × List SymbolId)},
    (∀ entry ∈ entries, name < entry.1) → entries.lookup name = none
  | [], _ => rfl
  | (key, ids) :: rest, h => by
    have hne : name ≠ key := fun heq => by
      have hlt := h (key, ids) (List.mem_cons_self ..)
      rw [heq] at hlt
      exact String.lt_irrefl _ hlt
    rw [List.lookup_cons, beq_eq_false_iff_ne.2 hne]
    exact lookup_eq_none fun entry hm => h entry (List.mem_cons_of_mem _ hm)

theorem lookup_addTo_self (name : String) (id : SymbolId) :
    ∀ {entries : List (String × List SymbolId)}, entries.Pairwise (·.1 < ·.1) →
      (addTo name id entries).lookup name = some ((entries.lookup name).getD [] ++ [id])
  | [], _ => by simp [addTo]
  | (key, ids) :: rest, h => by
    obtain ⟨hkey, hrest⟩ := List.pairwise_cons.1 h
    unfold addTo
    split
    · rename_i heq; subst heq; simp
    · rename_i hne
      split
      · rename_i hlt
        have hnone : ((key, ids) :: rest).lookup name = none := lookup_eq_none fun entry hm => by
          rcases List.mem_cons.1 hm with rfl | hm
          · exact hlt
          · exact String.lt_trans hlt (hkey _ hm)
        simp [hnone]
      · rw [List.lookup_cons, List.lookup_cons, beq_eq_false_iff_ne.2 hne]
        exact lookup_addTo_self name id hrest

theorem lookup_addTo_of_ne {name other : String} (id : SymbolId) (hne : other ≠ name) :
    ∀ entries : List (String × List SymbolId),
      (addTo name id entries).lookup other = entries.lookup other
  | [] => by simp [addTo, List.lookup_cons, beq_eq_false_iff_ne.2 hne]
  | (key, ids) :: rest => by
    unfold addTo
    split
    · rename_i heq; subst heq; simp [List.lookup_cons, beq_eq_false_iff_ne.2 hne]
    · split
      · simp [List.lookup_cons, beq_eq_false_iff_ne.2 hne]
      · rw [List.lookup_cons, List.lookup_cons, lookup_addTo_of_ne id hne rest]

@[simp] theorem history?_empty (name : String) : empty.history? name = none := rfl

theorem history?_add_self (index : Index) (name : String) (id : SymbolId) :
    (index.add name id).history? name = some ((index.history? name).getD [] ++ [id]) :=
  lookup_addTo_self name id index.ascending

theorem history?_add_of_ne (index : Index) {name other : String} (id : SymbolId)
    (hne : other ≠ name) : (index.add name id).history? other = index.history? other :=
  lookup_addTo_of_ne id hne index.entries

theorem mem_names_iff (index : Index) (name : String) :
    name ∈ index.names ↔ (index.history? name).isSome := by
  unfold names history?
  induction index.entries with
  | nil => simp
  | cons entry rest ih =>
    rw [List.map_cons, List.mem_cons, ih, List.lookup_cons]
    by_cases h : name = entry.1
    · simp [h]
    · rw [beq_eq_false_iff_ne.2 h]; simp only [h, false_or]

theorem lookup_eq_some_of_mem {name : String} {ids : List SymbolId} :
    ∀ {entries : List (String × List SymbolId)}, entries.Pairwise (·.1 < ·.1) →
      (name, ids) ∈ entries → entries.lookup name = some ids
  | (key, _) :: rest, h, hm => by
    obtain ⟨hkey, hrest⟩ := List.pairwise_cons.1 h
    rcases List.mem_cons.1 hm with he | hm
    · cases he
      rw [List.lookup_cons, beq_self_eq_true]
    · have hne : name ≠ key := (String.ne_of_lt (hkey _ hm)).symm
      rw [List.lookup_cons, beq_eq_false_iff_ne.2 hne]
      exact lookup_eq_some_of_mem hrest hm

/-- Each entry is the history of its name. -/
theorem history?_of_mem_entries (index : Index) {name : String} {ids : List SymbolId}
    (h : (name, ids) ∈ index.entries) : index.history? name = some ids :=
  lookup_eq_some_of_mem index.ascending h

theorem names_pairwise (index : Index) : index.names.Pairwise (· < ·) :=
  List.pairwise_map.2 index.ascending

end Index

end Store

end WireLedger
