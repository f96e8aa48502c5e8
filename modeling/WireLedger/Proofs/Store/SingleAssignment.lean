import WireLedger.Proofs.Store.Consistency
import WireLedger.Proofs.Store.Simulation
import WireLedger.Proofs.Symbol.Shape
/-!
# Single assignment

As long as no symbol is put in the place of another, the history of a name is a lineage: the
versions 0, 1, 2 and so on of that name, all of one shape. The shape is open only while version 0 is
the newest version; from version 1 on no edit of the newest version can leave it.

Results:
* `lineage_append_iff`: a lineage grows by one version at its end.
* `Represents.lineage_after`, `Represents.lineage_run`: only a replacement can break a lineage.
* `run_singleAssignment`: what follows for versions, for the consistency check and the next bind.
-/
namespace WireLedger.Store

/-! ## Lineages -/

/-- The versions 0, 1, 2 and so on of `name`, all of one shape. -/
structure Lineage (name : String) (symbols : List Symbol) : Prop where
  name : ∀ symbol ∈ symbols, symbol.name = name
  version : ∀ (k : Nat) (symbol : Symbol), symbols[k]? = some symbol → symbol.version.toNat = k
  shape : ∀ symbol ∈ symbols, ∀ other ∈ symbols, symbol.shape = other.shape

theorem lineage_nil (name : String) : Lineage name [] := ⟨nofun, nofun, nofun⟩

theorem lineage_append_iff {name : String} {older : List Symbol} {newest : Symbol} :
    Lineage name (older ++ [newest]) ↔
      Lineage name older ∧ newest.name = name ∧ newest.version.toNat = older.length ∧
        ∀ symbol ∈ older, newest.shape = symbol.shape := by
  constructor
  · intro h
    have hmem : newest ∈ older ++ [newest] := by simp
    refine ⟨⟨fun symbol hs => h.name symbol (by simp [hs]), fun k symbol hk => ?_,
      fun symbol hs other ho => h.shape symbol (by simp [hs]) other (by simp [ho])⟩,
      h.name newest hmem, h.version older.length newest (by simp),
      fun symbol hs => h.shape newest hmem symbol (by simp [hs])⟩
    have hlt := (List.getElem?_eq_some_iff.1 hk).1
    exact h.version k symbol (by rw [List.getElem?_append_left hlt, hk])
  · rintro ⟨h, hname, hversion, hshape⟩
    refine ⟨fun symbol hs => ?_, fun k symbol hk => ?_, fun symbol hs other ho => ?_⟩
    · rcases List.mem_append.1 hs with hs | hs
      · exact h.name symbol hs
      · rw [List.mem_singleton.1 hs, hname]
    · rcases Nat.lt_or_ge k older.length with hlt | hge
      · rw [List.getElem?_append_left hlt] at hk
        exact h.version k symbol hk
      · rw [List.getElem?_append_right hge, List.getElem?_singleton] at hk
        split at hk
        · cases hk
          omega
        · cases hk
    · rcases List.mem_append.1 hs with hs | hs <;> rcases List.mem_append.1 ho with ho | ho
      · exact h.shape symbol hs other ho
      · rw [List.mem_singleton.1 ho, hshape symbol hs]
      · rw [List.mem_singleton.1 hs, hshape other ho]
      · rw [List.mem_singleton.1 hs, List.mem_singleton.1 ho]

theorem lineage_declare (name : String) (ty : SymbolType) : Lineage name [.declare name ty] := by
  rw [← List.nil_append [_]]
  exact lineage_append_iff.2 ⟨lineage_nil name, rfl, rfl, nofun⟩

/-- The version after the newest one goes on with the lineage, unless the numbers run out. -/
theorem Lineage.append_next {name : String} {older : List Symbol} {newest : Symbol}
    (h : Lineage name (older ++ [newest])) (hfew : older.length + 1 < 2 ^ 32) :
    Lineage name (older ++ [newest] ++ [newest.next]) := by
  obtain ⟨-, hname, hversion, hshape⟩ := lineage_append_iff.1 h
  refine lineage_append_iff.2 ⟨h, hname, ?_, fun symbol hs => ?_⟩
  · rw [Symbol.version_next, UInt32.toNat_add, hversion, List.length_append]
    exact Nat.mod_eq_of_lt hfew
  · rw [Symbol.shape_next]
    rcases List.mem_append.1 hs with hs | hs
    · exact hshape symbol hs
    · rw [List.mem_singleton.1 hs]

/-- What the newest version keeps under edits is enough: it is either the only version, or its shape
is fixed. -/
theorem Lineage.append_keeps {name : String} {older : List Symbol} {newest edited : Symbol}
    (h : Lineage name (older ++ [newest])) (hk : newest.Keeps edited) :
    Lineage name (older ++ [edited]) := by
  obtain ⟨hl, hname, hversion, hshape⟩ := lineage_append_iff.1 h
  refine lineage_append_iff.2 ⟨hl, hk.name.trans hname, by rw [hk.version, hversion], ?_⟩
  intro symbol hs
  have hne : newest.version ≠ 0 := fun h0 => by
    have hlen : older.length = 0 := by rw [← hversion, h0]; rfl
    rw [List.length_eq_zero_iff.1 hlen] at hs
    cases hs
  rw [hk.shape hne, hshape symbol hs]

/-! ## Runs without replacement -/

theorem lineage_successor {m : Chronicle} {name : String} {ty : SymbolType} {symbol : Symbol}
    (hl : Lineage name (m.history name)) (hsucc : m.successor name ty = .ok symbol)
    (hfew : (m.history name).length < 2 ^ 32) : Lineage name (m.history name ++ [symbol]) := by
  rcases Chronicle.successor_cases hsucc with ⟨hnil, rfl⟩ | ⟨newest, hlast, -, rfl⟩
  · rw [hnil]
    exact lineage_declare name ty
  · rw [← List.dropLast_append_getLast? _ hlast] at hl hfew ⊢
    rw [List.length_append, List.length_singleton] at hfew
    exact hl.append_next hfew

namespace Represents

variable {s : Store} {m : Chronicle}

theorem length_history_le (h : s.Represents m) (name : String) :
    (m.history name).length ≤ m.order.length := by
  rw [h.length_history]
  exact List.count_le_length

theorem lineage_after (h : s.Represents m) (hl : ∀ name, Lineage name (m.history name))
    {action : Action} (hplain : action.replaces = false)
    (hfew : m.order.length < 2 ^ 32) (name : String) :
    Lineage name ((m.after action).history name) := by
  rcases Chronicle.history_after_cases hplain name with he | ⟨ty, symbol, edited, hsucc, hk, he⟩ |
    ⟨older, newest, edited, hold, hk, he⟩
  · rw [he]
    exact hl name
  · rw [he]
    exact (lineage_successor (hl name) hsucc
      (Nat.lt_of_le_of_lt (h.length_history_le name) hfew)).append_keeps hk
  · rw [he]
    have hline := hl name
    rw [hold] at hline
    exact hline.append_keeps hk

theorem lineage_run (h : s.Represents m) (hl : ∀ name, Lineage name (m.history name))
    {actions : List Action} (hplain : ∀ action ∈ actions, action.replaces = false)
    (hfew : (m.run actions).order.length < 2 ^ 32) (name : String) :
    Lineage name ((m.run actions).history name) := by
  induction actions generalizing s m with
  | nil => exact hl name
  | cons action rest ih =>
    have hle := (m.order_prefix_run (action :: rest)).length_le
    exact ih (h.after action)
      (h.lineage_after hl (hplain action (List.mem_cons_self ..)) (Nat.lt_of_le_of_lt hle hfew))
      (fun other hm => hplain other (List.mem_cons_of_mem _ hm)) hfew

end Represents

/-! ## What lineages answer -/

/-- `first` and `later` are the versions of `name`: they stand at the places of their numbers, are
of the type and the shape of `first`, and are found by their numbers up to that of the newest, which
is the latest. The name can be bound once more exactly as what it is. -/
structure Versioned (s : Store) (name : String) (first : Symbol) (later : List Symbol) : Prop where
  versions : s.versions name = .ok (first :: later)
  numbered : ∀ (k : Nat) (symbol : Symbol), (first :: later)[k]? = some symbol →
    symbol.name = name ∧ symbol.version.toNat = k
  uniform : ∀ symbol ∈ first :: later, symbol.type = first.type ∧ symbol.shape = first.shape
  checkFor : s.checkFor name = return .ok true
  newest : ∃ newest, s.latestVersion name = .ok newest ∧ newest.toNat = later.length ∧
    s.latest name = s.version name newest ∧
    ∀ v, (∃ symbol, s.version name v = .ok symbol) ↔ v ≤ newest
  version : ∀ v symbol, s.version name v = .ok symbol →
    symbol.version = v ∧ (first :: later)[v.toNat]? = some symbol
  bind : ∀ ty, (∃ bound, (s.bind name ty).value = .ok bound) ↔ ty = first.type

/-- The consistency check holds, and every bound name has its versions in their places. -/
structure SingleAssignment (s : Store) : Prop where
  check : s.check = return true
  bound : ∀ name, s.contains name = true → ∃ first later, s.Versioned name first later

namespace Represents

variable {s : Store} {m : Chronicle} {name : String} {first last : Symbol} {later : List Symbol}

theorem exists_bind_eq_ok_iff (h : s.Represents m)
    (hlast : (m.history name).getLast? = some last) (ty : SymbolType) :
    (∃ bound, (s.bind name ty).value = .ok bound) ↔ ty = last.type := by
  unfold Store.bind
  rw [h.successor_eq]
  unfold Chronicle.successor
  rw [hlast]
  by_cases hty : last.type = ty
  · simp [hty]
  · simp [hty, Ne.symm hty]

/-- The newest version stands after as many others as follow the first one. -/
theorem exists_newest (hhist : m.history name = first :: later) :
    ∃ last, (m.history name)[later.length]? = some last ∧
      (m.history name).getLast? = some last := by
  have hlt : later.length < (m.history name).length := by
    rw [hhist]
    exact Nat.lt_succ_self _
  refine ⟨_, List.getElem?_eq_getElem hlt, ?_⟩
  rw [List.getLast?_eq_getElem?, ← List.getElem?_eq_getElem hlt, hhist]
  rfl

theorem versioned (h : s.Represents m) (hl : Lineage name (m.history name))
    (hhist : m.history name = first :: later) : s.Versioned name first later where
  versions := by
    rw [h.versions_eq, Chronicle.versions, hhist]
    exact if_neg (List.cons_ne_nil _ _)
  numbered k symbol hk := by
    rw [← hhist] at hk
    exact ⟨hl.name symbol (List.mem_of_getElem? hk), hl.version k symbol hk⟩
  uniform symbol hs := by
    rw [← hhist] at hs
    have hshape := hl.shape symbol hs first (by simp [hhist])
    exact ⟨by rw [← Symbol.type_shape, hshape, Symbol.type_shape], hshape⟩
  checkFor := by
    have hbound : name ∈ m.order := Classical.not_not.1 fun hn => by
      rw [h.history_eq_nil_iff.2 hn] at hhist
      cases hhist
    exact h.checkFor_of_history hbound fun k symbol hk =>
      ⟨hl.name symbol (List.mem_of_getElem? hk), hl.version k symbol hk⟩
  newest := by
    obtain ⟨last, hat, hlast⟩ := exists_newest hhist
    have hlatest : s.latest name = .ok last := by
      rw [h.latest_eq, Chronicle.latest, hlast]
    have hnumber : last.version.toNat = later.length := hl.version _ last hat
    refine ⟨last.version, ?_, hnumber, ?_, fun v => ?_⟩
    · rw [h.latestVersion_eq, Chronicle.latestVersion, ← h.latest_eq, hlatest]
      rfl
    · rw [hlatest, h.version_eq_ok_iff.2 (by rw [hnumber]; exact hat)]
    · have hfound : (first :: later)[v.toNat]?.isSome ↔ v.toNat < later.length + 1 := by
        simp
      simp only [h.version_eq_ok_iff, ← Option.isSome_iff_exists]
      rw [hhist, hfound, UInt32.le_iff_toNat_le, hnumber]
      exact Nat.lt_succ_iff
  version v symbol hv := by
    rw [h.version_eq_ok_iff] at hv
    exact ⟨UInt32.toNat_inj.1 (hl.version _ symbol hv), by rw [← hhist, hv]⟩
  bind ty := by
    obtain ⟨last, -, hlast⟩ := exists_newest hhist
    have hshape := hl.shape last (List.mem_of_getLast? hlast) first (by simp [hhist])
    rw [h.exists_bind_eq_ok_iff hlast, ← Symbol.type_shape, hshape, Symbol.type_shape]

theorem singleAssignment (h : s.Represents m) (hl : ∀ name, Lineage name (m.history name)) :
    s.SingleAssignment where
  check := h.check_of_histories fun name k symbol hk =>
    ⟨(hl name).name symbol (List.mem_of_getElem? hk), (hl name).version k symbol hk⟩
  bound name hbound := by
    have hmem := (h.contains_iff name).1 hbound
    have hne := mt h.history_eq_nil_iff.1 (not_not.2 hmem)
    obtain ⟨first, later, hhist⟩ := List.exists_cons_of_ne_nil hne
    exact ⟨first, later, h.versioned (hl name) hhist⟩

end Represents

/-- There are at most as many symbols as there were attempts to bind. -/
theorem size_run_le (actions : List Action) :
    (run .empty actions).size ≤ actions.countP Action.binds := by
  rw [(represents_run actions).size_eq_length]
  exact Nat.le_trans (Chronicle.length_order_run_le .empty actions) (Nat.zero_add _).le

/-- Without replacement, and with fewer than `2 ^ 32` symbols bound, every state of the store is in
single assignment form. -/
theorem run_singleAssignment (actions : List Action)
    (hplain : ∀ action ∈ actions, action.replaces = false)
    (hfew : (run .empty actions).size < 2 ^ 32) : (run .empty actions).SingleAssignment := by
  rw [(represents_run actions).size_eq_length] at hfew
  exact (represents_run actions).singleAssignment
    (represents_empty.lineage_run lineage_nil hplain hfew)

/-- Two names, bound in turn; some edits come too late, and one bind asks for another type. -/
def interleavedPlan : List Action :=
  [.bind "key" "num" [.edit (.setWidth 2), .edit (.pushElement 1)],
    .bind "table" "array" [.edit (.pushElement 1), .edit (.pushElement 3)],
    .bind "key" "num" [.edit (.setWidth 5), .edit (.bindWires [⟨7⟩, ⟨8⟩])],
    .bind "key" "func" [],
    .amend "table" [.edit (.bindElement 1 [⟨1⟩, ⟨2⟩, ⟨3⟩]), .edit (.bindElement 4 [])],
    .bind "table" "array" [.edit (.pushElement 9)]]

theorem singleAssignment_interleavedPlan :
    (∀ action ∈ interleavedPlan, action.replaces = false) ∧
    (run .empty interleavedPlan).size = 4 ∧ (run .empty interleavedPlan).SingleAssignment :=
  ⟨by decide, by decide, run_singleAssignment interleavedPlan (by decide) (by decide)⟩

end WireLedger.Store
