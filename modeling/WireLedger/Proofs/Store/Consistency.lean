import WireLedger.Proofs.Store.Refinement
/-!
# What the consistency check finds

The check of a name looks for the first place of its history that does not hold that version of the
name, the misfit. The check of all names looks for the first of them whose check fails.

Results:
* `misfit?_eq_none_iff`, `firstMisfit_of_eq_some`, `misfit?_append`: the first misfit of a history.
* `Represents.checkFor_eq`: the check of a name depends on its history alone.
* `checkEach_cases`: the check of all names is that of the first name which fails.
* `checkFor_of_history`, `check_of_histories`: without misfits the checks succeed and tell nothing.
-/
namespace WireLedger

/-! ## Misfits of a history -/

/-- The symbol is version `k` of `name`. -/
structure Symbol.Fits (symbol : Symbol) (name : String) (k : Nat) : Prop where
  name : symbol.name = name
  version : symbol.version.toNat = k

instance (symbol : Symbol) (name : String) (k : Nat) : Decidable (symbol.Fits name k) :=
  decidable_of_iff (symbol.name = name ∧ symbol.version.toNat = k)
    ⟨fun h => ⟨h.1, h.2⟩, fun h => ⟨h.name, h.version⟩⟩

namespace Store

/-- The first symbol that does not fit its place in the history of `name`, and that place, counted
from `start` on. -/
def misfitFrom? (name : String) (start : Nat) (symbols : List Symbol) : Option (Symbol × Nat) :=
  (symbols.zipIdx start).find? fun p => ¬ p.1.Fits name p.2

/-- The first symbol that does not fit its place in the history of `name`, and that place. -/
def misfit? (name : String) (symbols : List Symbol) : Option (Symbol × Nat) :=
  misfitFrom? name 0 symbols

/-- The symbol at place `k` is the first that does not fit its place. -/
structure FirstMisfit (name : String) (symbols : List Symbol) (k : Nat) (symbol : Symbol) :
    Prop where
  found : symbols[k]? = some symbol
  misfit : ¬ symbol.Fits name k
  least : ∀ (j : Nat) (earlier : Symbol), j < k → symbols[j]? = some earlier → earlier.Fits name j

variable {name : String} {symbols : List Symbol} {k : Nat} {symbol : Symbol}

theorem misfit?_eq_none_iff : misfit? name symbols = none ↔
    ∀ (k : Nat) (symbol : Symbol), symbols[k]? = some symbol → symbol.Fits name k := by
  unfold misfit? misfitFrom?
  rw [List.find?_eq_none]
  constructor
  · intro h k symbol hk
    simpa using h (symbol, k) (List.mk_mem_zipIdx_iff_getElem?.2 hk)
  · rintro h ⟨symbol, k⟩ hm
    simpa using h k symbol (List.mk_mem_zipIdx_iff_getElem?.1 hm)

theorem firstMisfit_of_eq_some (h : misfit? name symbols = some (symbol, k)) :
    FirstMisfit name symbols k symbol := by
  obtain ⟨hbad, i, hi, he, hleast⟩ := List.find?_eq_some_iff_getElem.1 h
  rw [List.getElem_zipIdx, Prod.mk.injEq, Nat.zero_add] at he
  obtain ⟨hsymbol, rfl⟩ := he
  rw [List.length_zipIdx] at hi
  refine ⟨List.getElem?_eq_some_iff.2 ⟨hi, hsymbol⟩, by simpa using hbad, ?_⟩
  intro j earlier hj hearlier
  obtain ⟨hlt, rfl⟩ := List.getElem?_eq_some_iff.1 hearlier
  simpa using hleast j hj

/-- A misfit stays the first one whatever follows. -/
theorem misfit?_append (name : String) (older : List Symbol) (newest : Symbol) :
    misfit? name (older ++ [newest]) = (misfit? name older).or
      (if newest.Fits name older.length then none else some (newest, older.length)) := by
  unfold misfit? misfitFrom?
  rw [List.zipIdx_append, List.find?_append, Nat.zero_add, List.zipIdx_singleton,
    List.find?_singleton]
  by_cases h : newest.Fits name older.length <;> simp [h]

end Store

/-- What the check of a key finds, and tells. -/
def Chronicle.checkFor (m : Chronicle) (name : String) : Logged (Except SymbolError Bool) :=
  if m.history name = [] then return .error (.unknownSymbol name)
  else
    match Store.misfit? name (m.history name) with
    | none => return .ok true
    | some (symbol, k) => ⟨.ok false, [.gap name k symbol.version]⟩

namespace Store

/-! ## The check of one name -/

theorem gapFrom?_eq {s : Store} {name : String} {ids : List SymbolId} {symbols : List Symbol}
    (hids : ids.map s.get? = symbols.map some) (expected : Nat) :
    s.gapFrom? name expected ids =
      (misfitFrom? name expected symbols).map fun p => (p.2, p.1.version) := by
  induction ids generalizing symbols expected with
  | nil =>
    cases symbols with
    | nil => rfl
    | cons => simp at hids
  | cons id ids ih =>
    cases symbols with
    | nil => simp at hids
    | cons symbol symbols =>
      obtain ⟨hget, hrest⟩ := List.cons.inj hids
      rw [gapFrom?, hget]
      unfold misfitFrom?
      rw [List.zipIdx_cons, List.find?_cons]
      by_cases hfits : symbol.Fits name expected
      · simp only [if_pos (And.intro hfits.name hfits.version), ih hrest, hfits, not_true_eq_false,
          decide_false]
        rfl
      · have hgood : ¬ (symbol.name = name ∧ symbol.version.toNat = expected) :=
          fun h => hfits ⟨h.1, h.2⟩
        simp only [if_neg hgood, hfits, not_false_eq_true, decide_true, Option.map_some]

/-- A history that is not empty has no gap, or one that is told of. -/
theorem checkHistory_cases (s : Store) (name : String) {ids : List SymbolId} (hids : ids ≠ []) :
    s.checkHistory name ids = pure true ∨
      ∃ warning, s.checkHistory name ids = ⟨false, [warning]⟩ := by
  unfold checkHistory
  rw [if_neg (by simpa using hids)]
  split
  · exact .inl rfl
  · exact .inr ⟨_, rfl⟩

/-! ## The check of all names -/

/-- All histories pass, or the check is that of one which fails. -/
theorem checkEach_cases (s : Store) {entries : List (String × List SymbolId)}
    (hne : ∀ entry ∈ entries, entry.2 ≠ []) :
    (s.checkEach entries = pure true ∧
      ∀ entry ∈ entries, s.checkHistory entry.1 entry.2 = pure true) ∨
    ∃ entry ∈ entries, ∃ warning, s.checkHistory entry.1 entry.2 = ⟨false, [warning]⟩ ∧
      s.checkEach entries = ⟨false, [warning]⟩ := by
  induction entries with
  | nil => exact .inl ⟨rfl, nofun⟩
  | cons entry rest ih =>
    rcases s.checkHistory_cases entry.1 (hne entry (List.mem_cons_self ..)) with
      hgood | ⟨warning, hbad⟩
    · have hstep : s.checkEach (entry :: rest) = s.checkEach rest := by
        rw [checkEach, hgood]
        rfl
      rw [hstep]
      rcases ih fun other hm => hne other (List.mem_cons_of_mem _ hm) with
        ⟨hall, hrest⟩ | ⟨other, hm, warning, hbad, heach⟩
      · exact .inl ⟨hall, List.forall_mem_cons.2 ⟨hgood, hrest⟩⟩
      · exact .inr ⟨other, List.mem_cons_of_mem _ hm, warning, hbad, heach⟩
    · refine .inr ⟨entry, List.mem_cons_self .., warning, hbad, ?_⟩
      rw [checkEach, hbad]
      rfl

namespace Represents

variable {s : Store} {m : Chronicle} {name : String}

/-! ## Checks of a store that stands for a chronicle -/

theorem ne_nil_of_mem_entries (h : s.Represents m) {entry : String × List SymbolId}
    (hm : entry ∈ s.index.entries) : entry.2 ≠ [] := by
  obtain ⟨hmem, he⟩ := h.eq_places (s.index.history?_of_mem_entries hm)
  rw [he]
  exact fun hnil => Chronicle.places_eq_nil_iff.1 hnil hmem

theorem checkFor_of_mem_entries {ids : List SymbolId} (hm : (name, ids) ∈ s.index.entries) :
    s.checkFor name = Except.ok <$> s.checkHistory name ids := by
  have hids : s.history name = .ok ids := by
    rw [Store.history, s.index.history?_of_mem_entries hm]
  rw [checkFor, hids]
  exact congrArg (Logged.mk _) (List.append_nil _)

/-- What the check of a name finds and tells depends on the history of the name alone. -/
theorem checkFor_eq (h : s.Represents m) (name : String) : s.checkFor name = m.checkFor name := by
  unfold Store.checkFor Chronicle.checkFor
  rw [h.history_eq]
  by_cases hnil : m.history name = []
  · rw [if_pos hnil, if_pos hnil]
  · have hplaces : m.places name ≠ [] := mt h.places_eq_nil_iff.1 hnil
    rw [if_neg hnil, if_neg hnil]
    simp only [checkHistory, List.isEmpty_iff, if_neg hplaces, gapFrom?_eq (h.symbols name)]
    unfold misfit?
    cases misfitFrom? name 0 (m.history name) <;> rfl

theorem checkFor_of_history (h : s.Represents m) (hbound : name ∈ m.order)
    (hgood : ∀ (k : Nat) (symbol : Symbol), (m.history name)[k]? = some symbol →
      symbol.Fits name k) : s.checkFor name = return .ok true := by
  rw [h.checkFor_eq, Chronicle.checkFor, if_neg (mt h.history_eq_nil_iff.1 (not_not.2 hbound)),
    misfit?_eq_none_iff.2 hgood]

theorem check_of_histories (h : s.Represents m)
    (hgood : ∀ (name : String) (k : Nat) (symbol : Symbol), (m.history name)[k]? = some symbol →
      symbol.Fits name k) : s.check = return true := by
  rcases s.checkEach_cases fun _ => h.ne_nil_of_mem_entries with ⟨hall, -⟩ | ⟨entry, hm, w, hbad, -⟩
  · exact hall
  · obtain ⟨hbound, -⟩ := h.eq_places (s.index.history?_of_mem_entries hm)
    have hfor := h.checkFor_of_history hbound (hgood entry.1)
    rw [checkFor_of_mem_entries hm, hbad] at hfor
    cases hfor

end Represents

end Store

end WireLedger
