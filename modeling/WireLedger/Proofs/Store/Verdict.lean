import WireLedger.Proofs.Store.Acting
import WireLedger.Proofs.Store.Consistency
import WireLedger.Proofs.Store.Handle
import WireLedger.Proofs.Symbol.Shape
/-!
# The verdict of the consistency check

The check of a name is right about the history of the name and tells of its first misfit; the check
of all names is right in whatever order it meets them. A bind goes on from the newest version, so a
history that fits goes on fitting and one with a misfit keeps it, and no action touches the history
of another name. A misfit that is not the newest version any more cannot be mended.

Results:
* `Chronicle.history_after_of_ne`: the frame of an action.
* `Represents.checksName`, `Represents.checksAll`: both checks are exact.
* `Chronicle.checkFor_push_next`: a bind keeps the verdict.
* `run_checks`: all of this in every state of a store.
-/
namespace WireLedger

namespace Chronicle

variable {m : Chronicle} {name : String}

/-! ## What an action leaves -/

/-- An action changes the history of its own name only. -/
theorem history_after_of_ne {action : Store.Action} (hne : name ≠ action.name) :
    (m.after action).history name = m.history name := by
  rcases m.after_cases action with ⟨-, h⟩ | ⟨_, _, _, _, _, rfl, -, -, h⟩ | ⟨_, _, _, rfl, -, h⟩ |
    ⟨_, _, _, _, rfl, -, -, h⟩ <;> rw [h]
  · exact history_push_of_ne m _ hne
  · exact history_amend_of_ne m _ hne
  · exact history_amend_of_ne m _ hne

/-- What the check of a name finds depends on the history of the name alone. -/
theorem checkFor_congr {m' : Chronicle} (h : m'.history name = m.history name) :
    m'.checkFor name = m.checkFor name := by
  unfold checkFor
  rw [h]

/-! ## What a bind does to the verdict -/

/-- The version after one that fits its place fits the next place, unless the numbers run out. -/
theorem fits_next {newest symbol : Symbol} {k : Nat} (h : newest.Fits name k)
    (hfew : newest.version.toNat + 1 < 2 ^ 32) (hk : newest.next.Keeps symbol) :
    symbol.Fits name (k + 1) where
  name := hk.name.trans h.name
  version := by
    rw [hk.version, Symbol.version_next, UInt32.toNat_add, h.version]
    rw [h.version] at hfew
    exact Nat.mod_eq_of_lt hfew

theorem checkFor_push_next {newest symbol : Symbol}
    (hlast : (m.history name).getLast? = some newest) (hfew : newest.version.toNat + 1 < 2 ^ 32)
    (hk : newest.next.Keeps symbol) : (m.push name symbol).checkFor name = m.checkFor name := by
  have hsplit := List.dropLast_append_getLast? _ hlast
  have hne := List.ne_nil_of_mem (List.mem_of_getLast? hlast)
  have hsame : Store.misfit? name (m.history name ++ [symbol]) =
      Store.misfit? name (m.history name) := by
    rw [Store.misfit?_append]
    cases hfind : Store.misfit? name (m.history name) with
    | some found => rfl
    | none =>
      have hat : (m.history name)[(m.history name).dropLast.length]? = some newest := by
        rw [List.getLast?_eq_getElem?] at hlast
        rw [List.length_dropLast, hlast]
      have hfits := fits_next (Store.misfit?_eq_none_iff.1 hfind _ _ hat) hfew hk
      have hlen : (m.history name).dropLast.length + 1 = (m.history name).length := by
        rw [← List.length_singleton (a := newest), ← List.length_append, hsplit]
      rw [hlen] at hfits
      rw [if_pos hfits]
      rfl
  unfold checkFor
  rw [history_push_self, hsame, if_neg hne, if_neg (List.concat_ne_nil _ _)]

theorem checkFor_push_declare {symbol : Symbol} {ty : SymbolType} (hnil : m.history name = [])
    (hk : (Symbol.declare name ty).Keeps symbol) :
    (m.push name symbol).checkFor name = pure (.ok true) := by
  have hfits : symbol.Fits name 0 := ⟨hk.name, by rw [hk.version]; rfl⟩
  have hnone : Store.misfit? name ([] ++ [symbol]) = none := by
    rw [Store.misfit?_append, List.length_nil, if_pos hfits]
    rfl
  unfold checkFor
  rw [history_push_self, hnil, if_neg (List.concat_ne_nil _ _), hnone]

end Chronicle

namespace Store

/-! ## What the checks are right about -/

/-- The check of one name: it passes, without a word, exactly if every place of the history holds
that version of the name, and else it tells once, of the first misfit. -/
structure ChecksName (s : Store) (name : String) : Prop where
  unbound : s.contains name = false → s.checkFor name = pure (.error (.unknownSymbol name))
  verdict : ∀ symbols, s.versions name = .ok symbols →
    ((s.checkFor name).value = .ok true ↔
      ∀ (k : Nat) (symbol : Symbol), symbols[k]? = some symbol → symbol.Fits name k)
  passes : (s.checkFor name).value = .ok true → (s.checkFor name).events = []
  fails : ∀ symbols, s.versions name = .ok symbols → (s.checkFor name).value ≠ .ok true →
    ∃ k symbol, FirstMisfit name symbols k symbol ∧
      s.checkFor name = ⟨.ok false, [.gap name k symbol.version]⟩

/-- The check of all names, in whatever order their histories are met; `check` meets them in
ascending order of names. It passes, without a word, exactly if the check of each name does, and
else it tells once, what the check of one of the names tells. -/
structure ChecksAll (s : Store) : Prop where
  verdict : ∀ entries, entries.Perm s.index.entries →
    ((s.checkEach entries).value = true ↔ ∀ name ∈ s.names, (s.checkFor name).value = .ok true)
  passes : ∀ entries, entries.Perm s.index.entries →
    (s.checkEach entries).value = true → (s.checkEach entries).events = []
  fails : ∀ entries, entries.Perm s.index.entries → (s.checkEach entries).value = false →
    ∃ name ∈ s.names, ∃ warning, s.checkFor name = ⟨.ok false, [warning]⟩ ∧
      (s.checkEach entries).events = [warning]

/-- What becomes of verdicts: a bind keeps that of its name and starts with a good one, an action on
another name changes none, and a misfit that was superseded keeps its name from passing for good. -/
structure VerdictsLast (s : Store) : Prop where
  rebind : ∀ name typeName requests newest out,
    (s.act (.bind name typeName requests)).value = .ok out → s.latest name = .ok newest →
    newest.version.toNat + 1 < 2 ^ 32 → out.1.checkFor name = s.checkFor name
  firstBind : ∀ name typeName requests out,
    (s.act (.bind name typeName requests)).value = .ok out → s.contains name = false →
    out.1.checkFor name = pure (.ok true)
  apart : ∀ action name, name ≠ action.name → (s.after action).checkFor name = s.checkFor name
  superseded : ∀ name symbols k symbol, s.versions name = .ok symbols →
    symbols[k]? = some symbol → k + 1 < symbols.length → ¬ symbol.Fits name k →
    ∀ more, ((s.run more).checkFor name).value = .ok false

namespace Represents

variable {s : Store} {m : Chronicle} {name : String}

/-- The bound names are those with versions, and these are their histories. -/
theorem versions_eq_ok_iff (h : s.Represents m) {symbols : List Symbol} :
    s.versions name = .ok symbols ↔ m.history name ≠ [] ∧ symbols = m.history name := by
  rw [h.versions_eq, Chronicle.versions]
  by_cases hnil : m.history name = []
  · simp [hnil]
  · simp [hnil, eq_comm (a := symbols)]

theorem checksName (h : s.Represents m) (name : String) : s.ChecksName name where
  unbound hc := by
    rw [h.checkFor_eq, Chronicle.checkFor, if_pos (h.contains_eq_false_iff.1 hc)]
  verdict symbols hsymbols := by
    obtain ⟨hne, rfl⟩ := h.versions_eq_ok_iff.1 hsymbols
    rw [h.checkFor_eq, Chronicle.checkFor, if_neg hne, ← misfit?_eq_none_iff]
    cases misfit? name (m.history name) <;> simp
  passes := by
    rw [h.checkFor_eq, Chronicle.checkFor]
    split
    · exact fun _ => rfl
    · cases misfit? name (m.history name) <;> simp
  fails symbols hsymbols := by
    obtain ⟨hne, rfl⟩ := h.versions_eq_ok_iff.1 hsymbols
    rw [h.checkFor_eq, Chronicle.checkFor, if_neg hne]
    cases hfind : misfit? name (m.history name) with
    | none => exact fun hbad => absurd rfl hbad
    | some found =>
      obtain ⟨symbol, k⟩ := found
      exact fun _ => ⟨k, symbol, firstMisfit_of_eq_some hfind, rfl⟩

/-- The check of all names comes to the verdict of all the checks of one name. -/
theorem checkEach_perm (h : s.Represents m) {entries : List (String × List SymbolId)}
    (hperm : entries.Perm s.index.entries) :
    (s.checkEach entries = pure true ∧ ∀ name ∈ s.names, s.checkFor name = pure (.ok true)) ∨
    ∃ name ∈ s.names, ∃ warning, s.checkFor name = ⟨.ok false, [warning]⟩ ∧
      s.checkEach entries = ⟨false, [warning]⟩ := by
  have hmem : ∀ entry ∈ entries, entry ∈ s.index.entries := fun entry => hperm.mem_iff.1
  rcases s.checkEach_cases fun entry hm => h.ne_nil_of_mem_entries (hmem entry hm) with
    ⟨hall, hgood⟩ | ⟨entry, hm, warning, hbad, heach⟩
  · refine .inl ⟨hall, fun name hname => ?_⟩
    obtain ⟨⟨_, ids⟩, hentry, rfl⟩ := List.mem_map.1 hname
    rw [checkFor_of_mem_entries hentry, hgood _ (hperm.mem_iff.2 hentry)]
    rfl
  · refine .inr ⟨entry.1, List.mem_map_of_mem (hmem entry hm), warning, ?_, heach⟩
    rw [checkFor_of_mem_entries (hmem entry hm), hbad]
    rfl

theorem checksAll (h : s.Represents m) : s.ChecksAll where
  verdict entries hperm := by
    rcases h.checkEach_perm hperm with ⟨hall, hgood⟩ | ⟨name, hname, warning, hbad, heach⟩
    · rw [hall]
      exact iff_of_true rfl fun name hname => by rw [hgood name hname]; rfl
    · rw [heach]
      refine iff_of_false nofun fun hgood => ?_
      have := hgood name hname
      rw [hbad] at this
      cases this
  passes entries hperm hpass := by
    rcases h.checkEach_perm hperm with ⟨hall, -⟩ | ⟨_, _, _, -, heach⟩
    · rw [hall]
      rfl
    · rw [heach] at hpass
      cases hpass
  fails entries hperm hfail := by
    rcases h.checkEach_perm hperm with ⟨hall, -⟩ | ⟨name, hname, warning, hbad, heach⟩
    · rw [hall] at hfail
      cases hfail
    · exact ⟨name, hname, warning, hbad, by rw [heach]⟩

/-! ## What becomes of verdicts -/

/-- What a bind leaves stands for the history with one more version of the name. -/
theorem bind_of_ok (h : s.Represents m) {typeName : String} {requests : List Symbol.Request}
    {out : Store × Replies} (hact : (s.act (.bind name typeName requests)).value = .ok out) :
    ∃ ty symbol edited, m.successor name ty = .ok symbol ∧ symbol.Keeps edited ∧
      out.1.Represents (m.push name edited) := by
  have hout := (h.act (.bind name typeName requests)).2
  rw [hact] at hout
  obtain ⟨mout, hmact, hrep, -⟩ := hout.exists_of_ok
  obtain ⟨ty, symbol, -, hs, hafter⟩ := Chronicle.after_bind hmact
  refine ⟨ty, symbol, _, hs, symbol.keeps_answerAll requests, ?_⟩
  rw [← hafter, Chronicle.after, hmact]
  exact hrep

theorem verdictsLast (h : s.Represents m) : s.VerdictsLast where
  rebind name typeName requests newest out hact hlatest hfew := by
    obtain ⟨ty, symbol, edited, hs, hk, hout⟩ := h.bind_of_ok hact
    rw [h.latest_eq] at hlatest
    have hlast := Chronicle.getLast?_eq_of_latest hlatest
    rw [hout.checkFor_eq, h.checkFor_eq]
    rcases Chronicle.successor_cases hs with ⟨hnil, -⟩ | ⟨previous, hprevious, -, rfl⟩
    · rw [hnil] at hlast
      cases hlast
    · cases hlast.symm.trans hprevious
      exact Chronicle.checkFor_push_next hlast hfew hk
  firstBind name typeName requests out hact hc := by
    obtain ⟨ty, symbol, edited, hs, hk, hout⟩ := h.bind_of_ok hact
    have hnil := h.contains_eq_false_iff.1 hc
    rw [hout.checkFor_eq]
    rcases Chronicle.successor_cases hs with ⟨-, rfl⟩ | ⟨previous, hprevious, -⟩
    · exact Chronicle.checkFor_push_declare hnil hk
    · rw [hnil] at hprevious
      cases hprevious
  apart action name hne := by
    rw [(h.after action).checkFor_eq, h.checkFor_eq]
    exact Chronicle.checkFor_congr (Chronicle.history_after_of_ne hne)
  superseded name symbols k symbol hsymbols hk hlt hbad more := by
    obtain ⟨hne, rfl⟩ := h.versions_eq_ok_iff.1 hsymbols
    have hlater := h.run more
    have hstays := (h.getElem?_history_run hlt more).trans hk
    have hne' := List.ne_nil_of_mem (List.mem_of_getElem? hstays)
    rw [hlater.checkFor_eq, Chronicle.checkFor, if_neg hne']
    cases hfind : misfit? name ((m.run more).history name) with
    | none => exact absurd (misfit?_eq_none_iff.1 hfind k symbol hstays) hbad
    | some found => rfl

end Represents

/-- Whatever was done to a store, its checks are exact, and their verdicts last. -/
theorem run_checks (actions : List Action) :
    (∀ name, (run .empty actions).ChecksName name) ∧ (run .empty actions).ChecksAll ∧
      (run .empty actions).VerdictsLast :=
  have h := represents_run actions
  ⟨h.checksName, h.checksAll, h.verdictsLast⟩

/-- Version 1 was declared anew, which makes it a second version 0. -/
example : (run .empty [.bind "key" "num" [], .bind "key" "num" [],
    .replace "key" (.declare "key" .array), .bind "key" "array" []]).check.events =
    [.gap "key" 1 0] := by decide

end Store

end WireLedger
