import WireLedger.Proofs.Store.Fault
import WireLedger.Proofs.Store.Verdict
/-!
# Names do not depend on each other

What comes of an action depends on the history of its own name alone, and it changes that history
alone, as long as no replacement is taken from the history of another name. So of a run only the
actions on a name count for that name, and runs that differ in the order of actions on different
names come to the same, but for the handles, which tell the order of binding.

Results:
* `Chronicle.act_congr`: what an action depends on.
* `Represents.run_filter`: of a run only the actions on a name count for it.
* `same_per_name`: runs that are the same name by name.
-/
namespace WireLedger

namespace Store

/-! ## What comes of actions -/

/-- Whether an action reads and changes the history of its own name only. Just a replacement can be
taken from another history. -/
def Action.selfContained : Action → Bool
  | replace name source => source.reads?.all fun place => place.1 == name
  | _ => true

/-- The answers to an action, or why it is refused, and what is told of it. -/
def outcome (s : Store) (action : Action) : Logged (Except Refusal Replies) :=
  Except.map Prod.snd <$> s.act action

/-- Actions in order, each with what comes of it. -/
def outcomes (s : Store) : List Action → List (Action × Logged (Except Refusal Replies))
  | [] => []
  | action :: rest => (action, s.outcome action) :: outcomes (s.after action) rest

theorem Alike.map_eq {ε α β γ : Type} {R : α → β → Prop} {x : Logged (Except ε α)}
    {y : Logged (Except ε β)} {f : α → γ} {g : β → γ} (h : Alike R x y)
    (hR : ∀ a b, R a b → f a = g b) : Except.map f <$> x = Except.map g <$> y := by
  obtain ⟨value, events⟩ := x
  obtain ⟨value', events'⟩ := y
  obtain ⟨rfl, hout⟩ := h
  refine congrArg (Logged.mk · events) ?_
  cases value with
  | ok a =>
    obtain ⟨b, rfl, hab⟩ := hout.exists_of_ok
    exact congrArg Except.ok (hR a b hab)
  | error refusal =>
    rw [hout.eq_of_error]
    rfl

end Store

namespace Chronicle

open Store (Alike)

variable {m m' : Chronicle} {name : String}

/-! ## What an action depends on -/

/-- The same history of `name` and the same answers. -/
def SameOn (name : String) (a b : Chronicle × Store.Replies) : Prop :=
  a.1.history name = b.1.history name ∧ a.2 = b.2

theorem latest_congr (h : m.history name = m'.history name) : m.latest name = m'.latest name := by
  unfold latest
  rw [h]

theorem successor_congr (h : m.history name = m'.history name) (ty : SymbolType) :
    m.successor name ty = m'.successor name ty := by
  unfold successor
  rw [h]

theorem version_congr (h : m.history name = m'.history name) (v : UInt32) :
    m.version name v = m'.version name v := by
  unfold version
  rw [h]

/-- A replacement that is taken from no other history. -/
theorem replacement_congr (h : m.history name = m'.history name) {source : Store.Replacement}
    (hself : (Store.Action.replace name source).selfContained = true) :
    m.replacement source = m'.replacement source := by
  cases source with
  | given symbol | declare other ty => rfl
  | copy other v =>
    obtain rfl : other = name := by
      simpa [Store.Action.selfContained, Store.Replacement.reads?] using hself
    exact version_congr h v
  | next other v =>
    obtain rfl : other = name := by
      simpa [Store.Action.selfContained, Store.Replacement.reads?] using hself
    exact congrArg (Except.map Symbol.next) (version_congr h v)

theorem push_congr (h : m.history name = m'.history name) (symbol : Symbol) :
    (m.push name symbol).history name = (m'.push name symbol).history name := by
  rw [history_push_self, history_push_self, h]

theorem amend_congr (h : m.history name = m'.history name) (symbol : Symbol) :
    (m.amend name symbol).history name = (m'.amend name symbol).history name := by
  rw [history_amend_self, history_amend_self, h]

theorem answerLatest_congr (h : m.history name = m'.history name)
    (requests : List Symbol.Request) (events : List Event) :
    Alike (SameOn name) ⟨(m.answerLatest name requests).mapError Store.Refusal.symbol, events⟩
      ⟨(m'.answerLatest name requests).mapError Store.Refusal.symbol, events⟩ := by
  unfold answerLatest
  rw [latest_congr h]
  cases m'.latest name with
  | ok symbol => exact ⟨rfl, amend_congr h _, rfl⟩
  | error refusal => exact ⟨rfl, rfl⟩

/-- What comes of an action depends on the history of its own name alone. -/
theorem act_congr {action : Store.Action} (hself : action.selfContained = true)
    (h : m.history action.name = m'.history action.name) :
    Alike (SameOn action.name) (m.act action) (m'.act action) := by
  cases action with
  | bind name typeName requests =>
    replace h : m.history name = m'.history name := h
    simp only [act]
    cases SymbolType.ofName? typeName with
    | none => exact ⟨rfl, rfl⟩
    | some ty =>
      simp only [bind, successor_congr h]
      cases m'.successor name ty with
      | error refusal => exact ⟨rfl, rfl⟩
      | ok symbol =>
        exact answerLatest_congr (push_congr h symbol) requests _
  | amend name requests => exact answerLatest_congr h requests []
  | replace name source =>
    replace h : m.history name = m'.history name := h
    simp only [act, replaceLatest, replacement_congr h hself, latest_congr h]
    cases m'.replacement source with
    | error refusal => exact ⟨rfl, rfl⟩
    | ok symbol =>
      cases m'.latest name with
      | error refusal => exact ⟨rfl, rfl⟩
      | ok old => exact ⟨rfl, amend_congr h symbol, rfl⟩

theorem history_after_congr {action : Store.Action} (hself : action.selfContained = true)
    (h : m.history action.name = m'.history action.name) :
    (m.after action).history action.name = (m'.after action).history action.name := by
  have hout := (act_congr hself h).2
  unfold after
  cases hact : (m.act action).value with
  | ok out =>
    rw [hact] at hout
    obtain ⟨out', hact', hsame⟩ := hout.exists_of_ok
    rw [hact']
    exact hsame.1
  | error refusal =>
    rw [hact] at hout
    rw [hout.eq_of_error]
    exact h

end Chronicle

namespace Store

namespace Represents

variable {s s' : Store} {m m' : Chronicle} {name : String}

theorem outcome_congr (h : s.Represents m) (h' : s'.Represents m') {action : Action}
    (hself : action.selfContained = true)
    (hsame : m.history action.name = m'.history action.name) :
    s.outcome action = s'.outcome action := by
  have hleft := (h.act action).map_eq fun _ _ hab => hab.2
  have hright := (h'.act action).map_eq fun _ _ hab => hab.2
  exact (hleft.trans ((Chronicle.act_congr hself hsame).map_eq fun _ _ hab => hab.2)).trans
    hright.symm

/-- Of a run only the actions on a name count for that name. -/
theorem run_filter (h : s.Represents m) (h' : s'.Represents m')
    (hsame : m.history name = m'.history name) {actions : List Action}
    (hself : ∀ action ∈ actions, action.selfContained = true) :
    (s.outcomes actions).filter (·.1.name = name) =
        s'.outcomes (actions.filter (·.name = name)) ∧
      (m.run actions).history name = (m'.run (actions.filter (·.name = name))).history name := by
  induction actions generalizing s m s' m' with
  | nil => exact ⟨rfl, hsame⟩
  | cons action rest ih =>
    have hrest : ∀ other ∈ rest, other.selfContained = true :=
      fun other hm => hself other (List.mem_cons_of_mem _ hm)
    by_cases hname : action.name = name
    · subst hname
      have hown := hself action (List.mem_cons_self ..)
      obtain ⟨hout, hhist⟩ := ih (h.after action) (h'.after action)
        (Chronicle.history_after_congr hown hsame) hrest
      rw [List.filter_cons_of_pos (by simp)]
      refine ⟨?_, hhist⟩
      rw [outcomes, List.filter_cons_of_pos (by simp), hout, h.outcome_congr h' hown hsame]
      rfl
    · have hleft := Chronicle.history_after_of_ne (m := m) (Ne.symm hname)
      obtain ⟨hout, hhist⟩ := ih (h.after action) h' (hleft.trans hsame) hrest
      rw [List.filter_cons_of_neg (by simpa using hname)]
      refine ⟨?_, hhist⟩
      rw [outcomes, List.filter_cons_of_neg (by simpa using hname), hout]

end Represents

/-! ## Stores that are the same name by name -/

/-- Both stores hold the same symbols under each name; the handles may differ. The histories may be
checked in any order. -/
structure SameByName (s t : Store) : Prop where
  versions : ∀ name, s.versions name = t.versions name
  names : s.names = t.names
  size : s.size = t.size
  checkFor : ∀ name, s.checkFor name = t.checkFor name
  check : ∀ entries entries', entries.Perm s.index.entries → entries'.Perm t.index.entries →
    (s.checkEach entries).value = (t.checkEach entries').value

theorem Represents.sameByName {s t : Store} {m n : Chronicle} (h : s.Represents m)
    (h' : t.Represents n) (hsame : ∀ name, m.history name = n.history name) : s.SameByName t := by
  have hmem : ∀ name, name ∈ n.order ↔ name ∈ m.order := fun name => by
    rw [← not_iff_not, ← h'.history_eq_nil_iff, ← h.history_eq_nil_iff, hsame]
  have hnames : s.names = t.names := by
    rw [h'.names_eq]
    exact (h.mergeSort_eq_names n.order.nodup_dedup fun name =>
      List.mem_dedup.trans (hmem name)).symm
  have hchecks : ∀ name, s.checkFor name = t.checkFor name := fun name => by
    rw [h.checkFor_eq, h'.checkFor_eq]
    exact Chronicle.checkFor_congr (hsame name)
  refine ⟨fun name => ?_, hnames, ?_, hchecks, fun entries entries' hperm hperm' => ?_⟩
  · rw [h.versions_eq, h'.versions_eq, Chronicle.versions, Chronicle.versions, hsame]
  · have hkeys : m.keys.Perm n.keys :=
      (List.perm_ext_iff_of_nodup m.order.nodup_dedup n.order.nodup_dedup).2 fun name => by
        rw [List.mem_dedup, List.mem_dedup, hmem]
    rw [h.size_eq, h'.size_eq, Chronicle.size, Chronicle.size]
    simp only [hsame]
    exact (hkeys.map _).sum_eq
  · rw [Bool.eq_iff_iff, h.checksAll.verdict entries hperm, h'.checksAll.verdict entries' hperm',
      hnames]
    simp only [hchecks]

/-- Runs that consist of the same actions on each name, in whatever order across names: each action
comes to the same, and so does the store, name by name. -/
theorem same_per_name (before actions actions' : List Action)
    (hself : ∀ action ∈ actions, action.selfContained = true)
    (hsame : ∀ name, actions.filter (·.name = name) = actions'.filter (·.name = name)) :
    (∀ name, ((run .empty before).outcomes actions).filter (·.1.name = name) =
      ((run .empty before).outcomes actions').filter (·.1.name = name)) ∧
    ((run .empty before).run actions).SameByName ((run .empty before).run actions') := by
  have h := represents_run before
  have hself' : ∀ action ∈ actions', action.selfContained = true := fun action hm => by
    have hfilter : action ∈ actions'.filter (·.name = action.name) :=
      List.mem_filter.2 ⟨hm, by simp⟩
    rw [← hsame] at hfilter
    exact hself action (List.mem_filter.1 hfilter).1
  refine ⟨fun name => ?_, (h.run actions).sameByName (h.run actions') fun name => ?_⟩
  · rw [(h.run_filter h rfl hself).1, (h.run_filter h rfl hself').1, hsame]
  · rw [(h.run_filter h rfl hself).2, (h.run_filter h rfl hself').2, hsame]

/-- Two names, the actions on one before those on the other; one bind asks for another type, and one
version is taken from the history of its own name. -/
def nameByName : List Action :=
  [.bind "key" "num" [.edit (.setWidth 2)], .bind "key" "num" [.edit (.bindWires [⟨7⟩, ⟨8⟩])],
    .bind "key" "func" [], .replace "key" (.next "key" 1),
    .bind "table" "array" [.edit (.pushElement 1)], .amend "table" [.edit (.pushElement 3)],
    .bind "table" "array" [.whole]]

/-- The same actions, the names in turn. -/
def namesInTurn : List Action :=
  [.bind "table" "array" [.edit (.pushElement 1)], .bind "key" "num" [.edit (.setWidth 2)],
    .amend "table" [.edit (.pushElement 3)],
    .bind "key" "num" [.edit (.bindWires [⟨7⟩, ⟨8⟩])], .bind "key" "func" [],
    .bind "table" "array" [.whole], .replace "key" (.next "key" 1)]

theorem filter_nameByName (name : String) :
    nameByName.filter (·.name = name) = namesInTurn.filter (·.name = name) := by
  by_cases hkey : "key" = name
  · subst hkey
    decide
  · by_cases htable : "table" = name
    · subst htable
      decide
    · simp [nameByName, namesInTurn, Action.name, hkey, htable]

/-- The newest version of the key has another handle in each of the two runs. -/
theorem same_per_name_inTurn :
    (∀ action ∈ nameByName, action.selfContained = true) ∧
    (∀ name, nameByName.filter (·.name = name) = namesInTurn.filter (·.name = name)) ∧
    ((run .empty []).run nameByName).latestId "key" ≠
      ((run .empty []).run namesInTurn).latestId "key" ∧
    (∀ name, ((run .empty []).outcomes nameByName).filter (·.1.name = name) =
      ((run .empty []).outcomes namesInTurn).filter (·.1.name = name)) ∧
    ((run .empty []).run nameByName).SameByName ((run .empty []).run namesInTurn) :=
  ⟨by decide, filter_nameByName, by decide,
    same_per_name [] nameByName namesInTurn (by decide) filter_nameByName⟩

end Store

end WireLedger
