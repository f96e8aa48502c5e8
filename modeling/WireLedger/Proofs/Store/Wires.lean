import WireLedger.Proofs.Store.Rewiring
import WireLedger.Proofs.Symbol.Bench
/-!
# Wires lead to nothing but wires

Nothing is decided by a wire. Two runs of the same steps with other wires show the same, are told of
in the same words and hold wires in the same slots. A run without the requests that bind wires ends
with the same symbols and empty slots, and the versions that it adds start out the same.

Results:
* `Session.sameButWires`, `Bench.sameButWires`: runs with other wires.
* `Session.stripped`, `Bench.stripped`: runs without wires.
* `bindsFresh`: a bind adds a symbol without wires.
* `wires_confined`: all of these.
-/
namespace WireLedger

theorem optionRel_of_map_eq {α β : Type} {f : α → β} {R : α → α → Prop}
    (hR : ∀ a b, f a = f b → R a b) {a b : Option α} (h : a.map f = b.map f) :
    Option.Rel R a b := by
  cases a with
  | none =>
    rw [Option.map_eq_none_iff.1 h.symm]
    exact .none
  | some a =>
    obtain ⟨b, rfl, hb⟩ := Option.map_eq_some_iff.1 h.symm
    exact .some (hR a b hb.symm)

namespace Store

/-! ## Stores that are the same but for wires -/

/-- Both stores lead from the same names to the same handles, and from each handle to symbols that
differ in nothing but wires. All checks find and tell the same. -/
structure SameButWires (s t : Store) : Prop where
  index : s.index = t.index
  symbols : ∀ id, Option.Rel Symbol.SameButWires (s.get? id) (t.get? id)
  checkFor : ∀ name, s.checkFor name = t.checkFor name
  check : s.check = t.check

theorem sameButWires_of_rewire {s t : Store} (h : s.rewire .blank = t.rewire .blank) :
    s.SameButWires t where
  index := by rw [← s.index_rewire, h, index_rewire]
  symbols id := by
    refine optionRel_of_map_eq (fun _ _ => Symbol.sameButWires_of_rewire) ?_
    rw [← s.get?_rewire, h, get?_rewire]
  checkFor name := by rw [← s.checkFor_rewire, h, checkFor_rewire]
  check := by rw [← s.check_rewire, h, check_rewire]

namespace Session

/-! ## Runs of a session -/

/-- From `session` on, both runs show the same but for wires and are told of in the same words. They
end in sessions that are the same but for wires. -/
structure SameButWires (session : Session) (steps steps' : List Step) : Prop where
  outcomes : (session.outcomes steps).map (Reply.rewire .blank <$> ·) =
    (session.outcomes steps').map (Reply.rewire .blank <$> ·)
  current : (session.run steps).current = (session.run steps').current
  saved : (session.run steps).saved = (session.run steps').saved
  stores : ∀ number : Nat, Option.Rel Store.SameButWires (session.run steps).stores[number]?
    (session.run steps').stores[number]?

theorem sameButWires (session : Session) {steps steps' : List Step}
    (h : steps.map (Step.rewire .blank) = steps'.map (Step.rewire .blank)) :
    session.SameButWires steps steps' := by
  have hrun : (session.run steps).rewire .blank = (session.run steps').rewire .blank := by
    rw [← run_rewire, h, run_rewire]
  have houtcomes : ∀ steps, (session.outcomes steps).map (Reply.rewire .blank <$> ·) =
      (session.rewire .blank).outcomes (steps.map (Step.rewire .blank)) :=
    fun steps => (session.outcomes_rename _ steps).symm
  refine ⟨by rw [houtcomes, h, houtcomes], ?_, ?_, fun number => ?_⟩
  · rw [← current_rewire (w := .blank), hrun, current_rewire]
  · rw [← saved_rewire (w := .blank), hrun, saved_rewire]
  · refine optionRel_of_map_eq (fun _ _ => Store.sameButWires_of_rewire) ?_
    rw [← getElem?_rewire, hrun, getElem?_rewire]

/-- Without the requests that bind wires, a run shows what it showed before, but for those requests
and for wires, and is told of in the same words. It ends in the same session with empty slots. In
every store the same symbol is added by a bind, and the same comes after each version. -/
structure Stripped (steps : List Step) : Prop where
  outcomes : start.outcomes (steps.map (Step.rewire .strip)) =
    List.zipWith (fun step outcome => step.shown .strip <$> outcome) steps (start.outcomes steps)
  run : start.run (steps.map (Step.rewire .strip)) = (start.run steps).rewire .strip
  added : ∀ (number : Nat) (s : Store), (start.run steps).stores[number]? = some s →
    ∃ t, (start.run (steps.map (Step.rewire .strip))).stores[number]? = some t ∧
      (∀ name ty, t.successor name ty = s.successor name ty) ∧
      ∀ name v, t.replacement (.next name v) = s.replacement (.next name v)

theorem rewire_start (w : Rewiring) : start.rewire w = start :=
  congrArg (fun s => Session.mk [s] 0 []) rewire_empty

theorem replacement_next_rewire (w : Rewiring) (s : Store) (name : String) (v : UInt32) :
    (s.rewire w).replacement (.next name v) = s.replacement (.next name v) := by
  simp only [replacement, version_rewire, bind_map_left, Symbol.next_rewire]

theorem stripped (steps : List Step) : Stripped steps := by
  -- the start holds no wire, so the run of the stripped steps is the run of a stripped start
  have hrun : start.run (steps.map (Step.rewire .strip)) = (start.run steps).rewire .strip := by
    conv => lhs; rw [← rewire_start .strip, run_rewire]
  refine ⟨?_, hrun, fun number s hs => ⟨s.rewire .strip, ?_, s.successor_rewire,
    replacement_next_rewire .strip s⟩⟩
  · conv => lhs; rw [← rewire_start .strip, outcomes_rewire]
  · rw [hrun, getElem?_rewire, hs, Option.map_some]

end Session

/-! ## The symbol that a bind adds -/

/-- A bind that is carried out adds a symbol without wires: a first version, or the version after
the newest one. -/
def BindsFresh (s : Store) : Prop :=
  ∀ name ty id t, (s.bind name ty).value = .ok (id, t) → ∃ symbol, t.get? id = some symbol ∧
    symbol.Unbound ∧ ((∃ refusal, s.latest name = .error refusal) ∧ symbol = .declare name ty ∨
      ∃ newest, s.latest name = .ok newest ∧ symbol = newest.next)

theorem bindsFresh (s : Store) : s.BindsFresh := by
  intro name ty id t hbind
  unfold Store.bind at hbind
  cases hs : s.successor name ty with
  | error refusal =>
    rw [hs] at hbind
    cases hbind
  | ok symbol =>
    rw [hs] at hbind
    cases hbind
    refine ⟨symbol, s.get?_push_self name symbol,
      Symbol.unbound_of_rewire_strip (rewire_of_successor hs), ?_⟩
    rcases successor_cases hs with hfirst | ⟨newest, hlatest, -, hnext⟩
    · exact .inl hfirst
    · exact .inr ⟨newest, hlatest, hnext⟩

end Store

namespace Bench

/-! ## Runs on numbered symbols -/

/-- From `bench` on, both runs show the same but for wires, and end in symbols that are the same but
for wires. -/
structure SameButWires (bench : Bench) (steps steps' : List Step) : Prop where
  replies : (bench.replies steps).map (fun reply => (reply.rewire .blank).masked) =
    (bench.replies steps').map fun reply => (reply.rewire .blank).masked
  symbols : ∀ register : Nat, Option.Rel Symbol.SameButWires (bench.run steps).symbols[register]?
    (bench.run steps').symbols[register]?

theorem sameButWires (bench : Bench) {steps steps' : List Step}
    (h : steps.filterMap (Step.rewire? .blank) = steps'.filterMap (Step.rewire? .blank)) :
    bench.SameButWires steps steps' := by
  have hrun : (bench.run steps).rewire .blank = (bench.run steps').rewire .blank := by
    rw [← run_rewire, h, run_rewire]
  have hreplies : ∀ steps, (bench.replies steps).map (fun r => (r.rewire .blank).masked) =
      ((bench.rewire .blank).replies (steps.filterMap (Step.rewire? .blank))).map Reply.masked :=
    fun steps => (bench.replies_rename _ steps).symm
  refine ⟨by rw [hreplies, h, hreplies], fun register => ?_⟩
  refine optionRel_of_map_eq (fun _ _ => Symbol.sameButWires_of_rewire) ?_
  rw [← getElem?_rewire, hrun, getElem?_rewire]

/-- Without the steps that bind wires, a run from one declared symbol on ends in the same symbols
with empty slots. The same comes after each of them. -/
structure Stripped (name : String) (ty : SymbolType) (steps : List Step) : Prop where
  run : (declaring name ty).run (steps.filterMap (Step.rewire? .strip)) =
    ((declaring name ty).run steps).rewire .strip
  next : ∀ register : Nat,
    ((declaring name ty).run (steps.filterMap (Step.rewire? .strip))).symbols[register]?.map
      Symbol.next = ((declaring name ty).run steps).symbols[register]?.map Symbol.next

theorem stripped (name : String) (ty : SymbolType) (steps : List Step) :
    Stripped name ty steps := by
  have hstart : (declaring name ty).rewire .strip = declaring name ty :=
    congrArg (fun s => mk [s]) (Symbol.rewire_declare name ty)
  have hrun := run_rewire .strip (declaring name ty) steps
  rw [hstart] at hrun
  refine ⟨hrun, fun register => ?_⟩
  rw [hrun, getElem?_rewire, Option.map_map]
  exact congrArg (Option.map · _) (funext Symbol.next_rewire)

end Bench

namespace Store

/-! ## Wires are confined -/

/-- Runs that differ in the wires of their requests differ in wires only, on stores and on symbols
of their own, and runs without wires add the same versions: these hold no wire, and depend on the
name, the version and the shape of the one before. -/
theorem wires_confined (session : Session) (steps steps' : List Session.Step) (bench : Bench)
    (moves moves' : List Bench.Step)
    (hsteps : steps.map (Session.Step.rewire .blank) = steps'.map (Session.Step.rewire .blank))
    (hmoves : moves.filterMap (Bench.Step.rewire? .blank) =
      moves'.filterMap (Bench.Step.rewire? .blank)) :
    session.SameButWires steps steps' ∧ bench.SameButWires moves moves' ∧
      Session.Stripped steps ∧ (∀ name ty, Bench.Stripped name ty moves) ∧
      (∀ s : Store, s.BindsFresh) ∧ (∀ symbol : Symbol, symbol.next.Unbound) ∧
      ∀ symbol other : Symbol, symbol.name = other.name → symbol.version = other.version →
        symbol.shape = other.shape → symbol.next = other.next :=
  ⟨session.sameButWires hsteps, bench.sameButWires hmoves, Session.stripped steps,
    fun name ty => Bench.stripped name ty moves, bindsFresh,
    fun symbol => Symbol.unbound_of_rewire_strip symbol.rewire_next,
    fun _ _ => Symbol.next_eq_of_shape⟩

/-- A number and an element of an array get wires, once of the wrong number; then comes the next
version of the number. -/
def wiredSteps (first second : WireId) : List Session.Step :=
  [.act (.bind "key" "num" [.edit (.setWidth 2), .edit (.bindWires [first]),
      .edit (.bindWires [first, second])]),
    .act (.bind "table" "array" [.edit (.pushElement 1), .edit (.bindElement 0 [second])]),
    .act (.bind "key" "num" [.whole]), .check]

/-- A number gets a wire, and so does the version after it. -/
def wiredMoves (first second : WireId) : List Bench.Step :=
  [.request 0 (.edit (.setWidth 1)), .request 0 (.edit (.bindWires [first])), .next 0,
    .request 1 (.edit (.bindWires [second])), .request 1 (.edit (.setWidth 2))]

theorem wires_confined_twoWirings :
    (wiredSteps ⟨7⟩ ⟨8⟩).map (Session.Step.rewire .blank) =
      (wiredSteps ⟨1⟩ ⟨1⟩).map (Session.Step.rewire .blank) ∧
    (wiredMoves ⟨7⟩ ⟨8⟩).filterMap (Bench.Step.rewire? .blank) =
      (wiredMoves ⟨1⟩ ⟨1⟩).filterMap (Bench.Step.rewire? .blank) ∧
    wiredSteps ⟨7⟩ ⟨8⟩ ≠ wiredSteps ⟨1⟩ ⟨1⟩ ∧
    Session.start.SameButWires (wiredSteps ⟨7⟩ ⟨8⟩) (wiredSteps ⟨1⟩ ⟨1⟩) ∧
    (Bench.declaring "key" .numeric).SameButWires (wiredMoves ⟨7⟩ ⟨8⟩) (wiredMoves ⟨1⟩ ⟨1⟩) ∧
    Session.Stripped (wiredSteps ⟨7⟩ ⟨8⟩) :=
  have h := wires_confined .start (wiredSteps ⟨7⟩ ⟨8⟩) (wiredSteps ⟨1⟩ ⟨1⟩)
    (.declaring "key" .numeric) (wiredMoves ⟨7⟩ ⟨8⟩) (wiredMoves ⟨1⟩ ⟨1⟩) (by decide) (by decide)
  ⟨by decide, by decide, by decide, h.1, h.2.1, h.2.2.1⟩

end Store

end WireLedger
