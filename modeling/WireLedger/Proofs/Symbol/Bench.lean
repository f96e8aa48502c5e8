import WireLedger.Proofs.Symbol.Rewiring
import WireLedger.Symbol.Bench
/-!
# Numbered symbols with other wires

What holds of one symbol holds of the symbols of a bench: to rewire them and each step first is the
same as to rewire what the steps come to. Only whether two symbols are equal as a whole can hang on
their wires.

Results:
* `step_rewire`, `rewire_of_step`: what becomes of a step.
* `run_rewire`, `replies_rename`: what becomes of a run.
-/
namespace WireLedger.Bench

variable {w : Rewiring}

/-- The bench with other wires. -/
def rewire (w : Rewiring) (bench : Bench) : Bench := ⟨bench.symbols.map (Symbol.rewire w)⟩

/-- The step with other wires, unless it is left out. -/
def Step.rewire? (w : Rewiring) : Step → Option Step
  | request register r => (r.rewire? w).map (request register)
  | step => some step

/-- The reply with other wires. -/
def Reply.rewire (w : Rewiring) : Reply → Reply
  | .symbol s => .symbol (s.rewire w)
  | .answer a => .answer (Symbol.Reply.rewire w <$> a)
  | reply => reply

/-- The reply without what it tells of wires alone: symbols and payloads may be equal or not because
of their wires. -/
def Reply.masked : Reply → Reply
  | .compared _ _ type => .compared true true type
  | reply => reply

/-- The bench after steps in order. -/
def run (bench : Bench) (steps : List Step) : Bench :=
  steps.foldl (fun bench step => (bench.step step).1) bench

/-- What steps in order show. -/
def replies (bench : Bench) : List Step → List Reply
  | [] => []
  | step :: rest => (bench.step step).2 :: (bench.step step).1.replies rest

theorem Step.rewire?_rename (f : WireId → WireId) (step : Step) :
    ∃ step', step.rewire? (.rename f) = some step' := by
  cases step with
  | request register r =>
    obtain ⟨r', hr⟩ := r.rewire?_rename f
    exact ⟨_, congrArg (Option.map _) hr⟩
  | _ => exact ⟨_, rfl⟩

theorem getElem?_rewire (bench : Bench) (register : Nat) :
    (bench.rewire w).symbols[register]? = bench.symbols[register]?.map (Symbol.rewire w) :=
  List.getElem?_map

theorem push_rewire (bench : Bench) (s : Symbol) :
    (bench.rewire w).push (s.rewire w) =
      ((bench.push s).1.rewire w, (bench.push s).2.rewire w) := by
  simp only [push, rewire, Reply.rewire, List.map_append, List.map_singleton]

theorem step_rewire {step step' : Step} (h : step.rewire? w = some step') (bench : Bench) :
    ((bench.rewire w).step step').1 = (bench.step step).1.rewire w ∧
      ((bench.rewire w).step step').2.masked = ((bench.step step).2.rewire w).masked := by
  cases step with
  | request register r =>
    obtain ⟨r', hr, rfl⟩ := Option.map_eq_some_iff.1 h
    simp only [step, getElem?_rewire]
    cases bench.symbols[register]? with
    | none => exact ⟨rfl, rfl⟩
    | some s =>
      simp only [Option.map_some, Symbol.answer_rewire hr, rewire, List.map_set]
      exact ⟨trivial, rfl⟩
  | next register =>
    cases h
    simp only [step, getElem?_rewire]
    cases bench.symbols[register]? with
    | none => exact ⟨rfl, rfl⟩
    | some s =>
      have hpush := bench.push_rewire (w := w) s.next
      rw [Symbol.rewire_next] at hpush
      simp only [Option.map_some, Symbol.next_rewire, hpush]
      exact ⟨trivial, trivial⟩
  | clone register =>
    cases h
    simp only [step, getElem?_rewire]
    cases bench.symbols[register]? with
    | none => exact ⟨rfl, rfl⟩
    | some s =>
      simp only [Option.map_some, push_rewire]
      exact ⟨trivial, trivial⟩
  | declare name ty =>
    cases h
    have hpush := bench.push_rewire (w := w) (.declare name ty)
    rw [Symbol.rewire_declare] at hpush
    simp only [step, hpush]
    exact ⟨trivial, trivial⟩
  | compare left right =>
    cases h
    simp only [step, getElem?_rewire]
    cases bench.symbols[left]? with
    | none => exact ⟨rfl, rfl⟩
    | some a =>
      cases bench.symbols[right]? with
      | none => exact ⟨rfl, rfl⟩
      | some b =>
        simp only [Option.map_some, Symbol.type_rewire]
        exact ⟨trivial, rfl⟩

theorem rewire_of_step {step : Step} (h : step.rewire? w = none) (bench : Bench) :
    (bench.step step).1.rewire w = bench.rewire w := by
  cases step with
  | request register r =>
    have hr := Option.map_eq_none_iff.1 h
    simp only [step]
    split
    · rfl
    · rename_i s hs
      exact congrArg mk (Symbol.map_set_of_getElem? hs (Symbol.rewire_of_answer hr s))
  | _ => cases h

theorem run_rewire (w : Rewiring) (bench : Bench) (steps : List Step) :
    (bench.rewire w).run (steps.filterMap (Step.rewire? w)) = (bench.run steps).rewire w := by
  induction steps generalizing bench with
  | nil => rfl
  | cons step rest ih =>
    have hrest := ih (bench.step step).1
    cases hs : step.rewire? w with
    | some step' =>
      rw [List.filterMap_cons_some hs]
      rw [← (step_rewire hs bench).1] at hrest
      exact hrest
    | none =>
      rw [List.filterMap_cons_none hs]
      rw [rewire_of_step hs] at hrest
      exact hrest

theorem replies_rename (f : WireId → WireId) (bench : Bench) (steps : List Step) :
    ((bench.rewire (.rename f)).replies (steps.filterMap (Step.rewire? (.rename f)))).map
        Reply.masked =
      (bench.replies steps).map fun reply => (reply.rewire (.rename f)).masked := by
  induction steps generalizing bench with
  | nil => rfl
  | cons step rest ih =>
    obtain ⟨step', hs⟩ := step.rewire?_rename f
    obtain ⟨hbench, hreply⟩ := step_rewire hs bench
    rw [List.filterMap_cons_some hs, replies, replies, List.map_cons, List.map_cons, hreply, hbench,
      ih]

end WireLedger.Bench
