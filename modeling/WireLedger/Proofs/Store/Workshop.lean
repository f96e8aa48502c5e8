import WireLedger.Proofs.Store.Past
/-!
# Bundles, symbols and stores side by side

A workshop has bundles on a shelf, symbols on a bench and the stores of a session. Copies go from
one to another: a bundle of a symbol goes on the shelf, a symbol of the store in use goes on the
bench, and a symbol of the bench goes into the store in use, in the place of the newest version of a
name. So no symbol comes into a store that was not declared, copied or derived in the workshop.

The records of a workshop are the pasts of all that is in it, kept in the same places.

Results:
* `Recorded.after`, `recorded_run`: along every run all is what its past tells.
* `bundles_all_or_nothing`: what this says of the slots of every bundle.
-/
namespace WireLedger

/-- Numbered bundles, numbered symbols and stores. -/
structure Workshop where
  shelf : Shelf
  bench : Bench
  session : Store.Session

namespace Workshop

/-! ## Steps -/

/-- Where a symbol stands: in a register of the bench, or in the place of a handle in a store. -/
inductive SymbolPlace where
  | bench (register : Nat)
  | store (number : Nat) (id : SymbolId)

/-- Where a bundle stands: in a register of the shelf, or in a symbol, among its bundles. -/
inductive BundlePlace where
  | shelf (register : Nat)
  | part (place : SymbolPlace) (index : Nat)

/-- A step of a workshop. -/
inductive Step where
  | shelf (step : Shelf.Step)
  | bench (step : Bench.Step)
  /-- A step on the stores that brings no symbol in. -/
  | session (step : Store.Session.Step) (own : step.own = true)
  /-- Puts a copy of a bundle of a symbol on the shelf. -/
  | takeBundle (register index : Nat)
  /-- Puts a copy of a symbol of the store in use on the bench. -/
  | takeSymbol (id : SymbolId)
  /-- Puts a copy of a symbol of the bench in the place of the newest version of a name. -/
  | place (register : Nat) (name : String)

/-- The workshop with one empty store. -/
def start : Workshop := ⟨⟨[]⟩, ⟨[]⟩, .start⟩

/-- The symbol in a place. -/
def symbol? (w : Workshop) : SymbolPlace → Option Symbol
  | .bench register => w.bench.symbols[register]?
  | .store number id => w.session.stores[number]?.bind (·.get? id)

/-- The bundle in a place. -/
def bundle? (w : Workshop) : BundlePlace → Option Bundle
  | .shelf register => w.shelf.bundles[register]?
  | .part place index => (w.symbol? place).bind (·.bundles[index]?)

/-- The workshop after one step. -/
def after (w : Workshop) : Step → Workshop
  | .shelf step => { w with shelf := (w.shelf.step step).1 }
  | .bench step => { w with bench := (w.bench.step step).1 }
  | .session step _ => { w with session := w.session.after step }
  | .takeBundle register index =>
    { w with shelf := ⟨w.shelf.bundles ++ (w.bundle? (.part (.bench register) index)).toList⟩ }
  | .takeSymbol id => { w with bench := ⟨w.bench.symbols ++ (w.session.store.get? id).toList⟩ }
  | .place register name =>
    match w.bench.symbols[register]? with
    | some symbol => { w with session := w.session.after (.act (.replace name (.given symbol))) }
    | none => w

/-- The workshop after steps in order. -/
def run (w : Workshop) (steps : List Step) : Workshop := steps.foldl after w

/-! ## Records -/

/-- The pasts of the bundles on the shelf, of the symbols on the bench and of the symbols in the
stores. -/
structure Records where
  shelf : List Bundle.Past
  bench : List Symbol.Past
  stores : List (List Symbol.Past)
deriving DecidableEq, Repr

/-- The past of the symbol in a place. -/
def Records.symbol? (r : Records) : SymbolPlace → Option Symbol.Past
  | .bench register => r.bench[register]?
  | .store number id => r.stores[number]?.bind (·[id.position]?)

/-- The past of the bundle in a place. -/
def Records.bundle? (r : Records) : BundlePlace → Option Bundle.Past
  | .shelf register => r.shelf[register]?
  | .part place index => (r.symbol? place).bind (·.bundles[index]?)

/-- The records after one step. A copy has the past of what it was copied from. -/
def record (w : Workshop) (r : Records) : Step → Records
  | .shelf step => { r with shelf := w.shelf.record r.shelf step }
  | .bench step => { r with bench := w.bench.record r.bench step }
  | .session step _ => { r with stores := w.session.record r.stores step }
  | .takeBundle register index =>
    { r with shelf := r.shelf ++ (r.bundle? (.part (.bench register) index)).toList }
  | .takeSymbol id =>
    { r with bench := r.bench ++ (w.session.pastsInUse r.stores)[id.position]?.toList }
  | .place register name =>
    match r.bench[register]? with
    | some past => { r with stores := w.session.recordPut r.stores name past }
    | none => r

/-- The records after steps in order. -/
def recordAll (w : Workshop) (r : Records) : List Step → Records
  | [] => r
  | step :: rest => (w.after step).recordAll (w.record r step) rest

/-- The records of the workshop with one empty store. -/
def Records.start : Records := ⟨[], [], [[]]⟩

/-- The records of a run from the start. -/
def records (steps : List Step) : Records := start.recordAll .start steps

/-- All that is in the workshop is what the records tell. -/
structure Recorded (w : Workshop) (r : Records) : Prop where
  shelf : List.Forall₂ Bundle.Past.Tells r.shelf w.shelf.bundles
  bench : List.Forall₂ Symbol.Past.Tells r.bench w.bench.symbols
  stores : w.session.Recorded r.stores

variable {w : Workshop} {r : Records}

namespace Recorded

theorem symbol? (h : w.Recorded r) (place : SymbolPlace) :
    Option.Rel Symbol.Past.Tells (r.symbol? place) (w.symbol? place) := by
  cases place with
  | bench register => exact optionRel_getElem? h.bench register
  | store number id =>
    exact optionRel_bind (optionRel_getElem? h.stores number) fun _ _ hstore => hstore.get? id

theorem bundle? (h : w.Recorded r) (place : BundlePlace) :
    Option.Rel Bundle.Past.Tells (r.bundle? place) (w.bundle? place) := by
  cases place with
  | shelf register => exact optionRel_getElem? h.shelf register
  | part place index =>
    exact optionRel_bind (h.symbol? place) fun _ _ hpast => optionRel_getElem? hpast.bundles index

theorem after (h : w.Recorded r) (step : Step) : (w.after step).Recorded (w.record r step) := by
  cases step with
  | shelf step => exact ⟨Shelf.tells_step h.shelf step, h.bench, h.stores⟩
  | bench step => exact ⟨h.shelf, Bench.tells_step h.bench step, h.stores⟩
  | session step own => exact ⟨h.shelf, h.bench, h.stores.after own⟩
  | takeBundle register index =>
    have hadded := forall₂_toList (h.bundle? (.part (.bench register) index))
    exact ⟨List.rel_append h.shelf hadded, h.bench, h.stores⟩
  | takeSymbol id =>
    have hadded := forall₂_toList (h.stores.store.get? id)
    exact ⟨h.shelf, List.rel_append h.bench hadded, h.stores⟩
  | place register name =>
    have hrel := optionRel_getElem? h.bench register
    cases hs : w.bench.symbols[register]? with
    | none =>
      rw [hs] at hrel
      simp only [Workshop.after, record, hs, eq_none_of_optionRel_none hrel]
      exact h
    | some symbol =>
      rw [hs] at hrel
      obtain ⟨past, hp, hpast⟩ := exists_of_optionRel_some hrel
      simp only [Workshop.after, record, hs, hp]
      exact ⟨h.shelf, h.bench, h.stores.put hpast name⟩

theorem run (h : w.Recorded r) (steps : List Step) :
    (w.run steps).Recorded (w.recordAll r steps) := by
  induction steps generalizing w r with
  | nil => exact h
  | cons step rest ih => exact ih (h.after step)

end Recorded

theorem recorded_start : start.Recorded .start := ⟨.nil, .nil, Store.Session.recorded_start⟩

/-- Along every run from the start all is what the records tell. -/
theorem recorded_run (steps : List Step) : (start.run steps).Recorded (records steps) :=
  recorded_start.run steps

end Workshop

/-! ## All slots or none -/

namespace Bundle

/-- The bundle is filled or empty as a whole: it holds the wires of the last binding in order, or
nothing as long as there was none. -/
structure Filled (past : Past) (b : Bundle) : Prop where
  width : b.width = past.width
  whole : (∀ slot ∈ b.slots, slot = none) ∨ ∀ slot ∈ b.slots, ∃ wire, slot = some wire
  unbound : past.bindings = [] → b.slots = List.replicate b.width none
  bound : ∀ earlier wires, past.bindings = earlier ++ [wires] → b.slots = wires.map some
  isBound : b.isBound = true ↔ b.width = 0 ∨ past.bindings ≠ []

variable {past : Past} {b : Bundle}

theorem Past.Tells.unbound (h : past.Tells b) (hnone : past.bindings = []) :
    b.slots = List.replicate b.width none := by
  rw [h.slots, Past.slots, hnone, h.width]
  rfl

theorem Past.Tells.bound (h : past.Tells b) {earlier : List (List WireId)} {wires : List WireId}
    (hlast : past.bindings = earlier ++ [wires]) : b.slots = wires.map some := by
  rw [h.slots, Past.slots, hlast, List.getLast?_concat]

/-- Nothing was bound yet, or there is a last binding. -/
theorem Past.bindings_cases (past : Past) :
    past.bindings = [] ∨ ∃ earlier wires, past.bindings = earlier ++ [wires] :=
  List.eq_nil_or_concat' past.bindings

theorem Past.Tells.filled (h : past.Tells b) : b.Filled past where
  width := h.width
  whole := by
    rcases past.bindings_cases with hnone | ⟨earlier, wires, hlast⟩
    · rw [h.unbound hnone]
      exact .inl fun slot hslot => List.eq_of_mem_replicate hslot
    · rw [h.bound hlast]
      refine .inr fun slot hslot => ?_
      obtain ⟨wire, -, rfl⟩ := List.mem_map.1 hslot
      exact ⟨wire, rfl⟩
  unbound := h.unbound
  bound _ _ := h.bound
  isBound := by
    unfold isBound
    rcases past.bindings_cases with hnone | ⟨earlier, wires, hlast⟩
    · rw [h.unbound hnone, List.all_replicate]
      simp [hnone]
    · rw [h.bound hlast]
      simp [hlast]

end Bundle

namespace Workshop

/-- Wherever a bundle stands after a run, all its slots hold wires or none does, as its past tells.
A binding that succeeds leaves the width as it was. -/
theorem bundles_all_or_nothing (steps : List Step) :
    (∀ place, Option.Rel (fun past b => Bundle.Filled past b) ((records steps).bundle? place)
      ((start.run steps).bundle? place)) ∧
    ∀ (b b' : Bundle) (owner : String) (wires : List WireId),
      b.bind owner wires = .ok b' → b'.width = b.width := by
  have hrun := recorded_run steps
  exact ⟨fun place => optionRel_imp (hrun.bundle? place) fun _ _ hpast => hpast.filled,
    fun _ _ _ _ => Bundle.width_of_bind_eq_ok⟩

/-- A bundle is copied after it was bound, and the copy is bound once more; the next version of its
symbol starts anew. -/
example : records [.bench (.declare "key" .numeric), .bench (.request 0 (.edit (.setWidth 1))),
    .bench (.request 0 (.edit (.bindWires [⟨3⟩]))), .takeBundle 0 0,
    .shelf (.bind 0 "key" [⟨5⟩, ⟨6⟩]), .shelf (.bind 0 "key" [⟨5⟩]), .bench (.next 0)] =
    ⟨[⟨1, [[⟨3⟩], [⟨5⟩]]⟩], [⟨0, [⟨1, [[⟨3⟩]]⟩]⟩, ⟨1, [⟨1, []⟩]⟩], [[]]⟩ := by decide

end Workshop

end WireLedger
