import WireLedger.Generator.Fleet
import WireLedger.Proofs.Generator.Draws
/-!
# One stream for each generator

A step on a generator moves that one and no other. So the state of a generator hangs only on the
last step that set it, by a seed, as a copy or as a new generator, and on how often it was drawn
from since; how the draws were made does not matter.

Results:
* `step_of_getElem?`, `step_of_absent`: all that a step on one generator can do.
* `getElem?_run`: where draws take a generator that is not seeded.
* `starts_or_stays`, `exists_starts`: a generator was set by some step, and there is a last one.
* `reads_one_stream`: what is drawn, and what is told of it, along every run.
-/
namespace WireLedger

/-- What an event tells: how much it matters, and its named values. -/
def Event.tells (event : Event) : Level × List (String × Event.Field) := (event.level, event.fields)

namespace Fleet

/-- No generators. -/
def empty : Fleet := ⟨[]⟩

/-- The fleet after one step. -/
def after (fleet : Fleet) (step : Step) : Fleet := (fleet.step step).value.1

/-- What a step shows. -/
def reply (fleet : Fleet) (step : Step) : Reply := (fleet.step step).value.2

/-- What a step tells. -/
def told (fleet : Fleet) (step : Step) : List (Level × List (String × Event.Field)) :=
  (fleet.step step).events.map Event.tells

/-- The fleet after steps in order. -/
def run (fleet : Fleet) (steps : List Step) : Fleet := steps.foldl after fleet

namespace Step

/-- The generator that a step is on; a new generator is made on none. -/
def number? : Step → Option Nat
  | seed number _ | state number | draw number _ | fill number _ | nth number _ | sizeHint number
  | clone number => some number
  | create _ => none

/-- How many blocks a step draws, with those that it passes over. -/
def draws : Step → Nat
  | draw _ count | fill _ count => count
  | nth _ skipped => skipped + 1
  | _ => 0

/-- Whether a step seeds that generator. -/
def seeds (number : Nat) : Step → Bool
  | seed other _ => other = number
  | _ => false

/-- The generator that a step leaves of the one that it is on. -/
def work (step : Step) (g : Generator) : Generator :=
  match step with
  | seed _ value => ⟨.ofSeed value⟩
  | _ => ⟨Block.step^[step.draws] g.state⟩

/-- The generators that a step adds to the one that it is on. -/
def copies (step : Step) (g : Generator) : List Generator :=
  match step with
  | clone _ => [g]
  | _ => []

/-- What a step on a generator shows in a fleet of `size` generators. -/
def shows (step : Step) (g : Generator) (size : Nat) : Reply :=
  match step with
  | seed _ value => .block (.ofSeed value)
  | state _ => .block g.state
  | draw _ count | fill _ count => .blocks (g.state.stretch 0 count)
  | nth _ skipped => .block (Block.step^[skipped + 1] g.state)
  | sizeHint _ => .sizeHint 0 none
  | clone _ => .number size
  | create _ => .absent

/-- The events of a step on a generator. -/
def events (step : Step) (g : Generator) : List Event :=
  match step with
  | seed _ value => [.seeded value (.ofSeed value)]
  | _ => (g.state.stretch 0 step.draws).map .advanced

end Step

/-- How many blocks steps draw from one generator. -/
def drawsOn (number : Nat) (steps : List Step) : ℕ :=
  (steps.map fun step => if step.number? = some number then step.draws else 0).sum

variable {fleet : Fleet} {number : Nat} {step : Step} {g : Generator} {b : Block}

theorem run_append (fleet : Fleet) (before more : List Step) :
    fleet.run (before ++ more) = (fleet.run before).run more := List.foldl_append

/-! ## What a step does -/

theorem on_of_getElem? (hg : fleet.generators[number]? = some g)
    (f : Generator → Logged (Reply × Generator)) :
    fleet.on number f = ⟨(fleet.set number (f g).value.2, (f g).value.1), (f g).events⟩ := by
  unfold on
  rw [hg]
  exact congrArg (Logged.mk _) (List.append_nil _)

theorem step_of_getElem? (hn : step.number? = some number)
    (hg : fleet.generators[number]? = some g) : fleet.step step =
      ⟨(⟨fleet.generators.set number (step.work g) ++ step.copies g⟩,
        step.shows g fleet.generators.length), step.events g⟩ := by
  have hset : fleet.generators.set number g = fleet.generators := by
    obtain ⟨hlt, rfl⟩ := List.getElem?_eq_some_iff.1 hg
    exact List.set_getElem_self hlt
  cases step with
  | create start => cases hn
  | clone source =>
    cases hn
    simp only [Fleet.step, hg, Step.work, Step.draws, Function.iterate_zero_apply, hset]
    rfl
  | seed other value =>
    cases hn
    simp only [Fleet.step, on_of_getElem? hg, set, Step.work, Step.copies, List.append_nil]
    rfl
  | draw other count =>
    cases hn
    simp only [Fleet.step, on_of_getElem? hg, Generator.draw_eq, set, Step.work, Step.copies,
      List.append_nil]
    exact congrArg (Logged.mk _) (List.append_nil _)
  | fill other count =>
    cases hn
    simp only [Fleet.step, on_of_getElem? hg, Generator.fill_eq, Generator.draw_eq, set, Step.work,
      Step.copies, List.append_nil, List.length_replicate]
    exact congrArg (Logged.mk _) (List.append_nil _)
  | nth other skipped =>
    cases hn
    simp only [Fleet.step, on_of_getElem? hg, Generator.nth_eq, set, Step.work, Step.copies,
      List.append_nil]
    exact congrArg (Logged.mk _) (List.append_nil _)
  | state other | sizeHint other =>
    cases hn
    simp only [Fleet.step, on_of_getElem? hg, set, Step.work, Step.copies, List.append_nil]
    rfl

theorem step_of_absent (hn : step.number? = some number)
    (hg : fleet.generators[number]? = none) : fleet.step step = return (fleet, .absent) := by
  cases step with
  | create start => cases hn
  | clone source =>
    cases hn
    simp only [Fleet.step, hg]
  | _ =>
    cases hn
    simp only [Fleet.step, on, hg]

theorem step_create (fleet : Fleet) (start : Generator.Start) : fleet.step (.create start) =
    ⟨fleet.push ⟨start.block⟩,
      start.seed?.toList.map fun value => .seeded value (.ofSeed value)⟩ := by
  simp only [Fleet.step, Generator.create_eq]
  exact congrArg (Logged.mk _) (List.append_nil _)

theorem after_of_absent (hn : step.number? = some number)
    (hg : fleet.generators[number]? = none) : fleet.after step = fleet := by
  unfold after
  rw [step_of_absent hn hg]
  rfl

theorem after_of_getElem? (hn : step.number? = some number)
    (hg : fleet.generators[number]? = some g) :
    (fleet.after step).generators =
      fleet.generators.set number (step.work g) ++ step.copies g := by
  unfold after
  rw [step_of_getElem? hn hg]

theorem reply_of_getElem? (hn : step.number? = some number)
    (hg : fleet.generators[number]? = some g) :
    fleet.reply step = step.shows g fleet.generators.length := by
  unfold reply
  rw [step_of_getElem? hn hg]

theorem told_of_getElem? (hn : step.number? = some number)
    (hg : fleet.generators[number]? = some g) :
    fleet.told step = (step.events g).map Event.tells := by
  unfold told
  rw [step_of_getElem? hn hg]

theorem getElem?_after_self (hn : step.number? = some number)
    (hg : fleet.generators[number]? = some g) :
    (fleet.after step).generators[number]? = some (step.work g) := by
  have hlt := (List.getElem?_eq_some_iff.1 hg).1
  rw [after_of_getElem? hn hg, List.getElem?_append_left (by rwa [List.length_set])]
  exact List.getElem?_set_self hlt

/-- A step changes no generator but the one that it is on. -/
theorem getElem?_after_of_ne (hn : step.number? ≠ some number)
    (hlt : number < fleet.generators.length) :
    (fleet.after step).generators[number]? = fleet.generators[number]? := by
  cases hstep : step.number? with
  | none =>
    cases step with
    | create start =>
      unfold after
      rw [step_create]
      exact List.getElem?_append_left hlt
    | _ => cases hstep
  | some other =>
    have hne : other ≠ number := by
      rintro rfl
      exact hn hstep
    cases hg : fleet.generators[other]? with
    | none =>
      rw [after_of_absent hstep hg]
    | some g =>
      rw [after_of_getElem? hstep hg, List.getElem?_append_left (by rwa [List.length_set])]
      exact List.getElem?_set_ne hne

theorem work_of_not_seeds (hn : step.number? = some number) (hs : step.seeds number = false)
    (g : Generator) : step.work g = ⟨Block.step^[step.draws] g.state⟩ := by
  cases step with
  | seed other value =>
    cases hn
    simp [Step.seeds] at hs
  | _ => rfl

theorem events_of_not_seeds (hn : step.number? = some number) (hs : step.seeds number = false)
    (g : Generator) : step.events g = (g.state.stretch 0 step.draws).map .advanced := by
  cases step with
  | seed other value =>
    cases hn
    simp [Step.seeds] at hs
  | _ => rfl

/-! ## Since the state was set -/

/-- Draws take a generator that is not seeded along the stream of its state. -/
theorem getElem?_run {n : ℕ} (hg : fleet.generators[number]? = some ⟨Block.step^[n] b⟩)
    {since : List Step} (hs : ∀ later ∈ since, later.seeds number = false) :
    (fleet.run since).generators[number]? =
      some ⟨Block.step^[n + drawsOn number since] b⟩ := by
  induction since generalizing fleet n with
  | nil => exact hg
  | cons step rest ih =>
    have hrest : ∀ later ∈ rest, later.seeds number = false :=
      fun later hm => hs later (List.mem_cons_of_mem _ hm)
    unfold drawsOn
    rw [List.map_cons, List.sum_cons, ← Nat.add_assoc]
    by_cases hn : step.number? = some number
    · have hafter := getElem?_after_self hn hg
      rw [work_of_not_seeds hn (hs step (List.mem_cons_self ..)),
        ← Function.iterate_add_apply, Nat.add_comm] at hafter
      rw [if_pos hn]
      exact ih hafter hrest
    · have hafter := getElem?_after_of_ne hn (List.getElem?_eq_some_iff.1 hg).1
      rw [hg] at hafter
      rw [if_neg hn]
      exact ih hafter hrest

/-- A step sets generator `number` to the state `b`. -/
inductive Starts (fleet : Fleet) (number : Nat) : Step → Block → Prop
  | seeded {value : UInt32} (h : number < fleet.generators.length) :
    fleet.Starts number (.seed number value) (.ofSeed value)
  | copied {source : Nat} {g : Generator} (hg : fleet.generators[source]? = some g)
    (hn : number = fleet.generators.length) : fleet.Starts number (.clone source) g.state
  | created {start : Generator.Start} (hn : number = fleet.generators.length) :
    fleet.Starts number (.create start) start.block

theorem Starts.getElem?_after (h : fleet.Starts number step b) :
    (fleet.after step).generators[number]? = some ⟨b⟩ := by
  cases h with
  | seeded h => exact getElem?_after_self rfl (List.getElem?_eq_getElem h)
  | @copied source g hg hn =>
    have hn' : number = (fleet.generators.set source ((Step.clone source).work g)).length := by
      rw [List.length_set, hn]
    rw [after_of_getElem? rfl hg, hn']
    exact List.getElem?_concat_length ..
  | created hn =>
    unfold after
    rw [step_create, hn]
    exact List.getElem?_concat_length ..

theorem length_after (hn : step.number? = some number)
    (hg : fleet.generators[number]? = some g) :
    (fleet.after step).generators.length = fleet.generators.length + (step.copies g).length := by
  rw [after_of_getElem? hn hg, List.length_append, List.length_set]

theorem starts_of_new (hnew : fleet.generators.length ≤ number)
    (hlt : number < (fleet.after step).generators.length) : ∃ b, fleet.Starts number step b := by
  cases hstep : step.number? with
  | none =>
    cases step with
    | create start =>
      unfold after at hlt
      rw [step_create] at hlt
      have hlen : (fleet.push ⟨start.block⟩).1.generators.length = fleet.generators.length + 1 :=
        List.length_append
      exact ⟨_, .created (by simp only [hlen] at hlt; omega)⟩
    | _ => cases hstep
  | some other =>
    cases hg : fleet.generators[other]? with
    | none =>
      rw [after_of_absent hstep hg] at hlt
      omega
    | some g =>
      rw [length_after hstep hg] at hlt
      cases step with
      | clone source =>
        cases hstep
        exact ⟨_, .copied hg (Nat.le_antisymm (Nat.le_of_lt_succ hlt) hnew)⟩
      | _ => exact absurd hlt (Nat.not_lt.2 hnew)

/-- A generator that is there after a step was set by it, or it was there before and is not seeded
by it. -/
theorem starts_or_stays (hlt : number < (fleet.after step).generators.length) :
    (∃ b, fleet.Starts number step b) ∨
      (number < fleet.generators.length ∧ step.seeds number = false) := by
  rcases Nat.lt_or_ge number fleet.generators.length with hold | hnew
  · by_cases hs : step.seeds number = true
    · cases step with
      | seed other value =>
        cases of_decide_eq_true hs
        exact .inl ⟨_, .seeded hold⟩
      | _ => cases hs
    · exact .inr ⟨hold, Bool.eq_false_iff.2 hs⟩
  · exact .inl (starts_of_new hnew hlt)

/-- Every generator of a run was set by some step and not seeded later. -/
theorem exists_starts (steps : List Step)
    (hlt : number < (empty.run steps).generators.length) :
    ∃ earlier step since b, steps = earlier ++ step :: since ∧
      (empty.run earlier).Starts number step b ∧ ∀ later ∈ since, later.seeds number = false := by
  -- from the back: the last step sets the generator, or the run before it has set it
  induction steps using List.reverseRecOn with
  | nil => exact absurd hlt (Nat.not_lt_zero _)
  | append_singleton before last ih =>
    rw [run_append] at hlt
    rcases starts_or_stays hlt with ⟨b, hb⟩ | ⟨hlt, hs⟩
    · exact ⟨before, last, [], b, rfl, hb, nofun⟩
    · obtain ⟨earlier, step, since, b, rfl, hb, hsince⟩ := ih hlt
      refine ⟨earlier, step, since ++ [last], b, by simp, hb, fun later hm => ?_⟩
      rcases List.mem_append.1 hm with hm | hm
      · exact hsince later hm
      · rw [List.mem_singleton.1 hm, hs]

/-! ## What a generator of a run shows and tells -/

/-- What is told of a draw: the state that it leads to, which is the block drawn. -/
def toldOfDraw (drawn : Block) : Level × List (String × Event.Field) :=
  (.trace, [("state", .plain drawn.display)])

/-- What is told of a seeding. -/
def toldOfSeed (value : UInt32) : Level × List (String × Event.Field) :=
  (.debug, [("seed", .plain (toString value.toNat)),
    ("state", .plain (Block.ofSeed value).display)])

/-- Generator `number` stands `n` draws after the state `b`, and shows and tells just that. -/
structure Reads (fleet : Fleet) (number : Nat) (b : Block) (n : ℕ) : Prop where
  state : fleet.generators[number]? = some ⟨Block.step^[n] b⟩
  lanes : ∀ i : Fin 4, (Block.lane i (Block.step^[n] b)).toNat =
    ((Block.lane i Block.multiplier).toNat ^ n * (Block.lane i b).toNat +
      (Block.lane i Block.increment).toNat *
        ∑ j ∈ Finset.range n, (Block.lane i Block.multiplier).toNat ^ j) % 2 ^ 32
  shown : fleet.reply (.state number) = .block (Block.step^[n] b)
  drawn : ∀ count, fleet.reply (.draw number count) = .blocks (b.stretch n count)
  filled : ∀ count, fleet.reply (.fill number count) = .blocks (b.stretch n count)
  passed : ∀ skipped, fleet.reply (.nth number skipped) =
    .block (Block.step^[n + skipped + 1] b)
  /-- Each block drawn is told of once, also one that is passed over. -/
  traced : ∀ step : Step, step.number? = some number → step.seeds number = false →
    fleet.told step = (b.stretch n step.draws).map toldOfDraw

theorem reads_of_getElem? {n : ℕ} (hg : fleet.generators[number]? = some ⟨Block.step^[n] b⟩) :
    fleet.Reads number b n where
  state := hg
  lanes i := Block.toNat_lane_iterate i b n
  shown := reply_of_getElem? rfl hg
  drawn count := (reply_of_getElem? rfl hg).trans (congrArg _ (b.stretch_iterate n 0 count))
  filled count := (reply_of_getElem? rfl hg).trans (congrArg _ (b.stretch_iterate n 0 count))
  passed skipped := by
    rw [reply_of_getElem? rfl hg, Step.shows, ← Function.iterate_add_apply]
    exact congrArg (fun m => Reply.block (Block.step^[m] b)) (by omega)
  traced step hn hs := by
    rw [told_of_getElem? hn hg, events_of_not_seeds hn hs, b.stretch_iterate, List.map_map]
    rfl

/-- Whatever was done to the generators of a fleet, each of them reads the stream of the state that
it was set to last. -/
structure ReadsOneStream (fleet : Fleet) (before : List Step) : Prop where
  /-- From the step on that sets a generator to a state, draws on it count from that state as long
  as it is not seeded again. -/
  reads : ∀ number step b since, fleet.Starts number step b →
    (∀ later ∈ since, later.seeds number = false) →
      ((fleet.after step).run since).Reads number b (drawsOn number since)
  /-- Every generator was set so by some step of the run. -/
  started : ∀ number < fleet.generators.length, ∃ earlier step since b,
    before = earlier ++ step :: since ∧ (empty.run earlier).Starts number step b ∧
      ∀ later ∈ since, later.seeds number = false
  /-- A step leaves alone every generator but the one that it is on. -/
  apart : ∀ number < fleet.generators.length, ∀ step : Step, step.number? ≠ some number →
    (fleet.after step).generators[number]? = fleet.generators[number]?
  /-- A step on a generator that does not exist does nothing. -/
  absent : ∀ (number : Nat) (step : Step), step.number? = some number →
    fleet.generators.length ≤ number → fleet.step step = return (fleet, .absent)
  /-- A seeding shows the new state and is told of once. -/
  seeded : ∀ number < fleet.generators.length, ∀ value,
    fleet.reply (.seed number value) = .block (.ofSeed value) ∧
      fleet.told (.seed number value) = [toldOfSeed value]
  created : ∀ start : Generator.Start,
    fleet.told (.create start) = start.seed?.toList.map toldOfSeed

/-- A draw of one block is the next one and slots are filled by as many draws, whatever stood in
them. However the generators of a fleet are drawn from, in every state of every run each of them
reads one stream, which is told of block by block. -/
theorem reads_one_stream (before : List Step) :
    (∀ g : Generator, g.draw 1 = (fun drawn => ([drawn.1], drawn.2)) <$> g.next ∧
      ∀ slots, g.fill slots = g.draw slots.length) ∧
    (empty.run before).ReadsOneStream before := by
  refine ⟨fun g => ⟨rfl, g.fill_eq⟩, ?_, ?_, ?_, ?_, ?_, ?_⟩
  · intro number step b since hstart hs
    have hrun := getElem?_run (n := 0) hstart.getElem?_after hs
    rw [Nat.zero_add] at hrun
    exact reads_of_getElem? hrun
  · intro number hlt
    exact exists_starts before hlt
  · intro number hlt step hn
    exact getElem?_after_of_ne hn hlt
  · intro number step hn hle
    exact step_of_absent hn (List.getElem?_eq_none hle)
  · intro number hlt value
    have hg := List.getElem?_eq_getElem hlt
    exact ⟨reply_of_getElem? rfl hg, told_of_getElem? rfl hg⟩
  · intro start
    unfold told
    rw [step_create, List.map_map]
    rfl

end Fleet

end WireLedger
