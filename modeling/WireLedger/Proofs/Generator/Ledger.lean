import WireLedger.Proofs.Generator.Handles
import WireLedger.Proofs.Generator.Period
/-!
# What the threads draw from a shared generator

The ledger of a cell tells what its calls did, in the order in which they held the lock: a seeding,
or a block and the thread that it was handed to. One generator on its own gives the same ledger, so
nothing is lost and nothing is handed out twice, whatever the order of the threads.

Results:
* `serves_ledger`: a ledger is what the generator of the cell gives, one entry after another.
* `hands_of_ledger`, `hands_of_ledger_seeded`: a row of draws is the stream of the generator that
  the row starts with.
* `perm_received`: what the threads have together does not depend on their order.
* `shared_streams`: the whole of it, for all handles of a pool.
-/
namespace WireLedger.Pool

/-- A block that a thread was handed. -/
structure Draw where
  thread : Nat
  block : Block
deriving DecidableEq, Repr

/-- What a call did to its cell. -/
inductive Entry where
  | seeded (value : UInt32)
  | drawn (draw : Draw)
deriving DecidableEq, Repr

/-- The block of an entry, if that thread drew it. -/
def Entry.for? (thread : Nat) : Entry → Option Block
  | .seeded _ => none
  | .drawn draw => if draw.thread = thread then some draw.block else none

/-- What a call with this reply did to its cell. -/
def Call.entries (call : Call) (reply : Reply) : List Entry :=
  match call.step with
  | .seed _ value => [.seeded value]
  | _ => reply.handedOut.map fun block => .drawn ⟨call.thread, block⟩

/-- What calls do to a cell, in the order of its lock. -/
def ledger (pool : Pool) (cell : Nat) : List Call → List Entry
  | [] => []
  | call :: rest =>
    (if pool.handles[call.step.handle]? = some cell then call.entries (pool.reply call.step)
      else []) ++ (pool.after call.step).ledger cell rest

/-- The blocks in the replies to a thread's calls on a cell, in order. -/
def received (pool : Pool) (cell thread : Nat) : List Call → List Block
  | [] => []
  | call :: rest =>
    (if pool.handles[call.step.handle]? = some cell ∧ call.thread = thread then
      (pool.reply call.step).handedOut else []) ++
      (pool.after call.step).received cell thread rest

/-- How many blocks a thread's calls on a cell ask for. -/
def asked (pool : Pool) (cell thread : Nat) : List Call → Nat
  | [] => 0
  | call :: rest =>
    (if pool.handles[call.step.handle]? = some cell ∧ call.thread = thread then
      call.step.draws else 0) + (pool.after call.step).asked cell thread rest

variable {pool : Pool} {cell : Nat} {g : Generator} {draws : List Draw} {rest : List Entry}

/-! ## The ledger is that of one generator -/

/-- The entries are those of a generator on its own, one after another. -/
def Serves : Generator → List Entry → Prop
  | _, [] => True
  | _, .seeded value :: rest => Serves (Generator.seeded value).value rest
  | g, .drawn draw :: rest => draw.block = g.next.value.1 ∧ Serves g.next.value.2 rest

theorem serves_blocks_append (thread n : Nat) :
    Serves g (((g.blocks n).map fun block => .drawn ⟨thread, block⟩) ++ rest) ↔
      Serves (g.draw n).value.2 rest := by
  induction n generalizing g with
  | zero => exact Iff.rfl
  | succ n ih =>
    constructor
    · rintro ⟨-, h⟩
      exact ih.1 h
    · intro h
      exact ⟨rfl, ih.2 h⟩

theorem serves_ledger (hg : pool.cells[cell]? = some g) (calls : List Call) :
    Serves g (pool.ledger cell calls) := by
  induction calls generalizing pool g with
  | nil => trivial
  | cons call rest ih =>
    unfold ledger
    by_cases hcell : pool.handles[call.step.handle]? = some cell
    · have hrest := ih (getElem?_cells_after_self hcell hg)
      have hreply := handedOut_reply (cell?_eq_some_iff.2 ⟨hcell, hg⟩)
      rw [if_pos hcell]
      unfold Call.entries
      split
      · rename_i value hstep
        rw [hstep] at hrest ⊢
        exact hrest
      · rename_i hstep
        rw [hreply, serves_blocks_append]
        have hwork : call.step.work g = (g.draw call.step.draws).value.2 := by
          unfold Step.work
          split
          · exact absurd ‹_› (hstep _ _)
          · rfl
        rw [← hwork]
        exact hrest
    · rw [if_neg hcell]
      exact ih (getElem?_cells_after_of_ne hcell hg)

/-! ## Rows of draws -/

/-- The draws are the stream of a generator: in the order of the lock its next blocks, so that each
thread has a part of them in that order and none is drawn twice within the period. -/
structure Hands (g : Generator) (draws : List Draw) : Prop where
  order : draws.map Draw.block = g.blocks draws.length
  own : ∀ thread, ((draws.filter (·.thread = thread)).map Draw.block).Sublist
    (g.blocks draws.length)
  once : draws.length ≤ 2 ^ 32 → (draws.map Draw.block).Nodup

theorem hands_of_order (h : draws.map Draw.block = g.blocks draws.length) : Hands g draws where
  order := h
  own thread := by
    rw [← h]
    exact List.filter_sublist.map Draw.block
  once hfew := by
    rw [h]
    exact g.nodup_blocks hfew

/-- The draws that a ledger starts with are the stream of its generator. -/
theorem Serves.hands (h : Serves g (draws.map .drawn ++ rest)) : Hands g draws := by
  refine hands_of_order ?_
  induction draws generalizing g with
  | nil => rfl
  | cons draw draws ih =>
    obtain ⟨hblock, hdraws⟩ := h
    rw [List.map_cons, hblock, ih hdraws]
    rfl

/-- The draws that follow a seeding are the stream of its seed. -/
theorem Serves.hands_seeded {before : List Entry} {value : UInt32}
    (h : Serves g (before ++ .seeded value :: (draws.map .drawn ++ rest))) :
    Hands (Generator.seeded value).value draws := by
  induction before generalizing g with
  | nil => exact Serves.hands h
  | cons entry before ih =>
    cases entry with
    | seeded value => exact ih h
    | drawn draw => exact ih h.2

/-! ## What each thread has -/

theorem filterMap_entries {call : Call} (hcell : pool.cell? call.step.handle = some (cell, g))
    (thread : Nat) :
    (call.entries (pool.reply call.step)).filterMap (Entry.for? thread) =
      if call.thread = thread then (pool.reply call.step).handedOut else [] := by
  unfold Call.entries
  split
  · rename_i handle value hstep
    rw [handedOut_reply hcell, hstep]
    split <;> rfl
  · rw [List.filterMap_map]
    by_cases hthread : call.thread = thread <;> simp [Function.comp_def, Entry.for?, hthread]

/-- A thread has what the ledger of the cell has for it. -/
theorem received_eq (hg : pool.cells[cell]? = some g) (thread : Nat) (calls : List Call) :
    pool.received cell thread calls =
      (pool.ledger cell calls).filterMap (Entry.for? thread) := by
  induction calls generalizing pool g with
  | nil => rfl
  | cons call rest ih =>
    rw [received, ledger, List.filterMap_append]
    by_cases hcell : pool.handles[call.step.handle]? = some cell
    · rw [ih (getElem?_cells_after_self hcell hg), if_pos hcell,
        filterMap_entries (cell?_eq_some_iff.2 ⟨hcell, hg⟩)]
      simp only [hcell, true_and]
    · rw [ih (getElem?_cells_after_of_ne hcell hg), if_neg hcell]
      simp only [hcell, false_and, if_false, List.filterMap_nil]

/-- A thread has as many blocks as it asked for. -/
theorem length_received (hg : pool.cells[cell]? = some g) (thread : Nat) (calls : List Call) :
    (pool.received cell thread calls).length = pool.asked cell thread calls := by
  induction calls generalizing pool g with
  | nil => rfl
  | cons call rest ih =>
    rw [received, asked, List.length_append]
    by_cases hcell : pool.handles[call.step.handle]? = some cell
    · have hcalled := cell?_eq_some_iff.2 ⟨hcell, hg⟩
      rw [ih (getElem?_cells_after_self hcell hg), handedOut_reply hcalled]
      split
      · rw [Generator.length_blocks]
      · rfl
    · rw [ih (getElem?_cells_after_of_ne hcell hg)]
      simp only [hcell, false_and, if_false, List.length_nil]

/-! ## What the threads have together -/

theorem flatMap_filter_perm {threads : List Nat} (hnodup : threads.Nodup)
    (hall : ∀ draw ∈ draws, draw.thread ∈ threads) :
    (threads.flatMap fun thread => draws.filter (·.thread = thread)).Perm draws := by
  induction threads generalizing draws with
  | nil =>
    rw [List.eq_nil_iff_forall_not_mem.2 fun draw hmem => List.not_mem_nil (hall draw hmem)]
    exact List.Perm.nil
  | cons first threads ih =>
    obtain ⟨hfirst, hnodup⟩ := List.nodup_cons.1 hnodup
    have hrest : ∀ draw ∈ draws.filter fun draw => ! decide (draw.thread = first),
        draw.thread ∈ threads := by
      intro draw hmem
      obtain ⟨hdraw, hne⟩ := List.mem_filter.1 hmem
      exact (List.mem_cons.1 (hall draw hdraw)).resolve_left (by simpa using hne)
    have hothers : ∀ thread ∈ threads, draws.filter (·.thread = thread) =
        (draws.filter fun draw => ! decide (draw.thread = first)).filter
          (·.thread = thread) := by
      intro thread hmem
      rw [List.filter_filter]
      refine List.filter_congr ?_
      intro draw _
      by_cases h : draw.thread = thread
      · have hne : thread ≠ first := fun he => hfirst (he ▸ hmem)
        simp [h, hne]
      · simp [h]
    rw [List.flatMap_cons, List.flatMap_congr hothers]
    exact ((ih hnodup hrest).append_left _).trans (List.filter_append_perm _ _)

/-- Without a seeding the ledger has draws only. -/
theorem exists_draws {entries : List Entry} (h : ∀ value, .seeded value ∉ entries) :
    ∃ draws : List Draw, entries = draws.map .drawn := by
  induction entries with
  | nil => exact ⟨[], rfl⟩
  | cons entry entries ih =>
    obtain ⟨draws, rfl⟩ := ih fun value hmem => h value (List.mem_cons_of_mem _ hmem)
    cases entry with
    | seeded value => exact absurd (List.mem_cons_self ..) (h value)
    | drawn draw => exact ⟨draw :: draws, rfl⟩

theorem filterMap_drawn (thread : Nat) (draws : List Draw) :
    (draws.map Entry.drawn).filterMap (Entry.for? thread) =
      (draws.filter (·.thread = thread)).map Draw.block := by
  rw [List.filterMap_map, ← List.filterMap_eq_map, List.filterMap_filter]
  refine List.filterMap_congr ?_
  intro draw _
  simp [Entry.for?]

theorem thread_mem_of_ledger {draw : Draw} {calls : List Call}
    (h : .drawn draw ∈ pool.ledger cell calls) : ∃ call ∈ calls, draw.thread = call.thread := by
  induction calls generalizing pool with
  | nil => cases h
  | cons call rest ih =>
    rcases List.mem_append.1 h with h | h
    · refine ⟨call, List.mem_cons_self .., ?_⟩
      split at h
      · unfold Call.entries at h
        split at h
        · cases List.mem_singleton.1 h
        · obtain ⟨block, -, he⟩ := List.mem_map.1 h
          cases he
          rfl
      · cases h
    · obtain ⟨other, hmem, he⟩ := ih h
      exact ⟨other, List.mem_cons_of_mem _ hmem, he⟩

/-- If the cell is not seeded meanwhile, its threads have together the first blocks of its stream,
as many as they asked for, whatever the order of their calls. -/
theorem perm_received (hg : pool.cells[cell]? = some g) {calls : List Call}
    (hseed : ∀ value, .seeded value ∉ pool.ledger cell calls) {threads : List Nat}
    (hnodup : threads.Nodup) (hall : ∀ call ∈ calls, call.thread ∈ threads) :
    (threads.flatMap fun thread => pool.received cell thread calls).Perm
      (g.blocks (threads.map fun thread => pool.asked cell thread calls).sum) := by
  obtain ⟨draws, hdraws⟩ := exists_draws hseed
  have hthreads : ∀ draw ∈ draws, draw.thread ∈ threads := by
    intro draw hmem
    have hentry : Entry.drawn draw ∈ pool.ledger cell calls := by
      rw [hdraws]
      exact List.mem_map_of_mem hmem
    obtain ⟨call, hcall, he⟩ := thread_mem_of_ledger hentry
    rw [he]
    exact hall call hcall
  have hhands : Hands g draws := by
    have hserves := serves_ledger hg calls
    rw [hdraws, ← List.append_nil (draws.map _)] at hserves
    exact hserves.hands
  have hparts : (threads.flatMap fun thread => pool.received cell thread calls).Perm
      (g.blocks draws.length) := by
    simp only [received_eq hg, hdraws, filterMap_drawn]
    rw [← hhands.order, ← List.map_flatMap]
    exact (flatMap_filter_perm hnodup hthreads).map Draw.block
  have hcount : (threads.map fun thread => pool.asked cell thread calls).sum = draws.length := by
    simp only [← length_received hg]
    rw [← List.length_flatMap, hparts.length_eq, Generator.length_blocks]
  rw [hcount]
  exact hparts

/-! ## All handles of a pool -/

/-- What calls come to on a cell whose generator was `g` before them. -/
structure Shares (pool : Pool) (cell : Nat) (g : Generator) (calls : List Call) : Prop where
  /-- Draws before any seeding are the stream of the generator that was there. -/
  first : ∀ draws rest, pool.ledger cell calls = draws.map .drawn ++ rest → Hands g draws
  /-- Draws after a seeding, up to the next one, are the stream of the seed. -/
  seeded : ∀ before value draws rest,
    pool.ledger cell calls = before ++ .seeded value :: (draws.map .drawn ++ rest) →
      Hands (Generator.seeded value).value draws
  /-- A thread has all that was drawn for it, in that order. -/
  received : ∀ thread, pool.received cell thread calls =
    (pool.ledger cell calls).filterMap (Entry.for? thread)
  /-- A thread has as much as it asked for. -/
  asked : ∀ thread, (pool.received cell thread calls).length = pool.asked cell thread calls
  /-- Without a seeding the threads have together the first blocks of the stream. -/
  together : (∀ value, .seeded value ∉ pool.ledger cell calls) → ∀ threads : List Nat,
    threads.Nodup → (∀ call ∈ calls, call.thread ∈ threads) →
      (threads.flatMap fun thread => pool.received cell thread calls).Perm
        (g.blocks (threads.map fun thread => pool.asked cell thread calls).sum)

theorem shares (hg : pool.cells[cell]? = some g) (calls : List Call) :
    pool.Shares cell g calls where
  first _ _ he := Serves.hands (he ▸ serves_ledger hg calls)
  seeded _ _ _ _ he := Serves.hands_seeded (he ▸ serves_ledger hg calls)
  received thread := received_eq hg thread calls
  asked thread := length_received hg thread calls
  together hseed _ hnodup hall := perm_received hg hseed hnodup hall

/-- The pool that calls make of a new cell with one handle. -/
def reach (start : Generator.Start) (calls : List Call) : Pool := (ofStart start).value.run calls

theorem separate_ofStart (start : Generator.Start) : (ofStart start).value.Separate where
  inside cell hmem := by
    rw [List.mem_singleton.1 hmem]
    exact Nat.zero_lt_one
  nodup := List.nodup_singleton 0

/-- Whatever the handles of a pool and the order of the calls on them: every handle leads to a cell,
the draws on the cell are the stream of one generator from each seeding to the next, and calls on
handles that are not kin leave it alone. Handles share a cell exactly if they are kin, and a handle
that is made anew gets a cell with the generator that it is made with. -/
theorem shared_streams (start : Generator.Start) (before : List Call) :
    (∀ handle < (reach start before).handles.length, ∃ cell g,
      (reach start before).cell? handle = some (cell, g) ∧
      ∀ calls, (reach start before).Shares cell g calls ∧
        ((∀ call ∈ calls,
            ¬ (ofStart start).value.Kin (before ++ calls) call.step.handle handle) →
          (reach start (before ++ calls)).cell? handle = some (cell, g))) ∧
    (∀ left < (reach start before).handles.length,
      ∀ right < (reach start before).handles.length,
        ((ofStart start).value.Kin before left right ↔
          (reach start before).handles[left]? = (reach start before).handles[right]?)) ∧
    ∀ parent < (reach start before).handles.length, ∀ first,
      (reach start before).reply (.create parent first) =
          .handle (reach start before).handles.length ∧
        ((reach start before).after (.create parent first)).cell?
            (reach start before).handles.length =
          some ((reach start before).cells.length, (Generator.create first).value) := by
  have hseparate := separate_ofStart start
  refine ⟨?_, ?_, ?_⟩
  · intro handle hlt
    obtain ⟨cell, g, hcell⟩ := hseparate.exists_cell? hlt
    refine ⟨cell, g, hcell, ?_⟩
    intro calls
    exact ⟨shares (cell?_eq_some_iff.1 hcell).2 calls, hseparate.cell?_run_of_not_kin hcell⟩
  · intro left hleft right hright
    exact hseparate.kin_iff hleft hright
  · intro parent hparent first
    obtain ⟨cell, g, hcell⟩ := hseparate.exists_cell? hparent
    exact create_of_cell? hcell first

end WireLedger.Pool
