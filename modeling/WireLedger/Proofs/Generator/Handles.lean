import Mathlib.Data.List.Nodup
import Mathlib.Logic.Relation
import WireLedger.Proofs.Generator.Calls
/-!
# Which handles share a cell

Handles are only ever added, and each keeps its cell. A copied handle leads where its parent leads,
and a handle that is made anew leads to a cell of its own. So two handles share a cell exactly if
they descend from one handle that was made anew.

Results:
* `birth_cases`: how a call adds a handle.
* `Traced.run`: copies share their cells and handles that were made anew do not, along every run.
* `Separate.kin_iff`: which handles share a cell.
* `Separate.cell?_run_of_not_kin`: calls on other handles do not touch the cell of a handle.
-/
namespace WireLedger.Pool

variable {pool : Pool} {handle cell : Nat} {g : Generator}

/-! ## Where handles come from -/

/-- How a handle came to be. -/
inductive Birth where
  | copied (parent child : Nat)
  | made (child : Nat)
deriving DecidableEq, Repr

/-- The handle that a call adds, as its reply tells. -/
def birth? (pool : Pool) (step : Step) : Option Birth :=
  match step, pool.reply step with
  | .clone parent, .handle child => some (.copied parent child)
  | .create _ _, .handle child => some (.made child)
  | _, _ => none

/-- The handles that calls add. -/
def births (pool : Pool) : List Call → List Birth
  | [] => []
  | call :: rest => (pool.birth? call.step).toList ++ (pool.after call.step).births rest

/-- Handle `child` is `root`, a copy of it, a copy of a copy, and so on. -/
def Descends (births : List Birth) : (root child : Nat) → Prop :=
  Relation.ReflTransGen fun parent child => .copied parent child ∈ births

/-- One of the `first` handles that were there before, or one that was made and not copied. -/
def Anew (first : Nat) (births : List Birth) (handle : Nat) : Prop :=
  handle < first ∨ .made handle ∈ births

/-- Both handles descend from one that was made anew. -/
def Kin (pool : Pool) (calls : List Call) (left right : Nat) : Prop :=
  ∃ root, Anew pool.handles.length (pool.births calls) root ∧
    Descends (pool.births calls) root left ∧ Descends (pool.births calls) root right

theorem births_append (pool : Pool) (before more : List Call) :
    pool.births (before ++ more) = pool.births before ++ (pool.run before).births more := by
  induction before generalizing pool with
  | nil => rfl
  | cons call rest ih =>
    rw [List.cons_append, births, births, ih, List.append_assoc]
    rfl

theorem Descends.append {births : List Birth} {root child : Nat} (h : Descends births root child)
    (more : List Birth) : Descends (births ++ more) root child := by
  refine Relation.ReflTransGen.mono ?_ _ _ h
  intro parent child hmem
  exact List.mem_append_left _ hmem

theorem Anew.append {first : Nat} {births : List Birth} (h : Anew first births handle)
    (more : List Birth) : Anew first (births ++ more) handle :=
  h.imp_right (List.mem_append_left _)

theorem Kin.append {before : List Call} {left right : Nat} (h : pool.Kin before left right)
    (more : List Call) : pool.Kin (before ++ more) left right := by
  obtain ⟨root, hroot, hleft, hright⟩ := h
  unfold Kin
  rw [births_append]
  exact ⟨root, hroot.append _, hleft.append _, hright.append _⟩

/-- A call adds no handle, or a copy that leads where its parent leads, or one that leads to a new
cell. -/
theorem birth_cases (pool : Pool) (step : Step) :
    (pool.birth? step = none ∧ (pool.after step).handles = pool.handles ∧
      (pool.after step).cells.length = pool.cells.length) ∨
    (∃ parent cell, pool.birth? step = some (.copied parent pool.handles.length) ∧
      pool.handles[parent]? = some cell ∧ (pool.after step).handles = pool.handles ++ [cell] ∧
      (pool.after step).cells.length = pool.cells.length) ∨
    pool.birth? step = some (.made pool.handles.length) ∧
      (pool.after step).handles = pool.handles ++ [pool.cells.length] ∧
      (pool.after step).cells.length = pool.cells.length + 1 := by
  rcases pool.after_cases step with ⟨-, he, hreply⟩ | ⟨cell, g, hfound, -, hafter⟩
  · refine .inl ⟨?_, by rw [he], by rw [he]⟩
    unfold birth?
    rw [hreply]
    cases step <;> rfl
  · rcases hafter with ⟨he, hreply⟩ | ⟨⟨parent, rfl⟩, -, he, hreply⟩ |
      ⟨parent, start, rfl, -, he, hreply⟩
    · refine .inl ⟨?_, by rw [he]; rfl, by rw [he]; exact List.length_set⟩
      unfold birth?
      split
      · exact absurd ‹_› (hreply _)
      · exact absurd ‹_› (hreply _)
      · rfl
    · refine .inr (.inl ⟨parent, cell, ?_, (cell?_eq_some_iff.1 hfound).1, by rw [he], by rw [he]⟩)
      unfold birth?
      rw [hreply]
    · refine .inr (.inr ⟨?_, by rw [he], by rw [he]; exact List.length_append⟩)
      unfold birth?
      rw [hreply]

theorem handles_prefix_after (pool : Pool) (step : Step) :
    pool.handles <+: (pool.after step).handles := by
  rcases pool.birth_cases step with ⟨-, he, -⟩ | ⟨_, cell, -, -, he, -⟩ | ⟨-, he, -⟩
  · exact ⟨[], by rw [he, List.append_nil]⟩
  · exact ⟨[cell], he.symm⟩
  · exact ⟨[pool.cells.length], he.symm⟩

theorem handles_prefix_run (pool : Pool) (calls : List Call) :
    pool.handles <+: (pool.run calls).handles := by
  induction calls generalizing pool with
  | nil => exact List.prefix_rfl
  | cons call rest ih => exact (pool.handles_prefix_after call.step).trans (ih _)

/-- What stands in a list stands in every longer one. -/
theorem getElem?_append_of_some {list : List Nat} (h : list[handle]? = some cell)
    (more : List Nat) : (list ++ more)[handle]? = some cell := by
  rw [List.getElem?_append_left (List.getElem?_eq_some_iff.1 h).1, h]

/-- A handle keeps its cell. -/
theorem getElem?_handles_run (h : pool.handles[handle]? = some cell) (calls : List Call) :
    (pool.run calls).handles[handle]? = some cell := by
  obtain ⟨more, hmore⟩ := pool.handles_prefix_run calls
  rw [← hmore]
  exact getElem?_append_of_some h more

/-! ## Handles of one cell -/

/-- Every handle leads to a cell, and no two of them to the same one. -/
structure Separate (pool : Pool) : Prop where
  inside : ∀ cell ∈ pool.handles, cell < pool.cells.length
  nodup : pool.handles.Nodup

/-- Every handle leads to a cell and descends from one that was made anew; copies share their cells,
and handles that were made anew do not. -/
structure Traced (first : Nat) (births : List Birth) (handles : List Nat) (cells : Nat) :
    Prop where
  inside : ∀ cell ∈ handles, cell < cells
  copied : ∀ parent child, .copied parent child ∈ births →
    ∃ cell, handles[parent]? = some cell ∧ handles[child]? = some cell
  anew_lt : ∀ root, Anew first births root → root < handles.length
  rooted : ∀ handle < handles.length, ∃ root, Anew first births root ∧ Descends births root handle
  unique : ∀ root root', Anew first births root → Anew first births root' →
    handles[root]? = handles[root']? → root = root'

theorem Separate.traced (h : pool.Separate) :
    Traced pool.handles.length [] pool.handles pool.cells.length where
  inside := h.inside
  copied := nofun
  anew_lt _ hroot := hroot.resolve_right nofun
  rooted handle hlt := ⟨handle, .inl hlt, .refl⟩
  unique _ _ hroot _ he := (List.getElem?_inj (hroot.resolve_right nofun) h.nodup).1 he

section

variable {first cells root : Nat} {births : List Birth} {handles : List Nat}

theorem anew_copied_iff {parent child : Nat} :
    Anew first (births ++ [.copied parent child]) root ↔ Anew first births root := by
  simp [Anew]

theorem anew_made_iff {child : Nat} :
    Anew first (births ++ [.made child]) root ↔ Anew first births root ∨ root = child := by
  simp [Anew, or_assoc]

theorem Traced.copy (h : Traced first births handles cells) {parent : Nat}
    (hcell : handles[parent]? = some cell) :
    Traced first (births ++ [.copied parent handles.length]) (handles ++ [cell]) cells where
  inside c hc := by
    rcases List.mem_append.1 hc with hc | hc
    · exact h.inside c hc
    · rw [List.mem_singleton.1 hc]
      exact h.inside cell (List.mem_of_getElem? hcell)
  copied p c hmem := by
    rcases List.mem_append.1 hmem with hmem | hmem
    · obtain ⟨shared, hp, hc⟩ := h.copied p c hmem
      exact ⟨shared, getElem?_append_of_some hp _, getElem?_append_of_some hc _⟩
    · cases List.mem_singleton.1 hmem
      exact ⟨cell, getElem?_append_of_some hcell _, List.getElem?_concat_length ..⟩
  anew_lt root hroot := by
    have hlt := h.anew_lt root (anew_copied_iff.1 hroot)
    rw [List.length_append]
    omega
  rooted handle hlt := by
    rw [List.length_append, List.length_singleton, Nat.lt_succ_iff_lt_or_eq] at hlt
    rcases hlt with hlt | rfl
    · obtain ⟨root, hroot, hdown⟩ := h.rooted handle hlt
      exact ⟨root, hroot.append _, hdown.append _⟩
    · obtain ⟨root, hroot, hdown⟩ := h.rooted parent (List.getElem?_eq_some_iff.1 hcell).1
      exact ⟨root, hroot.append _, (hdown.append _).tail (by simp)⟩
  unique root root' hroot hroot' he := by
    rw [anew_copied_iff] at hroot hroot'
    rw [List.getElem?_append_left (h.anew_lt root hroot),
      List.getElem?_append_left (h.anew_lt root' hroot')] at he
    exact h.unique root root' hroot hroot' he

/-- The cell of a handle that was there before is not the new one. -/
theorem Traced.getElem?_ne (h : Traced first births handles cells)
    (hroot : Anew first births root) : (handles ++ [cells])[root]? ≠ some cells := by
  intro he
  have hlt := h.anew_lt root hroot
  rw [List.getElem?_append_left hlt] at he
  exact Nat.lt_irrefl _ (h.inside cells (List.mem_of_getElem? he))

theorem Traced.make (h : Traced first births handles cells) :
    Traced first (births ++ [.made handles.length]) (handles ++ [cells]) (cells + 1) where
  inside c hc := by
    rcases List.mem_append.1 hc with hc | hc
    · exact Nat.lt_succ_of_lt (h.inside c hc)
    · rw [List.mem_singleton.1 hc]
      exact Nat.lt_succ_self _
  copied p c hmem := by
    rcases List.mem_append.1 hmem with hmem | hmem
    · obtain ⟨shared, hp, hc⟩ := h.copied p c hmem
      exact ⟨shared, getElem?_append_of_some hp _, getElem?_append_of_some hc _⟩
    · cases List.mem_singleton.1 hmem
  anew_lt root hroot := by
    rw [List.length_append, List.length_singleton]
    rcases anew_made_iff.1 hroot with hroot | rfl
    · exact Nat.lt_succ_of_lt (h.anew_lt root hroot)
    · exact Nat.lt_succ_self _
  rooted handle hlt := by
    rw [List.length_append, List.length_singleton, Nat.lt_succ_iff_lt_or_eq] at hlt
    rcases hlt with hlt | rfl
    · obtain ⟨root, hroot, hdown⟩ := h.rooted handle hlt
      exact ⟨root, hroot.append _, hdown.append _⟩
    · exact ⟨_, anew_made_iff.2 (.inr rfl), .refl⟩
  unique root root' hroot hroot' he := by
    rcases anew_made_iff.1 hroot with hroot | rfl <;>
      rcases anew_made_iff.1 hroot' with hroot' | rfl
    · rw [List.getElem?_append_left (h.anew_lt root hroot),
        List.getElem?_append_left (h.anew_lt root' hroot')] at he
      exact h.unique root root' hroot hroot' he
    · rw [List.getElem?_concat_length] at he
      exact absurd he (h.getElem?_ne hroot)
    · rw [List.getElem?_concat_length] at he
      exact absurd he.symm (h.getElem?_ne hroot')
    · rfl

/-- A handle leads where the handle leads that it descends from. -/
theorem Traced.getElem?_of_descends (h : Traced first births handles cells) {child : Nat}
    (hdown : Descends births root child) : handles[root]? = handles[child]? := by
  induction hdown with
  | refl => rfl
  | tail _ hlast ih =>
    obtain ⟨shared, hparent, hchild⟩ := h.copied _ _ hlast
    rw [ih, hparent, hchild]

end

theorem Traced.run {first : Nat} {births : List Birth}
    (h : Traced first births pool.handles pool.cells.length) (calls : List Call) :
    Traced first (births ++ pool.births calls) (pool.run calls).handles
      (pool.run calls).cells.length := by
  induction calls generalizing pool births with
  | nil =>
    rw [Pool.births, List.append_nil]
    exact h
  | cons call rest ih =>
    rw [Pool.births, ← List.append_assoc]
    refine ih ?_
    rcases pool.birth_cases call.step with ⟨hbirth, hhandles, hcells⟩ |
      ⟨parent, cell, hbirth, hcell, hhandles, hcells⟩ | ⟨hbirth, hhandles, hcells⟩ <;>
      rw [hbirth, hhandles, hcells]
    · rw [Option.toList_none, List.append_nil]
      exact h
    · exact h.copy hcell
    · exact h.make

theorem Separate.traced_run (h : pool.Separate) (calls : List Call) :
    Traced pool.handles.length (pool.births calls) (pool.run calls).handles
      (pool.run calls).cells.length :=
  h.traced.run calls

/-- Two handles share a cell exactly if they descend from one that was made anew. -/
theorem Separate.kin_iff (h : pool.Separate) {calls : List Call} {left right : Nat}
    (hleft : left < (pool.run calls).handles.length)
    (hright : right < (pool.run calls).handles.length) :
    pool.Kin calls left right ↔
      (pool.run calls).handles[left]? = (pool.run calls).handles[right]? := by
  have htraced := h.traced_run calls
  constructor
  · rintro ⟨root, -, hl, hr⟩
    rw [← htraced.getElem?_of_descends hl, htraced.getElem?_of_descends hr]
  · intro he
    obtain ⟨root, hroot, hl⟩ := htraced.rooted left hleft
    obtain ⟨root', hroot', hr⟩ := htraced.rooted right hright
    have hsame : root = root' := by
      refine htraced.unique root root' hroot hroot' ?_
      rw [htraced.getElem?_of_descends hl, he, htraced.getElem?_of_descends hr]
    subst hsame
    exact ⟨root, hroot, hl, hr⟩

/-- Every handle of a run leads to a cell. -/
theorem Separate.exists_cell? (h : pool.Separate) {calls : List Call}
    (hlt : handle < (pool.run calls).handles.length) :
    ∃ cell g, (pool.run calls).cell? handle = some (cell, g) := by
  have hcell := List.getElem?_eq_getElem hlt
  have hinside := (h.traced_run calls).inside _ (List.mem_of_getElem? hcell)
  exact ⟨_, _, cell?_eq_some_iff.2 ⟨hcell, List.getElem?_eq_getElem hinside⟩⟩

/-! ## Calls on other handles -/

/-- A call on a handle of another cell leaves the cell of a handle as it is. -/
theorem cell?_after_of_ne {step : Step} (hcell : pool.cell? handle = some (cell, g))
    (hne : pool.handles[step.handle]? ≠ some cell) :
    (pool.after step).cell? handle = some (cell, g) := by
  obtain ⟨hh, hg⟩ := cell?_eq_some_iff.1 hcell
  exact cell?_eq_some_iff.2 ⟨getElem?_handles_run hh [⟨0, step⟩], getElem?_cells_after_of_ne hne hg⟩

/-- Calls on handles that are not kin to a handle leave its cell as it is. -/
theorem Separate.cell?_run_of_not_kin (h : pool.Separate) {before more : List Call}
    (hcell : (pool.run before).cell? handle = some (cell, g))
    (hother : ∀ call ∈ more, ¬ pool.Kin (before ++ more) call.step.handle handle) :
    (pool.run (before ++ more)).cell? handle = some (cell, g) := by
  induction more generalizing before with
  | nil =>
    rw [List.append_nil]
    exact hcell
  | cons call rest ih =>
    have hstep : (pool.run (before ++ [call])).cell? handle = some (cell, g) := by
      rw [run_append]
      refine cell?_after_of_ne hcell ?_
      intro hsame
      have hhandle := (cell?_eq_some_iff.1 hcell).1
      have hkin : pool.Kin before call.step.handle handle :=
        (h.kin_iff (List.getElem?_eq_some_iff.1 hsame).1 (List.getElem?_eq_some_iff.1 hhandle).1).2
          (hsame.trans hhandle.symm)
      exact hother call (List.mem_cons_self ..) (hkin.append _)
    rw [List.append_cons] at hother ⊢
    exact ih hstep fun other hmem => hother other (List.mem_cons_of_mem _ hmem)

end WireLedger.Pool
