import Mathlib.Data.List.Forall2
import WireLedger.Proofs.Symbol.Rewiring
import WireLedger.Symbol.Bench
/-!
# The past of bundles and of symbols

The past of a bundle is kept beside it: the width that it was given, and the wires that were bound
to it since, binding by binding. A copy takes its past along. The past of a symbol is that of its
bundles, and how often it or the symbols that it was copied from were derived. A refused edit is not
recorded.

Results:
* `Bundle.Past.Tells.bind`, `Symbol.Past.Tells.edit`: what is bound and edited is what the past
  tells then.
* `Symbol.Past.Tells.answerAll`: so it is after any requests.
* `Shelf.tells_step`, `Bench.tells_step`: so it is for numbered bundles and for numbered symbols.
-/
namespace WireLedger

/-! ## Related lists -/

section Related

variable {α β : Type} {R : α → β → Prop} {xs : List α} {ys : List β}

theorem optionRel_getElem? (h : List.Forall₂ R xs ys) (i : Nat) :
    Option.Rel R xs[i]? ys[i]? := by
  induction h generalizing i with
  | nil => exact .none
  | cons hxy _ ih =>
    cases i with
    | zero => exact .some hxy
    | succ i => exact ih i

theorem exists_of_optionRel_some {a : Option α} {b : β} (h : Option.Rel R a (some b)) :
    ∃ a', a = some a' ∧ R a' b := by
  cases h with
  | some hab => exact ⟨_, rfl, hab⟩

theorem exists_of_some_optionRel {a : α} {b : Option β} (h : Option.Rel R (some a) b) :
    ∃ b', b = some b' ∧ R a b' := by
  cases h with
  | some hab => exact ⟨_, rfl, hab⟩

theorem eq_none_of_optionRel_none {a : Option α} (h : Option.Rel R a (none : Option β)) :
    a = none := by
  cases h
  rfl

theorem optionRel_imp {S : α → β → Prop} {a : Option α} {b : Option β} (h : Option.Rel R a b)
    (hRS : ∀ a b, R a b → S a b) : Option.Rel S a b := by
  cases h with
  | none => exact .none
  | some hab => exact .some (hRS _ _ hab)

theorem forall₂_toList {a : Option α} {b : Option β} (h : Option.Rel R a b) :
    List.Forall₂ R a.toList b.toList := by
  cases h with
  | none => exact .nil
  | some hab => exact .cons hab .nil

theorem optionRel_map {γ δ : Type} {S : γ → δ → Prop} {f : α → γ} {g : β → δ} {a : Option α}
    {b : Option β} (h : Option.Rel R a b) (hfg : ∀ a b, R a b → S (f a) (g b)) :
    Option.Rel S (a.map f) (b.map g) := by
  cases h with
  | none => exact .none
  | some hab => exact .some (hfg _ _ hab)

theorem optionRel_bind {γ δ : Type} {S : γ → δ → Prop} {f : α → Option γ} {g : β → Option δ}
    {a : Option α} {b : Option β} (h : Option.Rel R a b)
    (hfg : ∀ a b, R a b → Option.Rel S (f a) (g b)) : Option.Rel S (a.bind f) (b.bind g) := by
  cases h with
  | none => exact .none
  | some hab => exact hfg _ _ hab

/-- One place of both lists is changed; what stands there on the right is known. -/
theorem forall₂_modify_set {f : α → α} {b b' : β} {i : Nat} (h : List.Forall₂ R xs ys)
    (hb : ys[i]? = some b) (hf : ∀ a, R a b → R (f a) b') :
    List.Forall₂ R (xs.modify i f) (ys.set i b') := by
  induction h generalizing i with
  | nil => cases hb
  | cons hxy hrest ih =>
    cases i with
    | zero =>
      cases hb
      exact .cons (hf _ hxy) hrest
    | succ i => exact .cons hxy (ih hb)

theorem forall₂_set {a : α} {b : β} (h : List.Forall₂ R xs ys) (i : Nat) (hab : R a b) :
    List.Forall₂ R (xs.set i a) (ys.set i b) := by
  induction h generalizing i with
  | nil => exact .nil
  | cons hxy hrest ih =>
    cases i with
    | zero => exact .cons hab hrest
    | succ i => exact .cons hxy (ih i)

end Related

/-! ## Bundles -/

namespace Bundle

/-- What became of a bundle since it was given its width: that width, and the wires that were bound
to it, the last binding last. -/
structure Past where
  width : Nat
  bindings : List (List WireId)
deriving DecidableEq, Repr

namespace Past

/-- Nothing was bound yet. -/
def fresh (width : Nat) : Past := ⟨width, []⟩

/-- The past of an empty bundle of the same width. -/
def reshaped (past : Past) : Past := fresh past.width

/-- One more binding. -/
def bound (past : Past) (wires : List WireId) : Past :=
  { past with bindings := past.bindings ++ [wires] }

/-- The wires of the last binding in order, or nothing in any slot. -/
def slots (past : Past) : List (Option WireId) :=
  match past.bindings.getLast? with
  | some wires => wires.map some
  | none => List.replicate past.width none

/-- The bundle has the width that it was given, and holds what was last bound to it. -/
structure Tells (past : Past) (b : Bundle) : Prop where
  width : b.width = past.width
  slots : b.slots = past.slots

variable {past : Past} {b b' : Bundle}

theorem slots_bound (past : Past) (wires : List WireId) :
    (past.bound wires).slots = wires.map some := by
  simp [slots, bound]

theorem tells_fresh (width : Nat) : (fresh width).Tells (.ofWidth width) :=
  ⟨width_ofWidth width, rfl⟩

theorem Tells.reshaped (h : past.Tells b) : past.reshaped.Tells b.reshaped := by
  unfold Past.reshaped Bundle.reshaped
  rw [h.width]
  exact tells_fresh past.width

theorem Tells.bind {owner : String} {wires : List WireId} (h : past.Tells b)
    (hb : b.bind owner wires = .ok b') : (past.bound wires).Tells b' := by
  refine ⟨(width_of_bind_eq_ok hb).trans h.width, ?_⟩
  obtain ⟨-, rfl⟩ := bind_eq_ok_iff.1 hb
  exact (past.slots_bound wires).symm

end Past

end Bundle

/-! ## Symbols -/

namespace Symbol

/-- What became of a symbol: how often it was derived, and the past of each of its bundles. -/
structure Past where
  derivations : Nat
  bundles : List Bundle.Past
deriving DecidableEq, Repr

namespace Past

/-- The past of a first version, which a number starts with the bundle without slots. -/
def declared : SymbolType → Past
  | .numeric => ⟨0, [.fresh 0]⟩
  | .array | .function => ⟨0, []⟩

/-- The past of the next version: one derivation more, and nothing bound yet. -/
def next (past : Past) : Past := ⟨past.derivations + 1, past.bundles.map .reshaped⟩

/-- The past after an edit that is carried out. -/
def edit (past : Past) : Edit → Past
  | .setWidth width => { past with bundles := [.fresh width] }
  | .bindWires wires => { past with bundles := past.bundles.modify 0 (·.bound wires) }
  | .pushElement width => { past with bundles := past.bundles ++ [.fresh width] }
  | .bindElement index wires => { past with bundles := past.bundles.modify index (·.bound wires) }
  | .setFunction _ => past

/-- The past after a request to `s`. -/
def answer (past : Past) (s : Symbol) : Request → Past
  | .edit e => if (s.edit e).isOk then past.edit e else past
  | _ => past

/-- The past after requests to `s` in order. -/
def answerAll (past : Past) (s : Symbol) : List Request → Past
  | [] => past
  | r :: rs => (past.answer s r).answerAll (s.answer r).1 rs

/-- The version counts the derivations, as far as its numbers reach, and the bundles are what their
own pasts tell. -/
structure Tells (past : Past) (s : Symbol) : Prop where
  version : s.version.toNat = past.derivations % UInt32.size
  bundles : List.Forall₂ Bundle.Past.Tells past.bundles s.bundles

variable {past : Past} {s s' : Symbol}

theorem tells_declared (name : String) (ty : SymbolType) :
    (declared ty).Tells (.declare name ty) := by
  cases ty with
  | numeric => exact ⟨rfl, .cons (Bundle.Past.tells_fresh 0) .nil⟩
  | array | function => exact ⟨rfl, .nil⟩

theorem bundles_next (s : Symbol) : s.next.bundles = s.bundles.map Bundle.reshaped := by
  unfold Symbol.bundles Symbol.next
  cases s.payload <;> rfl

theorem Tells.next (h : past.Tells s) : past.next.Tells s.next where
  version := by
    rw [version_next, UInt32.toNat_add, h.version]
    exact Nat.mod_add_mod _ _ _
  bundles := by
    rw [bundles_next]
    exact List.rel_map (fun _ _ hpast => hpast.reshaped) h.bundles

theorem Tells.edit {e : Edit} (h : past.Tells s) (he : s.edit e = .ok s') :
    (past.edit e).Tells s' := by
  obtain ⟨hcount, hbundles⟩ := h
  unfold Symbol.bundles at hbundles
  cases e with
  | setWidth width =>
    obtain ⟨-, -, rfl⟩ := setWidth_eq_ok_iff.1 he
    exact ⟨hcount, .cons (Bundle.Past.tells_fresh width) .nil⟩
  | bindWires wires =>
    obtain ⟨b, b', hb, hb', rfl⟩ := bindWires_eq_ok_iff.1 he
    rw [hb] at hbundles
    exact ⟨hcount, forall₂_modify_set hbundles rfl fun _ hpast => hpast.bind hb'⟩
  | pushElement width =>
    obtain ⟨-, bs, hbs, rfl⟩ := pushElement_eq_ok_iff.1 he
    rw [hbs] at hbundles
    exact ⟨hcount, List.rel_append hbundles (.cons (Bundle.Past.tells_fresh width) .nil)⟩
  | bindElement index wires =>
    obtain ⟨bs, b, b', hbs, hb, hb', rfl⟩ := bindElement_eq_ok_iff.1 he
    rw [hbs] at hbundles
    exact ⟨hcount, forall₂_modify_set hbundles hb fun _ hpast => hpast.bind hb'⟩
  | setFunction body =>
    obtain ⟨-, ⟨old, ho⟩, rfl⟩ := setFunction_eq_ok_iff.1 he
    rw [ho] at hbundles
    exact ⟨hcount, hbundles⟩

theorem Tells.answer (h : past.Tells s) (r : Request) :
    (past.answer s r).Tells (s.answer r).1 := by
  cases r with
  | edit e =>
    simp only [Past.answer, answer_edit]
    cases he : s.edit e with
    | ok edited => exact h.edit he
    | error refusal => exact h
  | _ => exact h

theorem Tells.answerAll (h : past.Tells s) (rs : List Request) :
    (past.answerAll s rs).Tells (s.answerAll rs).1 := by
  induction rs generalizing past s with
  | nil => exact h
  | cons r rs ih => exact ih (h.answer r)

/-- No request derives. -/
theorem derivations_answer (past : Past) (s : Symbol) (r : Request) :
    (past.answer s r).derivations = past.derivations := by
  cases r with
  | edit e =>
    simp only [answer]
    split
    · cases e <;> rfl
    · rfl
  | _ => rfl

theorem derivations_answerAll (past : Past) (s : Symbol) (rs : List Request) :
    (past.answerAll s rs).derivations = past.derivations := by
  induction rs generalizing past s with
  | nil => rfl
  | cons r rs ih => exact (ih _ _).trans (past.derivations_answer s r)

end Past

end Symbol

/-! ## Numbered bundles and symbols -/

namespace Shelf

/-- The pasts of the bundles after a step. -/
def record (shelf : Shelf) (pasts : List Bundle.Past) : Step → List Bundle.Past
  | .bind register owner wires =>
    match shelf.bundles[register]? with
    | some bundle =>
      if (bundle.bind owner wires).isOk then pasts.modify register (·.bound wires) else pasts
    | none => pasts
  | .get _ | .equal _ _ => pasts
  | .reshape register => pasts ++ (pasts[register]?.map .reshaped).toList
  | .clone register => pasts ++ pasts[register]?.toList
  | .create width => pasts ++ [.fresh width]
  | .createEmpty => pasts ++ [.fresh 0]

theorem bundles_reshape (shelf : Shelf) (register : Nat) :
    (shelf.step (.reshape register)).1.bundles =
      shelf.bundles ++ (shelf.bundles[register]?.map Bundle.reshaped).toList := by
  simp only [Shelf.step]
  cases shelf.bundles[register]? with
  | some bundle => rfl
  | none => exact (List.append_nil _).symm

theorem bundles_clone (shelf : Shelf) (register : Nat) :
    (shelf.step (.clone register)).1.bundles =
      shelf.bundles ++ shelf.bundles[register]?.toList := by
  simp only [Shelf.step]
  cases shelf.bundles[register]? with
  | some bundle => rfl
  | none => exact (List.append_nil _).symm

theorem tells_step {shelf : Shelf} {pasts : List Bundle.Past}
    (h : List.Forall₂ Bundle.Past.Tells pasts shelf.bundles) (step : Step) :
    List.Forall₂ Bundle.Past.Tells (shelf.record pasts step) (shelf.step step).1.bundles := by
  cases step with
  | bind register owner wires =>
    cases hr : shelf.bundles[register]? with
    | none =>
      simp only [record, step_bind, hr]
      exact h
    | some bundle =>
      simp only [record, step_bind, hr]
      cases hb : bundle.bind owner wires with
      | ok bound => exact forall₂_modify_set h hr fun _ hpast => hpast.bind hb
      | error refusal => exact h
  | get register => exact h
  | equal left right =>
    simp only [Shelf.step]
    split <;> exact h
  | reshape register =>
    have hadded := optionRel_map (optionRel_getElem? h register) fun _ _ hpast => hpast.reshaped
    rw [bundles_reshape]
    exact List.rel_append h (forall₂_toList hadded)
  | clone register =>
    rw [bundles_clone]
    exact List.rel_append h (forall₂_toList (optionRel_getElem? h register))
  | create width => exact List.rel_append h (.cons (Bundle.Past.tells_fresh width) .nil)
  | createEmpty => exact List.rel_append h (.cons (Bundle.Past.tells_fresh 0) .nil)

end Shelf

namespace Bench

/-- The pasts of the symbols after a step. -/
def record (bench : Bench) (pasts : List Symbol.Past) : Step → List Symbol.Past
  | .request register r =>
    match bench.symbols[register]? with
    | some symbol => pasts.modify register (·.answer symbol r)
    | none => pasts
  | .next register => pasts ++ (pasts[register]?.map .next).toList
  | .clone register => pasts ++ pasts[register]?.toList
  | .declare _ ty => pasts ++ [.declared ty]
  | .compare _ _ => pasts

theorem symbols_next (bench : Bench) (register : Nat) :
    (bench.step (.next register)).1.symbols =
      bench.symbols ++ (bench.symbols[register]?.map Symbol.next).toList := by
  simp only [Bench.step]
  cases bench.symbols[register]? with
  | some symbol => rfl
  | none => exact (List.append_nil _).symm

theorem symbols_clone (bench : Bench) (register : Nat) :
    (bench.step (.clone register)).1.symbols =
      bench.symbols ++ bench.symbols[register]?.toList := by
  simp only [Bench.step]
  cases bench.symbols[register]? with
  | some symbol => rfl
  | none => exact (List.append_nil _).symm

theorem tells_step {bench : Bench} {pasts : List Symbol.Past}
    (h : List.Forall₂ Symbol.Past.Tells pasts bench.symbols) (step : Step) :
    List.Forall₂ Symbol.Past.Tells (bench.record pasts step) (bench.step step).1.symbols := by
  cases step with
  | request register r =>
    cases hr : bench.symbols[register]? with
    | none =>
      simp only [record, Bench.step, hr]
      exact h
    | some symbol =>
      simp only [record, Bench.step, hr]
      exact forall₂_modify_set h hr fun _ hpast => hpast.answer r
  | next register =>
    have hadded := optionRel_map (optionRel_getElem? h register) fun _ _ hpast => hpast.next
    rw [symbols_next]
    exact List.rel_append h (forall₂_toList hadded)
  | clone register =>
    rw [symbols_clone]
    exact List.rel_append h (forall₂_toList (optionRel_getElem? h register))
  | declare name ty => exact List.rel_append h (.cons (Symbol.Past.tells_declared name ty) .nil)
  | compare left right =>
    simp only [Bench.step]
    split <;> exact h

end Bench

end WireLedger
