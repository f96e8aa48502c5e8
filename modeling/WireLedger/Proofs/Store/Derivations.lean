import WireLedger.Proofs.Store.Workshop
import WireLedger.Proofs.Symbol.Outcome
/-!
# Version numbers do not run out

A version number grows by one when a symbol is derived, and at no other time. Symbols can be copied
and put in the place of others, in any store, and take their numbers along; but no symbol was
derived more often than there were binds and derivations in the whole workshop. So with fewer than
`2 ^ 32` of them each version number is the number of derivations that led to it, and none comes
back to zero.

Results:
* `Bench.within_record`, `Store.Recorded.within_record`: what a step adds to the derivations of a
  past.
* `within_run`: no past has more derivations than were performed.
* `versions_counted`: what follows for version numbers, for the addition and for closed shapes.
-/
namespace WireLedger

/-! ## How often symbols were derived -/

namespace Symbol.Past

/-- No symbol with one of these pasts was derived more than `n` times. -/
def Within (n : Nat) (pasts : List Past) : Prop := ∀ past ∈ pasts, past.derivations ≤ n

variable {n k : Nat} {pasts added : List Past} {past : Past} {s : Symbol}

theorem derivations_declared (ty : SymbolType) : (declared ty).derivations = 0 := by
  cases ty <;> rfl

theorem Within.mono (h : Within n pasts) (hle : n ≤ k) : Within k pasts :=
  fun past hp => Nat.le_trans (h past hp) hle

theorem Within.getElem? (h : Within n pasts) {i : Nat} (hp : pasts[i]? = some past) :
    past.derivations ≤ n := h past (List.mem_of_getElem? hp)

theorem Within.append (h : Within n pasts) (ha : Within n added) : Within n (pasts ++ added) :=
  List.forall_mem_append.2 ⟨h, ha⟩

theorem within_singleton (hp : past.derivations ≤ n) : Within n [past] :=
  List.forall_mem_singleton.2 hp

theorem Within.toList (h : Within n pasts) (i : Nat) : Within n pasts[i]?.toList := by
  intro past hp
  exact h.getElem? (Option.mem_toList.1 hp)

theorem Within.set (h : Within n pasts) (i : Nat) (hp : past.derivations ≤ n) :
    Within n (pasts.set i past) := by
  intro other ho
  rcases List.mem_or_eq_of_mem_set ho with ho | rfl
  · exact h other ho
  · exact hp

theorem Within.modify (h : Within n pasts) (i : Nat) {f : Past → Past}
    (hf : ∀ past, (f past).derivations = past.derivations) : Within n (pasts.modify i f) := by
  intro other ho
  obtain ⟨j, hj⟩ := List.mem_iff_getElem?.1 ho
  rw [List.getElem?_modify] at hj
  obtain ⟨past, hp, rfl⟩ := Option.map_eq_some_iff.1 hj
  split
  · rw [hf]
    exact h.getElem? hp
  · exact h.getElem? hp

/-- As long as the numbers reach, the version is the number of derivations. -/
theorem Tells.version_eq (h : past.Tells s) (hle : past.derivations ≤ n) (hn : n < 2 ^ 32) :
    s.version.toNat = past.derivations := by
  rw [h.version]
  exact Nat.mod_eq_of_lt (Nat.lt_of_le_of_lt hle hn)

theorem Tells.version_le (h : past.Tells s) (hle : past.derivations ≤ n) :
    s.version.toNat ≤ n := by
  rw [h.version]
  exact Nat.le_trans (Nat.mod_le _ _) hle

end Symbol.Past

/-! ## Binds and derivations -/

namespace Bench

/-- The symbol that a step makes the next version of. -/
def derived? (bench : Bench) : Step → Option Symbol
  | .next register => bench.symbols[register]?
  | _ => none

/-- How many derivations a step performs. -/
def performs (bench : Bench) (step : Step) : Nat := if (bench.derived? step).isSome then 1 else 0

variable {bench : Bench} {pasts : List Symbol.Past} {n : Nat}

theorem performs_of_derived {step : Step} {s : Symbol} (hd : bench.derived? step = some s) :
    bench.performs step = 1 := by
  simp only [performs, hd, Option.isSome_some, if_true]

theorem derived?_tells (h : List.Forall₂ Symbol.Past.Tells pasts bench.symbols) {step : Step}
    {s : Symbol} (hd : bench.derived? step = some s) : ∃ past ∈ pasts, past.Tells s := by
  cases step with
  | next register =>
    have hrel := optionRel_getElem? h register
    rw [show bench.symbols[register]? = some s from hd] at hrel
    obtain ⟨past, hp, hpast⟩ := exists_of_optionRel_some hrel
    exact ⟨past, List.mem_of_getElem? hp, hpast⟩
  | _ => cases hd

theorem within_record (h : List.Forall₂ Symbol.Past.Tells pasts bench.symbols)
    (hn : Symbol.Past.Within n pasts) (step : Step) :
    Symbol.Past.Within (n + bench.performs step) (bench.record pasts step) := by
  have hold := hn.mono (Nat.le_add_right n (bench.performs step))
  cases step with
  | request register r =>
    simp only [record]
    split
    · exact hold.modify register fun past => past.derivations_answer _ r
    · exact hold
  | next register =>
    have hrel := optionRel_getElem? h register
    refine hold.append ?_
    cases hp : pasts[register]? with
    | none => exact List.forall_mem_nil _
    | some past =>
      rw [hp] at hrel
      obtain ⟨s, hs, -⟩ := exists_of_some_optionRel hrel
      have hd : bench.derived? (.next register) = some s := hs
      rw [performs_of_derived hd]
      exact Symbol.Past.within_singleton (Nat.succ_le_succ (hn.getElem? hp))
  | clone register => exact hold.append (hold.toList register)
  | declare name ty =>
    refine hold.append (Symbol.Past.within_singleton ?_)
    rw [Symbol.Past.derivations_declared]
    exact Nat.zero_le _
  | compare left right => exact hold

end Bench

namespace Store

/-- Whether an action is a bind that is carried out. -/
def binds (s : Store) (action : Action) : Bool := action.binds && (s.act action).value.isOk

/-- The symbol that an action makes the next version of: the newest version of a name that is bound
again, or the source of a replacement. -/
def derived? (s : Store) (action : Action) : Option Symbol :=
  match action with
  | .bind name _ _ => if s.binds action then (s.latest name).toOption else none
  | .replace _ (.next name v) => (s.version name v).toOption
  | _ => none

/-- How many binds and derivations an action performs; a bind that derives is one. -/
def performs (s : Store) (action : Action) : Nat :=
  if s.binds action || (s.derived? action).isSome then 1 else 0

variable {s : Store} {pasts : List Symbol.Past} {n : Nat} {name : String}

theorem performs_of_derived {action : Action} {symbol : Symbol}
    (hd : s.derived? action = some symbol) : s.performs action = 1 := by
  simp only [performs, hd, Option.isSome_some, Bool.or_true, if_true]

theorem mem_of_pastOfLatest? {past : Symbol.Past} (hp : s.pastOfLatest? pasts name = some past) :
    past ∈ pasts := by
  unfold pastOfLatest? at hp
  split at hp
  · exact List.mem_of_getElem? hp
  · cases hp

theorem mem_of_place? {past : Symbol.Past} {v : UInt32}
    (hp : ((s.place? name v).bind fun id => pasts[id.position]?) = some past) : past ∈ pasts := by
  obtain ⟨id, -, hid⟩ := Option.bind_eq_some_iff.1 hp
  exact List.mem_of_getElem? hid

theorem Recorded.derived?_tells (h : s.Recorded pasts) {action : Action} {symbol : Symbol}
    (hd : s.derived? action = some symbol) : ∃ past ∈ pasts, past.Tells symbol := by
  cases action with
  | bind name typeName rs =>
    have hrel := h.latest name
    simp only [derived?] at hd
    split at hd
    · rw [hd] at hrel
      obtain ⟨past, hp, hpast⟩ := exists_of_optionRel_some hrel
      exact ⟨past, mem_of_pastOfLatest? hp, hpast⟩
    · cases hd
  | amend name rs => cases hd
  | replace name source =>
    cases source with
    | next other v =>
      have hrel := h.version other v
      rw [show (s.version other v).toOption = some symbol from hd] at hrel
      obtain ⟨past, hp, hpast⟩ := exists_of_optionRel_some hrel
      exact ⟨past, mem_of_place? hp, hpast⟩
    | _ => cases hd

theorem derivations_pastOfBind (hn : Symbol.Past.Within n pasts) (name : String)
    (ty : SymbolType) : (s.pastOfBind pasts name ty).derivations ≤ n + 1 := by
  unfold pastOfBind
  cases hp : s.pastOfLatest? pasts name with
  | none =>
    show (Symbol.Past.declared ty).derivations ≤ n + 1
    rw [Symbol.Past.derivations_declared]
    exact Nat.zero_le _
  | some past => exact Nat.succ_le_succ (hn past (mem_of_pastOfLatest? hp))

theorem within_recordPut (hn : Symbol.Past.Within n pasts) (name : String) {past : Symbol.Past}
    (hp : past.derivations ≤ n) : Symbol.Past.Within n (s.recordPut pasts name past) := by
  unfold recordPut
  split
  · exact hn.set _ hp
  · exact hn

/-- The past of a replacement has at most one derivation more than any past in the store. -/
theorem Recorded.derivations_pastOf? (h : s.Recorded pasts) (hn : Symbol.Past.Within n pasts)
    {source : Replacement} {past : Symbol.Past} (hp : s.pastOf? pasts source = some past) :
    past.derivations ≤ n + s.performs (.replace name source) := by
  cases source with
  | given symbol => cases hp
  | declare other ty =>
    cases hp
    rw [Symbol.Past.derivations_declared]
    exact Nat.zero_le _
  | copy other v => exact Nat.le_add_right_of_le (hn past (mem_of_place? hp))
  | next other v =>
    obtain ⟨old, hold, rfl⟩ := Option.map_eq_some_iff.1 hp
    have hrel := h.version other v
    rw [hold] at hrel
    obtain ⟨symbol, hv, -⟩ := exists_of_some_optionRel hrel
    have hd : s.derived? (.replace name (.next other v)) = some symbol := hv
    rw [performs_of_derived hd]
    exact Nat.succ_le_succ (hn old (mem_of_place? hold))

/-- After an action no symbol was derived more often than before, but for what the action
performs. -/
theorem Recorded.within_record (h : s.Recorded pasts) (hn : Symbol.Past.Within n pasts)
    (action : Action) : Symbol.Past.Within (n + s.performs action) (s.record pasts action) := by
  have hold := hn.mono (Nat.le_add_right n (s.performs action))
  cases action with
  | bind name typeName rs =>
    cases hty : SymbolType.ofName? typeName with
    | none =>
      simp only [record, hty]
      exact hold
    | some ty =>
      cases hs : s.successor name ty with
      | error refusal =>
        simp only [record, hty, hs]
        exact hold
      | ok symbol =>
        -- the bind of a new name counts as well, though nothing is derived by it
        have hone : s.performs (.bind name typeName rs) = 1 := by
          simp only [performs, binds, act_bind hty hs]
          rfl
        simp only [record, hty, hs]
        refine hold.append (Symbol.Past.within_singleton ?_)
        rw [Symbol.Past.derivations_answerAll, hone]
        exact derivations_pastOfBind hn name ty
  | amend name rs =>
    simp only [record]
    split
    · split
      · exact hold.modify _ fun past => past.derivations_answerAll _ rs
      · exact hold
    · exact hold
  | replace name source =>
    simp only [record]
    split
    · rename_i past hp
      exact within_recordPut hold name (h.derivations_pastOf? hn hp)
    · exact hold

namespace Session

/-- The symbol that a step makes the next version of. -/
def derived? (session : Session) : Step → Option Symbol
  | .act action => session.store.derived? action
  | _ => none

/-- How many binds and derivations a step performs. -/
def performs (session : Session) : Step → Nat
  | .act action => session.store.performs action
  | _ => 0

variable {session : Session} {records : List (List Symbol.Past)}

theorem within_inUse (hn : ∀ pasts ∈ records, Symbol.Past.Within n pasts) (session : Session) :
    Symbol.Past.Within n (session.pastsInUse records) := by
  unfold pastsInUse
  rw [List.getD_eq_getElem?_getD]
  cases hs : records[session.current]? with
  | none => exact List.forall_mem_nil _
  | some pasts => exact hn pasts (List.mem_of_getElem? hs)

theorem within_recordPut (hn : ∀ pasts ∈ records, Symbol.Past.Within n pasts) (name : String)
    {past : Symbol.Past} (hp : past.derivations ≤ n) :
    ∀ pasts ∈ session.recordPut records name past, Symbol.Past.Within n pasts := by
  intro pasts hm
  rcases List.mem_or_eq_of_mem_set hm with hm | rfl
  · exact hn pasts hm
  · exact Store.within_recordPut (within_inUse hn session) name hp

theorem Recorded.within_record (h : session.Recorded records)
    (hn : ∀ pasts ∈ records, Symbol.Past.Within n pasts) (step : Step) :
    ∀ pasts ∈ session.record records step,
      Symbol.Past.Within (n + session.performs step) pasts := by
  intro pasts hm
  cases step with
  | act action =>
    rcases List.mem_or_eq_of_mem_set hm with hm | rfl
    · exact (hn pasts hm).mono (Nat.le_add_right _ _)
    · exact h.store.within_record (within_inUse hn session) action
  | clone =>
    rcases List.mem_append.1 hm with hm | hm
    · exact hn pasts hm
    · rw [List.mem_singleton.1 hm]
      exact within_inUse hn session
  | create =>
    rcases List.mem_append.1 hm with hm | hm
    · exact hn pasts hm
    · rw [List.mem_singleton.1 hm]
      exact List.forall_mem_nil _
  | _ => exact hn pasts hm

theorem performs_of_derived {step : Step} {symbol : Symbol}
    (hd : session.derived? step = some symbol) : session.performs step = 1 := by
  cases step with
  | act action => exact Store.performs_of_derived hd
  | _ => cases hd

theorem Recorded.derived?_tells (h : session.Recorded records) {step : Step} {symbol : Symbol}
    (hd : session.derived? step = some symbol) :
    ∃ past ∈ session.pastsInUse records, past.Tells symbol := by
  cases step with
  | act action => exact h.store.derived?_tells hd
  | _ => cases hd

end Session

end Store

namespace Workshop

/-! ## Runs of a workshop -/

/-- The symbol that a step makes the next version of. -/
def derived? (w : Workshop) : Step → Option Symbol
  | .bench step => w.bench.derived? step
  | .session step _ => w.session.derived? step
  | _ => none

/-- How many binds and derivations a step performs, which is one at most. -/
def performs (w : Workshop) : Step → Nat
  | .bench step => w.bench.performs step
  | .session step _ => w.session.performs step
  | _ => 0

/-- How many binds and derivations steps in order perform. -/
def performed (w : Workshop) : List Step → Nat
  | [] => 0
  | step :: rest => w.performs step + (w.after step).performed rest

/-- No symbol in the workshop was derived more than `n` times. -/
structure Records.Within (n : Nat) (r : Records) : Prop where
  bench : Symbol.Past.Within n r.bench
  stores : ∀ pasts ∈ r.stores, Symbol.Past.Within n pasts

variable {w : Workshop} {r : Records} {n : Nat} {steps : List Step}

theorem performed_append (w : Workshop) (before more : List Step) :
    w.performed (before ++ more) = w.performed before + (w.run before).performed more := by
  induction before generalizing w with
  | nil => exact (Nat.zero_add _).symm
  | cons step rest ih =>
    rw [List.cons_append, performed, performed, ih, Nat.add_assoc]
    rfl

theorem Records.Within.symbol? (h : r.Within n) {place : SymbolPlace} {past : Symbol.Past}
    (hp : r.symbol? place = some past) : past.derivations ≤ n := by
  cases place with
  | bench register => exact h.bench.getElem? hp
  | store number id =>
    obtain ⟨pasts, hs, hid⟩ := Option.bind_eq_some_iff.1 hp
    exact (h.stores pasts (List.mem_of_getElem? hs)).getElem? hid

/-- A step adds at most one derivation to a past, and only by a bind or a derivation. -/
theorem Records.Within.after (h : r.Within n) (hr : w.Recorded r) (step : Step) :
    (w.record r step).Within (n + w.performs step) := by
  cases step with
  | shelf step => exact ⟨h.bench, h.stores⟩
  | bench step =>
    exact ⟨Bench.within_record hr.bench h.bench step,
      fun pasts hp => (h.stores pasts hp).mono (Nat.le_add_right _ _)⟩
  | session step own =>
    exact ⟨h.bench.mono (Nat.le_add_right _ _), hr.stores.within_record h.stores step⟩
  | takeBundle register index => exact ⟨h.bench, h.stores⟩
  | takeSymbol id =>
    have hadded := (Store.Session.within_inUse h.stores w.session).toList id.position
    exact ⟨h.bench.append hadded, h.stores⟩
  | place register name =>
    simp only [record]
    split
    · rename_i past hp
      exact ⟨h.bench, Store.Session.within_recordPut h.stores name (h.bench.getElem? hp)⟩
    · exact h

theorem Records.Within.run (h : r.Within n) (hr : w.Recorded r) (steps : List Step) :
    (w.recordAll r steps).Within (n + w.performed steps) := by
  induction steps generalizing w r n with
  | nil => exact h
  | cons step rest ih =>
    have hrest := ih (h.after hr step) (hr.after step)
    rwa [Nat.add_assoc] at hrest

/-- No symbol was derived more often than there were binds and derivations. -/
theorem within_run (steps : List Step) : (records steps).Within (start.performed steps) := by
  have hstart : Records.start.Within 0 :=
    ⟨List.forall_mem_nil _, List.forall_mem_singleton.2 (List.forall_mem_nil _)⟩
  have hrun := hstart.run recorded_start steps
  rwa [Nat.zero_add] at hrun

/-- What is derived has a number within the bound, and one more derivation is performed then. -/
theorem derived?_le (h : w.Recorded r) (hn : r.Within n) {step : Step} {symbol : Symbol}
    (hd : w.derived? step = some symbol) :
    symbol.version.toNat ≤ n ∧ w.performs step = 1 := by
  cases step with
  | bench step =>
    obtain ⟨past, hp, hpast⟩ := Bench.derived?_tells h.bench hd
    exact ⟨hpast.version_le (hn.bench past hp), Bench.performs_of_derived hd⟩
  | session step own =>
    obtain ⟨past, hp, hpast⟩ := h.stores.derived?_tells hd
    exact ⟨hpast.version_le (Store.Session.within_inUse hn.stores w.session past hp),
      Store.Session.performs_of_derived hd⟩
  | _ => cases hd

/-- Version numbers count binds and derivations from below. While fewer than `2 ^ 32` of these are
performed, the number of a derived symbol is one more than that of its source, and a symbol that was
derived, or copied from one that was, never has an open shape again. -/
structure Counted (steps : List Step) : Prop where
  version_le : ∀ place symbol, (start.run steps).symbol? place = some symbol →
    symbol.version.toNat ≤ start.performed steps
  added : start.performed steps < 2 ^ 32 → ∀ before step later symbol,
    steps = before ++ step :: later → (start.run before).derived? step = some symbol →
      symbol.next.version.toNat = symbol.version.toNat + 1
  closed : start.performed steps < 2 ^ 32 → ∀ place past symbol,
    (records steps).symbol? place = some past → (start.run steps).symbol? place = some symbol →
      past.derivations ≠ 0 → symbol.version ≠ 0 ∧ ∀ e : Symbol.Edit, e.reshapes = true →
        symbol.edit e = .error (.shapeFixed symbol.name symbol.version)

/-- The version numbers of every run over bundles, symbols and stores. -/
theorem versions_counted (steps : List Step) : Counted steps where
  version_le place symbol hs := by
    have hrel := (recorded_run steps).symbol? place
    rw [hs] at hrel
    obtain ⟨past, hp, hpast⟩ := exists_of_optionRel_some hrel
    exact hpast.version_le ((within_run steps).symbol? hp)
  added hfew before step later symbol hsteps hd := by
    -- the source was derived within the count of the steps before, and this step counts one more
    obtain ⟨hle, hone⟩ := derived?_le (recorded_run before) (within_run before) hd
    rw [hsteps, performed_append, performed, hone] at hfew
    have hroom : symbol.version.toNat + 1 < 2 ^ 32 := by omega
    rw [Symbol.version_next, UInt32.toNat_add]
    exact Nat.mod_eq_of_lt hroom
  closed hfew place past symbol hp hs hderived := by
    have hrel := (recorded_run steps).symbol? place
    rw [hs, hp] at hrel
    cases hrel with
    | some hpast =>
      have hnumber := hpast.version_eq ((within_run steps).symbol? hp) hfew
      have hne : symbol.version ≠ 0 := fun h0 => hderived (by rw [← hnumber, h0]; rfl)
      exact ⟨hne, fun e he => Symbol.edit_eq_error_iff.2 (.version he hne)⟩

/-- A key is bound twice; its second version goes on the bench, is derived there, and the outcome is
put in the place of a table in another store. -/
def derivedAcross : List Step :=
  [.session (.act (.bind "key" "num" [.edit (.setWidth 1)])) rfl,
    .session (.act (.bind "key" "num" [])) rfl, .takeSymbol ⟨1⟩, .bench (.next 0),
    .session .create rfl, .session (.use 1) rfl,
    .session (.act (.bind "table" "array" [])) rfl, .place 1 "table"]

theorem versions_counted_derivedAcross :
    start.performed derivedAcross = 4 ∧
    (start.run derivedAcross).symbol? (.store 1 ⟨0⟩) = some ⟨"key", 2, .numeric (.ofWidth 1)⟩ ∧
    (records derivedAcross).symbol? (.store 1 ⟨0⟩) = some ⟨2, [.fresh 1]⟩ ∧
    Counted derivedAcross ∧
    Symbol.edit ⟨"key", 2, .numeric (.ofWidth 1)⟩ (.setWidth 3) = .error (.shapeFixed "key" 2) :=
  have h := versions_counted derivedAcross
  have hrun : (start.run derivedAcross).symbol? (.store 1 ⟨0⟩) =
    some ⟨"key", 2, .numeric (.ofWidth 1)⟩ := by decide
  have hpast : (records derivedAcross).symbol? (.store 1 ⟨0⟩) = some ⟨2, [.fresh 1]⟩ := by decide
  ⟨by decide, hrun, hpast, h,
    (h.closed (by decide) (.store 1 ⟨0⟩) _ _ hpast hrun (by decide)).2 (.setWidth 3) rfl⟩

end Workshop

end WireLedger
