import WireLedger.Proofs.Store.Clones
import WireLedger.Proofs.Store.Fault
import WireLedger.Proofs.Store.SingleAssignment
/-!
# The journal of a store

Each bind that is carried out is told of once, and nothing else is told of in the same way. So the
binds that were told of, the journal, name the keys of the arena in the order of binding. As long as
no symbol is put in the place of another, the journal also gives the version and the type of every
symbol, and binding its entries anew leads to a store that differs in payloads only.

Results:
* `Represents.order_run`: the journal names the keys of the arena.
* `Represents.announcements_run`: without replacement the journal announces the symbols.
* `Represents.rebinds_run`: the entries of the journal can be bound anew.
* `Session.journal_faithful`: all of this for the journal of one store among others.
-/
namespace WireLedger

namespace Event

/-- The name of a bind that is told of. -/
def boundName? : Event → Option String
  | bound name _ _ => some name
  | _ => none

/-- The bind, without requests, that an event tells of. -/
def rebind? : Event → Option Store.Action
  | bound name _ type => some (.bind name type.name [])
  | _ => none

theorem isSome_rebind? (event : Event) : event.rebind?.isSome = event.boundName?.isSome := by
  cases event <;> rfl

end Event

/-- The event that tells of the bind of a symbol. -/
def Symbol.announcement (symbol : Symbol) : Event := .bound symbol.name symbol.version symbol.type

theorem Symbol.Keeps.announcement {s s' : Symbol} (h : s.Keeps s') :
    s'.announcement = s.announcement := by
  unfold Symbol.announcement
  rw [h.name, h.version, h.type]

theorem Symbol.announcement_next {s s' : Symbol} (h : s'.announcement = s.announcement) :
    s'.next.announcement = s.next.announcement := by
  obtain ⟨hname, hversion, htype⟩ := Event.bound.inj h
  simp only [announcement, next, Symbol.type, Payload.type_reshaped, hname, hversion] at htype ⊢
  rw [htype]

/-! ## Names of symbols -/

/-- Every symbol of a history has the name of the history. -/
def Chronicle.Named (m : Chronicle) : Prop :=
  ∀ name, ∀ symbol ∈ m.history name, symbol.name = name

namespace Chronicle

variable {m : Chronicle} {name : String} {ty : SymbolType} {symbol : Symbol}

theorem type_of_successor (h : m.successor name ty = .ok symbol) : symbol.type = ty := by
  rcases successor_cases h with ⟨-, rfl⟩ | ⟨newest, -, hty, rfl⟩
  · exact Symbol.type_declare name ty
  · rw [Symbol.type_next, hty]

theorem Named.of_successor (hm : m.Named) (h : m.successor name ty = .ok symbol) :
    symbol.name = name := by
  rcases successor_cases h with ⟨-, rfl⟩ | ⟨newest, hlast, -, rfl⟩
  · rfl
  · exact hm name newest (List.mem_of_getLast? hlast)

theorem Named.after (hm : m.Named) {action : Store.Action} (hplain : action.replaces = false) :
    (m.after action).Named := by
  intro name symbol hs
  rcases history_after_cases (m := m) hplain name with he | ⟨ty, added, edited, hsucc, hk, he⟩ |
    ⟨older, newest, edited, hold, hk, he⟩
  · rw [he] at hs
    exact hm name symbol hs
  · rw [he, List.mem_append, List.mem_singleton] at hs
    rcases hs with hs | rfl
    · exact hm name symbol hs
    · rw [hk.name, hm.of_successor hsucc]
  · rw [he, List.mem_append, List.mem_singleton] at hs
    rcases hs with hs | rfl
    · exact hm name symbol (by simp [hold, hs])
    · rw [hk.name, hm name newest (by simp [hold])]

end Chronicle

namespace Store

theorem runEvents_append (s : Store) (first second : List Action) :
    s.runEvents (first ++ second) = s.runEvents first ++ (s.run first).runEvents second := by
  induction first generalizing s with
  | nil => rfl
  | cons action rest ih =>
    rw [List.cons_append, runEvents_cons, runEvents_cons, ih, List.append_assoc]
    rfl

namespace Represents

variable {s : Store} {m : Chronicle}

/-! ## The keys of the arena -/

/-- An action tells of the entry that it adds, and of nothing if it adds none. -/
theorem order_after (h : s.Represents m) (action : Action) :
    (m.after action).order.map some =
      m.order.map some ++ (s.act action).events.map Event.boundName? := by
  rw [(h.act action).1]
  rcases m.after_cases action with ⟨⟨refusal, he⟩, ho⟩ |
    ⟨name, text, rs, ty, symbol, rfl, hty, hs, ho⟩ | ⟨_, _, _, rfl, -, ho⟩ |
    ⟨_, _, _, _, rfl, -, -, ho⟩
  · have hout := (h.act action).2
    rw [he] at hout
    have hact := (h.act_of_error hout.error_of_eq).1
    rw [ho, ← (h.act action).1, hact]
    exact (List.append_nil _).symm
  · have hevents : (m.act (.bind name text rs)).events = [.bound name symbol.version ty] := by
      simp only [Chronicle.act, hty, Chronicle.bind, hs]
    rw [ho, hevents, Chronicle.push, List.map_append]
    rfl
  · rw [ho]
    exact (List.append_nil _).symm
  · rw [ho]
    exact (List.append_nil _).symm

/-- The journal names the keys of the arena, in the order of binding. -/
theorem order_run (h : s.Represents m) (actions : List Action) :
    (m.run actions).order.map some =
      m.order.map some ++ (s.runEvents actions).map Event.boundName? := by
  induction actions generalizing s m with
  | nil => exact (List.append_nil _).symm
  | cons action rest ih =>
    have hrest := ih (h.after action)
    rw [h.order_after, List.append_assoc, ← List.map_append, ← runEvents_cons] at hrest
    exact hrest

/-- The events of a run are binds. -/
theorem isSome_of_mem_runEvents (h : s.Represents m) {actions : List Action} {event : Event}
    (hm : event ∈ s.runEvents actions) : event.boundName?.isSome := by
  have hmem : event.boundName? ∈ (m.run actions).order.map some := by
    rw [h.order_run]
    exact List.mem_append_right _ (List.mem_map_of_mem hm)
  obtain ⟨name, -, hname⟩ := List.mem_map.1 hmem
  rw [← hname]
  rfl

/-! ## What an action without replacement does -/

/-- An action without replacement tells of nothing, and at most edits one symbol, or it adds one
symbol and tells of that. -/
theorem plain_cases (h : s.Represents m) {action : Action} (hplain : action.replaces = false) :
    (s.act action).events = [] ∧ (s.after action = s ∨ ∃ id symbol edited,
      s.get? id = some symbol ∧ symbol.Keeps edited ∧ s.after action = s.set id edited) ∨
    ∃ name ty symbol edited, s.successor name ty = .ok symbol ∧ symbol.Keeps edited ∧
      (s.act action).events = [.bound name symbol.version ty] ∧
      s.after action = s.push name edited := by
  rcases h.act_cases action with ⟨refusal, hact, -⟩ | ⟨name, text, rs, ty, symbol, rfl, hty, hs⟩ |
    ⟨name, rs, id, symbol, rfl, hid, hget⟩ | ⟨_, _, _, _, rfl, -⟩
  · refine .inl ⟨by rw [hact]; rfl, .inl ?_⟩
    rw [after_eq, hact]
    rfl
  · refine .inr ⟨name, ty, symbol, _, hs, symbol.keeps_answerAll rs, by rw [act_bind hty hs], ?_⟩
    rw [after_eq, act_bind hty hs]
  · exact .inl ⟨by rw [act_amend hid hget]; rfl,
      .inr ⟨id, symbol, _, hget, symbol.keeps_answerAll rs, after_amend hid hget rs⟩⟩
  · cases hplain

end Represents

/-! ## The symbols of the arena -/

/-- What the symbols of the arena are announced as. -/
def announcements (s : Store) : List Event := s.arena.toList.map Symbol.announcement

theorem announcements_push (s : Store) (name : String) (symbol : Symbol) :
    (s.push name symbol).announcements = s.announcements ++ [symbol.announcement] := by
  simp [announcements, push]

theorem announcements_set {s : Store} {id : SymbolId} {symbol edited : Symbol}
    (hget : s.get? id = some symbol) (hk : symbol.Keeps edited) :
    (s.set id edited).announcements = s.announcements := by
  have hat : s.arena.toList[id.position]? = some symbol := by
    rw [Array.getElem?_toList]
    exact hget
  simp only [announcements, set, Array.toList_setIfInBounds]
  exact Symbol.map_set_of_getElem? hat hk.announcement

theorem getElem?_announcements (s : Store) (i : Nat) :
    s.announcements[i]? = (s.get? ⟨i⟩).map Symbol.announcement := by
  rw [announcements, List.getElem?_map, Array.getElem?_toList, get?]

namespace Represents

variable {s : Store} {m : Chronicle}

theorem announcements_after (h : s.Represents m) (hm : m.Named) {action : Action}
    (hplain : action.replaces = false) :
    (s.after action).announcements = s.announcements ++ (s.act action).events := by
  rcases h.plain_cases hplain with ⟨hevents, he | ⟨id, symbol, edited, hget, hk, he⟩⟩ |
    ⟨name, ty, symbol, edited, hs, hk, hevents, he⟩
  · rw [he, hevents, List.append_nil]
  · rw [he, hevents, announcements_set hget hk, List.append_nil]
  · rw [h.successor_eq] at hs
    rw [he, hevents, announcements_push, hk.announcement, Symbol.announcement, hm.of_successor hs,
      Chronicle.type_of_successor hs]

/-- Without replacement the events of a run announce the symbols that it adds. -/
theorem announcements_run (h : s.Represents m) (hm : m.Named) {actions : List Action}
    (hplain : ∀ action ∈ actions, action.replaces = false) :
    (s.run actions).announcements = s.announcements ++ s.runEvents actions := by
  induction actions generalizing s m with
  | nil => exact (List.append_nil _).symm
  | cons action rest ih =>
    have hfirst := hplain action (List.mem_cons_self ..)
    have hrest := ih (h.after action) (hm.after hfirst)
      fun other ho => hplain other (List.mem_cons_of_mem _ ho)
    rw [h.announcements_after hm hfirst, List.append_assoc, ← runEvents_cons] at hrest
    exact hrest

end Represents

/-! ## Binding anew -/

/-- The binds that a journal tells of. -/
def rebinds (journal : List Event) : List Action := journal.filterMap Event.rebind?

/-- None of the actions is refused. -/
def CarriedOut (s : Store) : List Action → Prop
  | [] => True
  | action :: rest => (∃ out, (s.act action).value = .ok out) ∧ (s.after action).CarriedOut rest

theorem carriedOut_append {s : Store} {first second : List Action} (hfirst : s.CarriedOut first)
    (hsecond : (s.run first).CarriedOut second) : s.CarriedOut (first ++ second) := by
  induction first generalizing s with
  | nil => exact hsecond
  | cons action rest ih => exact ⟨hfirst.1, ih hfirst.2 hsecond⟩

/-- Two stores with the same handles, whose symbols are announced in the same way. -/
structure Twins (s t : Store) : Prop where
  index : t.index = s.index
  announcements : t.announcements = s.announcements

namespace Twins

variable {s t : Store} {name : String}

theorem get? (h : s.Twins t) (id : SymbolId) :
    (t.get? id).map Symbol.announcement = (s.get? id).map Symbol.announcement := by
  rw [← t.getElem?_announcements id.position, h.announcements, s.getElem?_announcements]

theorem size (h : s.Twins t) : t.arena.size = s.arena.size := by
  have hlen := congrArg List.length h.announcements
  simpa [Store.announcements] using hlen

theorem push (h : s.Twins t) {symbol other : Symbol}
    (hsame : other.announcement = symbol.announcement) :
    (s.push name symbol).Twins (t.push name other) where
  index := by simp only [Store.push, h.index, h.size]
  announcements := by rw [announcements_push, announcements_push, h.announcements, hsame]

theorem set (h : s.Twins t) {id : SymbolId} {symbol edited : Symbol}
    (hget : s.get? id = some symbol) (hk : symbol.Keeps edited) : (s.set id edited).Twins t :=
  ⟨h.index, by rw [announcements_set hget hk, h.announcements]⟩

theorem latest (h : s.Twins t) (name : String) :
    (t.latest name).map Symbol.announcement = (s.latest name).map Symbol.announcement := by
  have hid : t.latestId name = s.latestId name := by
    unfold latestId history
    rw [h.index]
  simp only [Store.latest, hid, Bind.bind, Except.bind]
  cases s.latestId name with
  | error refusal => rfl
  | ok id =>
    have hget := h.get? id
    cases hs : s.get? id with
    | none =>
      rw [hs] at hget
      simp only [hs, Option.map_eq_none_iff.1 hget]
    | some symbol =>
      rw [hs] at hget
      obtain ⟨other, hother, hsame⟩ := Option.map_eq_some_iff.1 hget
      simp only [hs, hother]
      exact congrArg Except.ok hsame

theorem successor (h : s.Twins t) {ty : SymbolType} {symbol : Symbol}
    (hs : s.successor name ty = .ok symbol) :
    ∃ other, t.successor name ty = .ok other ∧ other.announcement = symbol.announcement := by
  have hlatest := h.latest name
  unfold Store.successor
  rcases successor_cases hs with ⟨⟨refusal, hold⟩, rfl⟩ | ⟨newest, hold, hty, rfl⟩
  · cases hnew : t.latest name with
    | error refusal' => exact ⟨_, rfl, rfl⟩
    | ok other =>
      rw [hold, hnew] at hlatest
      cases hlatest
  · cases hnew : t.latest name with
    | error refusal =>
      rw [hold, hnew] at hlatest
      cases hlatest
    | ok other =>
      rw [hold, hnew] at hlatest
      have hsame : other.announcement = newest.announcement := Except.ok.inj hlatest
      exact ⟨_, if_pos ((Event.bound.inj hsame).2.2.trans hty), Symbol.announcement_next hsame⟩

end Twins

namespace Represents

variable {s t : Store} {m : Chronicle}

/-- Binding anew what an action without replacement told of is carried out, is told of in the same
way, and leads to twins again. -/
theorem rebinds_after (h : s.Represents m) (ht : s.Twins t) {action : Action}
    (hplain : action.replaces = false) :
    t.CarriedOut (rebinds (s.act action).events) ∧
      t.runEvents (rebinds (s.act action).events) = (s.act action).events ∧
      (s.after action).Twins (t.run (rebinds (s.act action).events)) := by
  rcases h.plain_cases hplain with ⟨hevents, he | ⟨id, symbol, edited, hget, hk, he⟩⟩ |
    ⟨name, ty, symbol, edited, hs, hk, hevents, he⟩
  · rw [hevents, he]
    exact ⟨trivial, rfl, ht⟩
  · rw [hevents, he]
    exact ⟨trivial, rfl, ht.set hget hk⟩
  · obtain ⟨other, hother, hsame⟩ := ht.successor hs
    have hact := act_bind (SymbolType.ofName?_eq_some_iff.2 rfl) hother []
    have hafter : t.after (.bind name ty.name []) = t.push name other := by
      rw [after_eq, hact]
      rfl
    rw [hevents, he]
    show t.CarriedOut [.bind name ty.name []] ∧ t.runEvents [.bind name ty.name []] = _ ∧
      (s.push name edited).Twins (t.after (.bind name ty.name []))
    rw [hafter]
    refine ⟨⟨⟨_, by rw [hact]⟩, trivial⟩, ?_, ht.push (hsame.trans hk.announcement.symm)⟩
    rw [runEvents_cons, hact, (Event.bound.inj hsame).2.1]
    rfl

/-- Binding anew what a run without replacement told of is carried out, is told of in the same way,
and leads to twins again. -/
theorem rebinds_run (h : s.Represents m) (ht : s.Twins t) {actions : List Action}
    (hplain : ∀ action ∈ actions, action.replaces = false) :
    t.CarriedOut (rebinds (s.runEvents actions)) ∧
      t.runEvents (rebinds (s.runEvents actions)) = s.runEvents actions ∧
      (s.run actions).Twins (t.run (rebinds (s.runEvents actions))) := by
  -- `t` lags behind in payloads only: an event that is bound anew finds the twin of its symbol
  induction actions generalizing s t m with
  | nil => exact ⟨trivial, rfl, ht⟩
  | cons action rest ih =>
    obtain ⟨hdone, hevents, htwins⟩ := h.rebinds_after ht (hplain action (List.mem_cons_self ..))
    obtain ⟨hdone', hevents', htwins'⟩ := ih (h.after action) htwins
      fun other ho => hplain other (List.mem_cons_of_mem _ ho)
    have hsplit : rebinds (s.runEvents (action :: rest)) =
        rebinds (s.act action).events ++ rebinds ((s.after action).runEvents rest) := by
      rw [runEvents_cons]
      exact List.filterMap_append
    rw [hsplit, runEvents_append, hevents, hevents', runEvents_cons]
    refine ⟨carriedOut_append hdone hdone', rfl, ?_⟩
    rw [Store.run, Store.run, List.foldl_append]
    exact htwins'

end Represents

/-! ## What a journal tells -/

/-- The journal has an entry for each symbol, which names the one history that the handle of the
symbol stands in. -/
structure Tells (journal : List Event) (s : Store) : Prop where
  length : journal.length = s.size
  name : ∀ (i : Nat) (event : Event), journal[i]? = some event → ∃ name ids,
    event.boundName? = some name ∧ s.history name = .ok ids ∧ ⟨i⟩ ∈ ids ∧
      ∀ other others, s.history other = .ok others → ⟨i⟩ ∈ others → other = name

/-- Every entry of the journal can be bound anew, in order and in a store of its own. This is told
of in the same words, and comes to the same names and handles, with symbols of the same names,
versions and types. -/
structure Rebuilds (journal : List Event) (s : Store) : Prop where
  all : (rebinds journal).length = journal.length
  carriedOut : CarriedOut .empty (rebinds journal)
  events : runEvents .empty (rebinds journal) = journal
  twins : s.Twins (run .empty (rebinds journal))

theorem Represents.tells {s : Store} {m : Chronicle} {journal : List Event} (h : s.Represents m)
    (hj : m.order.map some = journal.map Event.boundName?) : Tells journal s where
  length := by
    have hlen := congrArg List.length hj
    simp only [List.length_map] at hlen
    rw [h.size_eq_length, hlen]
  name i event hi := by
    have hat := congrArg (fun names => names[i]?) hj
    simp only [List.getElem?_map, hi, Option.map_some] at hat
    obtain ⟨name, hname, hb⟩ := Option.map_eq_some_iff.1 hat
    have hplace : ⟨i⟩ ∈ m.places name := Chronicle.mem_places_iff.2 hname
    have hne : m.history name ≠ [] := mt h.places_eq_nil_iff.2 (List.ne_nil_of_mem hplace)
    refine ⟨name, m.places name, hb.symm, by rw [h.history_eq, if_neg hne], hplace, ?_⟩
    intro other others hothers hin
    rw [h.history_eq] at hothers
    split at hothers
    · cases hothers
    · cases hothers
      rw [Chronicle.mem_places_iff, hname] at hin
      exact (Option.some.inj hin).symm

/-! ## The journal of one store among others -/

/-- A check tells of no bind. -/
theorem filter_checkHistory (s : Store) (name : String) (ids : List SymbolId) :
    (s.checkHistory name ids).events.filter (·.boundName?.isSome) = [] := by
  unfold checkHistory
  split
  · rfl
  · split <;> rfl

theorem filter_checkEach (s : Store) (entries : List (String × List SymbolId)) :
    (s.checkEach entries).events.filter (·.boundName?.isSome) = [] := by
  induction entries with
  | nil => rfl
  | cons entry rest ih =>
    rw [checkEach, Logged.events_bind, List.filter_append, filter_checkHistory, List.nil_append]
    split
    · exact ih
    · rfl

theorem filter_checkFor (s : Store) (name : String) :
    (s.checkFor name).events.filter (·.boundName?.isSome) = [] := by
  unfold checkFor
  split
  · rw [Logged.events_bind, List.filter_append, filter_checkHistory]
    rfl
  · rfl

namespace Session

/-- The binds that are told of while a step is on the store of that number. -/
def told (session : Session) (number : Nat) (step : Step) : List Event :=
  if session.current = number then (session.step step).events.filter (·.boundName?.isSome) else []

/-- The binds that are told of during steps on the store of that number, in order. -/
def journal (session : Session) (number : Nat) : List Step → List Event
  | [] => []
  | step :: rest => session.told number step ++ (session.after step).journal number rest

variable {session : Session} {number : Nat} {s : Store} {m : Chronicle}

theorem told_eq (hs : session.stores[number]? = some s) (h : s.Represents m) (step : Step) :
    session.told number step = s.runEvents (session.actionOn? number step).toList := by
  unfold told
  by_cases hcur : session.current = number
  · subst hcur
    rw [if_pos rfl]
    cases step with
    | act action =>
      have hevents : (session.step (.act action)).events = (s.act action).events := by
        rw [step_act, store_of_stores hs, Logged.events_bind]
        split <;> exact List.append_nil _
      have hrun : s.runEvents [action] = (s.act action).events := by
        rw [runEvents_cons]
        exact List.append_nil _
      rw [hevents, actionOn?, if_pos rfl, Option.toList_some, hrun]
      refine List.filter_eq_self.2 fun event hm => ?_
      rw [← hrun] at hm
      exact h.isSome_of_mem_runEvents hm
    | checkFor name =>
      rw [Session.step, Logged.events_bind, List.filter_append, filter_checkFor]
      rfl
    | check =>
      rw [Session.step, Logged.events_bind, List.filter_append, Store.check, filter_checkEach]
      rfl
    | save name | get handle | compare left right | use number =>
      rw [Session.step]
      split <;> rfl
    | _ => rfl
  · have hnone : session.actionOn? number step = none := by
      cases step <;> simp [actionOn?, hcur]
    rw [if_neg hcur, hnone]
    rfl

/-- The journal of a store is what the actions on it tell. -/
theorem journal_eq (hs : session.stores[number]? = some s) (h : s.Represents m)
    (steps : List Step) :
    session.journal number steps = s.runEvents (session.actionsOn number steps) := by
  induction steps generalizing session s m with
  | nil => rfl
  | cons step rest ih =>
    rw [journal, actionsOn, runEvents_append, told_eq hs h, ih (stores_after hs step) (h.run _)]

theorem actionsOn_append (session : Session) (number : Nat) (before more : List Step) :
    session.actionsOn number (before ++ more) =
      session.actionsOn number before ++ (session.run before).actionsOn number more := by
  induction before generalizing session with
  | nil => rfl
  | cons step rest ih =>
    rw [List.cons_append, actionsOn, actionsOn, ih, List.append_assoc]
    rfl

/-- The binds that are told of while an empty store is worked on are a journal of it, whatever is
refused on the way and whatever is done to other stores. Without replacement each entry stays true
of its symbol, and the store can be built anew from the entries. -/
theorem journal_faithful (session : Session) (number : Nat) (steps : List Step)
    (hs : session.stores[number]? = some .empty) :
    ∃ s, (session.run steps).stores[number]? = some s ∧ Tells (session.journal number steps) s ∧
      ((∀ action ∈ session.actionsOn number steps, action.replaces = false) →
        (∀ before more, steps = before ++ more →
          ∃ t, (session.run before).stores[number]? = some t ∧
            session.journal number before <+: session.journal number steps ∧
            ∀ (i : Nat) (event : Event), (session.journal number before)[i]? = some event →
              ∃ symbol, t.get? ⟨i⟩ = some symbol ∧ event = symbol.announcement) ∧
        Rebuilds (session.journal number steps) s) := by
  have h := represents_empty
  refine ⟨_, stores_run hs steps, (h.run _).tells ?_, fun hplain => ⟨?_, ?_⟩⟩
  · rw [journal_eq hs h]
    exact h.order_run _
  · rintro before more rfl
    rw [actionsOn_append] at hplain
    refine ⟨_, stores_run hs before, ?_, fun i event hi => ?_⟩
    · rw [journal_eq hs h, journal_eq hs h, actionsOn_append, runEvents_append]
      exact List.prefix_append _ _
    · have hall := h.announcements_run (m := .empty) nofun
        fun action hm => hplain action (List.mem_append_left _ hm)
      rw [journal_eq hs h, ← List.nil_append (runEvents _ _)] at hi
      change (announcements .empty ++ _)[i]? = _ at hi
      rw [← hall, getElem?_announcements, Option.map_eq_some_iff] at hi
      obtain ⟨symbol, hsymbol, he⟩ := hi
      exact ⟨symbol, hsymbol, he.symm⟩
  · obtain ⟨hdone, hevents, htwins⟩ := h.rebinds_run ⟨rfl, rfl⟩ hplain
    rw [journal_eq hs h]
    refine ⟨List.filterMap_length_eq_length.2 fun event hm => ?_, hdone, hevents, htwins⟩
    rw [event.isSome_rebind?]
    exact h.isSome_of_mem_runEvents hm

/-- Two stores worked on in turn, one of them checked on the way; one bind asks for another type. -/
def inTurn : List Step :=
  [.act (.bind "key" "num" []), .use 1, .act (.bind "key" "array" [.edit (.pushElement 2)]),
    .act (.bind "key" "num" []), .act (.amend "key" [.edit (.bindElement 0 [⟨1⟩, ⟨2⟩])]),
    .checkFor "key", .use 0, .act (.bind "other" "func" []), .use 1,
    .act (.bind "table" "array" []), .act (.bind "key" "array" [.whole]), .check]

theorem journal_faithful_inTurn :
    (start.after .create).stores[1]? = some .empty ∧
    (∀ action ∈ (start.after .create).actionsOn 1 inTurn, action.replaces = false) ∧
    (start.after .create).journal 1 inTurn =
      [.bound "key" 0 .array, .bound "table" 0 .array, .bound "key" 1 .array] ∧
    ∃ s, ((start.after .create).run inTurn).stores[1]? = some s ∧
      Tells ((start.after .create).journal 1 inTurn) s ∧
      Rebuilds ((start.after .create).journal 1 inTurn) s := by
  obtain ⟨s, hs, htells, hrest⟩ := journal_faithful (start.after .create) 1 inTurn (by decide)
  have hplain : ∀ action ∈ (start.after .create).actionsOn 1 inTurn, action.replaces = false := by
    decide
  exact ⟨by decide, hplain, by decide, s, hs, htells, (hrest hplain).2⟩

end Session

end Store

end WireLedger
