import WireLedger.Log.Output
import WireLedger.Proofs.Settings.Environment
/-!
# Which directive the log filter gets

`Picks` says which of several levels counts: the first that is there and not blank. The settings
keep a level of the environment with its blanks, and put it before their own, so that with them the
environment comes first.

Results:
* `picks_iff`: one directive counts, and it is the one that is found.
* `Picks.directive_some`: it stands for itself as a level.
* `directive_overridden`: which level counts for settings that the environment overrides.
-/
namespace WireLedger.Settings

open Text

/-- Of these levels the first that is given counts, trimmed, or else the default directive. -/
inductive Picks : List (Option String) → String → Prop where
  | default : Picks [] defaultDirective
  | skip {level? : Option String} {levels : List (Option String)} {chosen : String}
      (h : Missing level?) (rest : Picks levels chosen) : Picks (level? :: levels) chosen
  | first {level? : Option String} {levels : List (Option String)} {level chosen : String}
      (h : Given level? level) (ht : Trims level.toList chosen.toList) :
      Picks (level? :: levels) chosen

variable {settings : Settings} {env : Environment} {levels : List (Option String)}
  {level? : Option String} {level chosen : String}

/-- The directive that a search through the levels finds. -/
def chosenOf (levels : List (Option String)) : String :=
  (((levels.filterMap id).map trim).find? (· ≠ "")).getD defaultDirective

theorem directive_eq (level? : Option String) (env : Environment) :
    directive level? env = chosenOf [level?, env.logLevel, env.sharedLevel] := rfl

theorem trim_ne_empty_iff : trim level ≠ "" ↔ isBlankText level = false := by
  rw [ne_eq, ← isBlankText_iff, Bool.not_eq_true]

theorem chosenOf_of_missing (h : Missing level?) :
    chosenOf (level? :: levels) = chosenOf levels := by
  cases level? with
  | none => rfl
  | some level =>
    have hblank : trim level = "" := by
      by_contra hne
      exact h level ⟨rfl, trim_ne_empty_iff.1 hne⟩
    simp [chosenOf, hblank]

theorem chosenOf_of_given (h : Given level? level) : chosenOf (level? :: levels) = trim level := by
  have hne := trim_ne_empty_iff.2 h.2
  simp [chosenOf, h.1, hne]

theorem missing_or_given (level? : Option String) :
    Missing level? ∨ ∃ level, Given level? level := by
  by_cases h : Missing level?
  · exact .inl h
  · exact .inr (by simpa [Missing] using h)

/-- One directive counts, and the search finds it. -/
theorem picks_iff : Picks levels chosen ↔ chosenOf levels = chosen := by
  constructor
  · intro h
    induction h with
    | default => rfl
    | skip h _ ih => rw [chosenOf_of_missing h, ih]
    | first h ht => rw [chosenOf_of_given h, trims_toList_iff.1 ht]
  · rintro rfl
    induction levels with
    | nil => exact .default
    | cons level? levels ih =>
      rcases missing_or_given level? with h | ⟨level, h⟩
      · rw [chosenOf_of_missing h]
        exact .skip h ih
      · rw [chosenOf_of_given h]
        exact .first h (trims_toList_iff.2 rfl)

theorem picks_directive (level? : Option String) (env : Environment) :
    Picks [level?, env.logLevel, env.sharedLevel] (directive level? env) :=
  picks_iff.2 (directive_eq level? env).symm

/-! ## What is picked -/

theorem Picks.trims_self (h : Picks levels chosen) : Trims chosen.toList chosen.toList := by
  rw [trims_toList_iff]
  induction h with
  | default => decide
  | skip _ _ ih => exact ih
  | first _ ht => rw [← trims_toList_iff.1 ht, trim_trim]

theorem Picks.not_blank (h : Picks levels chosen) : isBlankText chosen = false := by
  induction h with
  | default => decide
  | skip _ _ ih => exact ih
  | first h ht =>
    rw [← trim_ne_empty_iff, ← trims_toList_iff.1 ht, trim_trim]
    exact trim_ne_empty_iff.2 h.2

theorem Picks.directive_some (h : Picks levels chosen) (env : Environment) :
    directive (some chosen) env = chosen := by
  rw [directive_eq, ← picks_iff]
  exact .first ⟨rfl, h.not_blank⟩ h.trims_self

/-! ## Settings that the environment overrides -/

/-- A level of the environment counts before that of the settings, whose own search has it first:
if it is given it has taken that place, and if not, it does not matter where it stands. -/
theorem directive_overridden (h : (settings.overridden env).2 = none) :
    directive (settings.overridden env).1.logLevel env =
      chosenOf [env.logLevel, settings.logLevel, env.sharedLevel] := by
  rw [directive_eq, logLevel_overridden h]
  rcases missing_or_given env.logLevel with henv | ⟨level, henv⟩
  · rw [or_of_missing henv, chosenOf_of_missing henv]
    rcases missing_or_given settings.logLevel with hown | ⟨level, hown⟩
    · rw [chosenOf_of_missing hown, chosenOf_of_missing hown, chosenOf_of_missing henv]
    · rw [chosenOf_of_given hown, chosenOf_of_given hown]
  · rw [or_of_given henv, chosenOf_of_given henv, chosenOf_of_given ⟨rfl, henv.2⟩]

/-- The directive for a level in an environment. -/
structure Directs (level? : Option String) (env : Environment) (directive : String) : Prop where
  /-- It is the one that counts of the level, that of the program and that which programs share. -/
  picks_iff : ∀ chosen,
    Picks [level?, env.logLevel, env.sharedLevel] chosen ↔ directive = chosen
  not_blank : isBlankText directive = false
  trimmed : Trims directive.toList directive.toList
  /-- Given as a level, it is taken as it is. -/
  again : ∀ env', Settings.directive (some directive) env' = directive

theorem directs (level? : Option String) (env : Environment) :
    Directs level? env (directive level? env) where
  picks_iff _ := by rw [picks_iff, directive_eq]
  not_blank := (picks_directive level? env).not_blank
  trimmed := (picks_directive level? env).trims_self
  again := (picks_directive level? env).directive_some

/-- The directive is the first level that is given, trimmed. For settings that the environment
overrides, what is set up with it takes the level of the environment before that of the settings,
which comes before the shared one. -/
theorem directive_exact (env : Environment) :
    (∀ level?, Directs level? env (directive level? env)) ∧
    ∀ settings : Settings, (settings.overridden env).2 = none →
      ∃ chosen, (∀ other, Picks [env.logLevel, settings.logLevel, env.sharedLevel] other ↔
          chosen = other) ∧
        directive (settings.overridden env).1.logLevel env = chosen ∧
        Log.Output.unset.setUp (settings.overridden env).1.logLevel env =
          ⟨.filtered (Log.filterFor chosen).1, true, (Log.filterFor chosen).2⟩ := by
  refine ⟨fun level? => directs level? env, ?_⟩
  intro settings h
  have hdirective := directive_overridden h
  refine ⟨_, fun other => picks_iff, hdirective, ?_⟩
  rw [Log.Output.setUp, hdirective]

/-- Settings with a seed and a level of their own. -/
def ownSettings : Settings := ⟨some 1, some "warn"⟩

/-- An environment with every variable, two of them with blanks around. -/
def fullEnvironment : Environment := ⟨some " 7 ", some " debug ", some "error"⟩

theorem directive_exact_fullEnvironment :
    (ownSettings.overridden fullEnvironment).2 = none ∧
      directive (ownSettings.overridden fullEnvironment).1.logLevel fullEnvironment = "debug" := by
  have hok : (ownSettings.overridden fullEnvironment).2 = none := by decide
  obtain ⟨chosen, hpicks, hdirective, -⟩ := (directive_exact fullEnvironment).2 ownSettings hok
  have htrims : Trims " debug ".toList "debug".toList := trims_toList_iff.2 (by decide)
  have hdebug := (hpicks "debug").1 (.first ⟨rfl, by decide⟩ htrims)
  exact ⟨hok, hdirective.trans hdebug⟩

end WireLedger.Settings
