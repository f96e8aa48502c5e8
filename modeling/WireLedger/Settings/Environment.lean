import WireLedger.Numeral
import WireLedger.Settings.Error
import WireLedger.Text.Blank
/-!
# Settings from the environment

Three variables count: the seed of new generators, the directive of the log filter, and the
directive that programs share. A variable that is not set, or whose bytes are not UTF-8, is absent,
and a blank one does not count. A seed is read without the blanks around it; a directive is kept
with them and trimmed where it is used.

Results:
* `override_eq_error_iff`: overriding fails exactly for a seed that is neither blank nor a number
  below `2 ^ 32`, and names it untrimmed.
-/
namespace WireLedger

/-- The variables that count, as far as they are set and are text. -/
structure Environment where
  /-- The variable `GASH_SEED` (`SEED_ENV`). -/
  seed : Option String
  /-- The variable `GASH_LOG` (`LOG_ENV`). -/
  logLevel : Option String
  /-- The variable `RUST_LOG` (`DEFAULT_ENV`). -/
  sharedLevel : Option String
deriving DecidableEq, Repr

namespace Environment

/-- The environment without variables. -/
def empty : Environment := ⟨none, none, none⟩

/-- The text of a variable, if its bytes are UTF-8. -/
def textOf? (bytes : ByteArray) : Option String := String.fromUTF8? bytes

end Environment

namespace Settings

/-- A variable that is set and not blank, as `apply_env` asks for. -/
def present? (setting? : Option String) : Option String :=
  setting?.filter fun value => !Text.isBlankText value

/-- Reads a seed, as `apply_env` does: an unsigned number of 32 bits, after at most one plus sign,
between blanks. -/
def readSeed? (value : String) : Option UInt32 :=
  (Numeral.readBelow? UInt32.size (Text.trimChars value.toList)).map UInt32.ofNat

/-- The settings with what the environment sets in place of their own, unless its seed cannot be
read: what `apply_env` comes to. -/
def override (settings : Settings) (env : Environment) : Except SettingsError Settings := do
  let seed ← match present? env.seed with
    | none => pure settings.seed
    | some value =>
      match readSeed? value with
      | some seed => pure (some seed)
      | none => throw (.invalidSeed value)
  return ⟨seed, (present? env.logLevel).or settings.logLevel⟩

/-- The settings after an attempt to override them, and why it failed. A failed attempt changes
nothing. -/
def overridden (settings : Settings) (env : Environment) : Settings × Option SettingsError :=
  match settings.override env with
  | .ok settings => (settings, none)
  | .error e => (settings, some e)

/-- Overrides settings in place, the seed first (`apply_env`). What was set before a failure stays
set. -/
def adopt (env : Environment) : ExceptT SettingsError (StateM Settings) Unit := do
  if let some value := present? env.seed then
    match readSeed? value with
    | some seed => modify fun settings => { settings with seed := some seed }
    | none => throw (.invalidSeed value)
  if let some level := present? env.logLevel then
    modify fun settings => { settings with logLevel := some level }

/-- The settings after an attempt to take all of them from the environment (`from_env`). -/
def replaced (settings : Settings) (env : Environment) : Settings × Option SettingsError :=
  match empty.override env with
  | .ok settings => (settings, none)
  | .error e => (settings, some e)

/-- The directive of the log filter if none is given (`DEFAULT_DIRECTIVE`). -/
def defaultDirective : String := "info"

/-- The first directive that is not blank, trimmed: one given outright, that of the program, or that
which programs share; or else the default (`resolve_directive`). -/
def directive (level : Option String) (env : Environment) : String :=
  (([level, env.logLevel, env.sharedLevel].filterMap id).map Text.trim).find? (· ≠ "")
    |>.getD defaultDirective

theorem override_eq_error_iff (settings : Settings) (env : Environment) (value : String) :
    settings.override env = .error (.invalidSeed value) ↔
      present? env.seed = some value ∧ readSeed? value = none := by
  unfold override
  cases hp : present? env.seed with
  | none => simp [bind, Except.bind, pure, Except.pure]
  | some text =>
    cases hr : readSeed? text with
    | none =>
      simp only [hr, bind, Except.bind, throw, throwThe, MonadExceptOf.throw, Except.error.injEq,
        SettingsError.invalidSeed.injEq, Option.some.injEq]
      constructor
      · rintro rfl; exact ⟨rfl, hr⟩
      · exact fun h => h.1
    | some seed =>
      simp only [hr, bind, Except.bind, pure, Except.pure, reduceCtorEq, Option.some.injEq,
        false_iff, not_and]
      rintro rfl
      simp [hr]

end Settings

end WireLedger
