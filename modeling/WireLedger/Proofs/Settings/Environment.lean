import WireLedger.Proofs.Numeral.Spelling
import WireLedger.Proofs.Text.Trim
import WireLedger.Settings.Environment
/-!
# Settings overridden by the environment

Only a seed that is neither blank nor the numeral of a word stands in the way. It is found before
anything is set, so a failure leaves the settings as they were, also when they are overridden in
place. A second attempt finds what the first one set.

Results:
* `readSeed?_eq_some_iff`: which texts are read as a seed, and as which.
* `run_adopt`: in place, one variable after the other, comes to the same as all at once.
* `override_exact`: when overriding fails, and what it sets otherwise.
-/
namespace WireLedger.Settings

open Text

/-- The text denotes the seed: between blanks, decimal digits after at most one plus sign. -/
def SeedText (value : String) (seed : UInt32) : Prop :=
  ∃ sign digits, Trims value.toList (sign ++ digits) ∧ (sign = [] ∨ sign = ['+']) ∧
    Numeral.Spells 10 digits seed.toNat

/-- The variable is set to this text, which is not blank. -/
def Given (setting? : Option String) (value : String) : Prop :=
  setting? = some value ∧ isBlankText value = false

/-- The variable is not set, or it is blank. -/
def Missing (setting? : Option String) : Prop := ∀ value, ¬ Given setting? value

variable {env : Environment} {setting? : Option String} {value value' : String}

theorem present?_eq_some_iff : present? setting? = some value ↔ Given setting? value := by
  rw [present?, Option.filter_eq_some_iff, Bool.not_eq_true', Given]

theorem present?_eq_none_iff : present? setting? = none ↔ Missing setting? := by
  simp only [Option.eq_none_iff_forall_ne_some, ne_eq, present?_eq_some_iff, Missing]

theorem Given.unique (h : Given setting? value) (h' : Given setting? value') : value = value' :=
  Option.some.inj (h.1.symm.trans h'.1)

theorem readSeed?_eq_some_iff {seed : UInt32} :
    readSeed? value = some seed ↔ SeedText value seed := by
  have hword {n : Nat} (hn : n < UInt32.size) : UInt32.ofNat n = seed ↔ n = seed.toNat := by
    rw [← UInt32.toNat_inj, UInt32.toNat_ofNat', Nat.mod_eq_of_lt hn]
  simp only [readSeed?, Option.map_eq_some_iff, Numeral.readBelow?_eq_some_iff]
  constructor
  · rintro ⟨n, ⟨hn, sign, digits, hcs, hsign, hdigits⟩, hseed⟩
    rw [hword hn] at hseed
    exact ⟨sign, digits, trims_iff.2 hcs, hsign, hseed ▸ hdigits⟩
  · rintro ⟨sign, digits, htrims, hsign, hdigits⟩
    exact ⟨seed.toNat, ⟨seed.toNat_lt_size, sign, digits, trims_iff.1 htrims, hsign, hdigits⟩,
      UInt32.ofNat_toNat⟩

theorem readSeed?_eq_none_iff : readSeed? value = none ↔ ¬ ∃ seed, SeedText value seed := by
  simp only [Option.eq_none_iff_forall_ne_some, ne_eq, readSeed?_eq_some_iff, not_exists]

theorem SeedText.unique {seed seed' : UInt32} (h : SeedText value seed)
    (h' : SeedText value seed') : seed = seed' :=
  Option.some.inj ((readSeed?_eq_some_iff.2 h).symm.trans (readSeed?_eq_some_iff.2 h'))

/-! ## Outcomes -/

/-- The environment sets this seed, or none if it has none. -/
def SetsSeed (env : Environment) : Option UInt32 → Prop
  | none => Missing env.seed
  | some seed => ∃ value, Given env.seed value ∧ SeedText value seed

/-- The environment has a seed that cannot be read. -/
def BadSeed (env : Environment) (value : String) : Prop :=
  Given env.seed value ∧ ¬ ∃ seed, SeedText value seed

/-- The verdict on the seed, and with it on what happens to any settings. -/
theorem overridden_cases (env : Environment) :
    (∃ seed?, SetsSeed env seed? ∧ ∀ settings : Settings, settings.overridden env =
      (⟨seed?.or settings.seed, (present? env.logLevel).or settings.logLevel⟩, none)) ∨
    ∃ value, BadSeed env value ∧ ∀ settings : Settings, settings.overridden env =
      (settings, some (.invalidSeed value)) := by
  cases hvalue : present? env.seed with
  | none =>
    refine .inl ⟨none, present?_eq_none_iff.1 hvalue, fun settings => ?_⟩
    rw [overridden, override, hvalue]
    rfl
  | some value =>
    have hgiven : Given env.seed value := present?_eq_some_iff.1 hvalue
    cases hseed : readSeed? value with
    | some seed =>
      refine .inl ⟨some seed, ⟨value, hgiven, readSeed?_eq_some_iff.1 hseed⟩,
        fun settings => ?_⟩
      simp only [overridden, override, hvalue, hseed]
      rfl
    | none =>
      refine .inr ⟨value, ⟨hgiven, readSeed?_eq_none_iff.1 hseed⟩, fun settings => ?_⟩
      rw [overridden, (override_eq_error_iff _ _ _).2 ⟨hvalue, hseed⟩]

theorem SetsSeed.not_badSeed {seed? : Option UInt32} (h : SetsSeed env seed?) :
    ¬ BadSeed env value := by
  rintro ⟨hgiven, hnone⟩
  cases seed? with
  | none => exact h value hgiven
  | some seed =>
    obtain ⟨value', hgiven', hseed⟩ := h
    exact hnone ⟨seed, hgiven'.unique hgiven ▸ hseed⟩

theorem or_of_missing (h : Missing setting?) (level? : Option String) :
    (present? setting?).or level? = level? := by
  rw [present?_eq_none_iff.2 h, Option.none_or]

theorem or_of_given (h : Given setting? value) (level? : Option String) :
    (present? setting?).or level? = some value := by
  rw [present?_eq_some_iff.2 h, Option.some_or]

theorem logLevel_overridden {settings : Settings} (h : (settings.overridden env).2 = none) :
    (settings.overridden env).1.logLevel = (present? env.logLevel).or settings.logLevel := by
  obtain ⟨seed?, -, hset⟩ | ⟨value, -, hfailed⟩ := overridden_cases env
  · rw [hset]
  · rw [hfailed] at h
    cases h

/-- The seed that stands in the way is found before anything is set, so setting one thing after the
other never stops half way. -/
theorem run_adopt (settings : Settings) (env : Environment) : (adopt env).run.run settings =
    (match (settings.overridden env).2 with
      | none => .ok ()
      | some e => .error e, (settings.overridden env).1) := by
  unfold adopt overridden override
  cases present? env.seed with
  | none =>
    cases present? env.logLevel with
    | none => rfl
    | some level => rfl
  | some value =>
    cases hseed : readSeed? value with
    | none =>
      simp only [hseed]
      rfl
    | some seed =>
      simp only [hseed]
      cases present? env.logLevel with
      | none => rfl
      | some level => rfl

/-- What becomes of settings that the environment overrides, and what is reported. -/
structure Overriding (settings : Settings) (env : Environment) (after : Settings)
    (failure? : Option SettingsError) : Prop where
  /-- It fails exactly for a seed that is neither blank nor denotes a word. -/
  fails_iff : failure? ≠ none ↔ ∃ value, BadSeed env value
  /-- It then names the seed as it was given, and nothing is set. -/
  failed : ∀ e, failure? = some e → after = settings ∧ ∃ value, env.seed = some value ∧
    e = .invalidSeed value
  seed_set : failure? = none → ∀ value, Given env.seed value →
    ∃ seed, after.seed = some seed ∧ ∀ seed', SeedText value seed' ↔ seed' = seed
  seed_kept : Missing env.seed → after.seed = settings.seed
  /-- The directive is set with the blanks around it. -/
  logLevel_set : failure? = none → ∀ value, Given env.logLevel value → after.logLevel = some value
  logLevel_kept : Missing env.logLevel → after.logLevel = settings.logLevel
  /-- A second time changes nothing. -/
  again : failure? = none → after.overridden env = (after, none)
  /-- Setting one thing after the other comes to the same. -/
  inPlace : (adopt env).run.run settings =
    (match failure? with
      | none => .ok ()
      | some e => .error e, after)

/-- Overriding is exact, all or nothing, and done once and for all. -/
theorem override_exact (settings : Settings) (env : Environment) :
    settings.Overriding env (settings.overridden env).1 (settings.overridden env).2 := by
  have hrun := run_adopt settings env
  obtain ⟨seed?, hseed, h⟩ | ⟨value, hbad, h⟩ := overridden_cases env
  · rw [h settings] at hrun ⊢
    refine ⟨?_, ?_, ?_, ?_, ?_, ?_, ?_, hrun⟩
    · exact iff_of_false (fun hne => hne rfl) fun ⟨value, hbad⟩ => hseed.not_badSeed hbad
    · intro e he
      cases he
    · intro _ value hgiven
      cases seed? with
      | none => exact absurd hgiven (hseed value)
      | some seed =>
        obtain ⟨value', hgiven', htext⟩ := hseed
        rw [hgiven'.unique hgiven] at htext
        refine ⟨seed, rfl, fun seed' => ⟨fun h' => h'.unique htext, ?_⟩⟩
        rintro rfl
        exact htext
    · intro hmissing
      cases seed? with
      | none => rfl
      | some seed =>
        obtain ⟨value, hgiven, -⟩ := hseed
        exact absurd hgiven (hmissing value)
    · intro _ value hgiven
      exact or_of_given hgiven _
    · intro hmissing
      exact or_of_missing hmissing _
    · intro _
      rw [h]
      simp only [← Option.or_assoc, Option.or_self]
  · rw [h settings] at hrun ⊢
    refine ⟨?_, ?_, ?_, fun _ => rfl, ?_, fun _ => rfl, ?_, hrun⟩
    · exact iff_of_true (Option.some_ne_none _) ⟨value, hbad⟩
    · intro e he
      exact ⟨rfl, value, hbad.1.1, (Option.some.inj he).symm⟩
    all_goals
      intro hnone
      cases hnone

end WireLedger.Settings
