import Turnstile.Proofs.Settings.Rules

/-!
# Settings that are accepted

Settings are accepted exactly when every variable by itself has a value that can be used, and
otherwise the error is the first that a variable by itself gives.  The values of settings that
are accepted are those that the rules give.  So they stay inside bounds: lifetimes are a day at
most, and the seconds of a block fit into thirty-two bits.

Main definitions:

- `Setting.flaw?`, `Setting.error?`: what is wrong with the value of a variable.
- `Setting.all`: the variables in the order of reading.
- `Settings.value`: the value of each variable in settings.
- `Settings.Bounded`: the bounds of the times that are set.

Main results:

- `Setting.flaw?_eq_none_iff`: a variable has no flaw exactly when it follows its rule.
- `Settings.ofLookup_eq_error_iff`, `Settings.accepted_iff`: what is reported, and which
  settings are accepted.
- `Settings.gives_value`: accepted settings have the values that the rules give.
- `Settings.bounded`: they have their times inside bounds.
-/

namespace Turnstile

/-! ## Variables by themselves -/

/-- The flaw that a reader finds. -/
def flawOf? {α : Type} : Except SettingFlaw α → Option SettingFlaw
  | .ok _ => none
  | .error flaw => some flaw

/-- What is wrong with the value of a variable, if anything is. -/
def Setting.flaw? (setting : Setting) (raw : Option String) : Option SettingFlaw :=
  match setting with
  | .hmacSecret => flawOf? (readSecret raw)
  | .rateLimitRps => flawOf? (readRate raw)
  | .rateLimitBurst => flawOf? (readBurst raw)
  | .anomalyThreshold => flawOf? (readPositive 32 10 raw)
  | .scoreThreshold => flawOf? (readScoreThreshold raw)
  | .floodBlockSecs => flawOf? (readPositive 32 300 raw)
  | .scoreBlockSecs => flawOf? (readPositive 32 600 raw)
  | .idempotencyTtlSecs => flawOf? (readTtl 300 raw)
  | .housekeepingIntervalSecs => flawOf? (readTtl 30 raw)
  | .playerIdleTtlSecs => flawOf? (readIdleTtl raw)
  | .port => flawOf? (readNatural 16 8081 raw)
  | .maxBodyBytes => flawOf? (readPositive 64 65536 raw)
  | .maxConcurrentForwards => flawOf? (readPositive 64 8 raw)
  | .consumerCapacity => flawOf? (readPositive 64 100 raw)
  | .playerShards => flawOf? (readPositive 64 16 raw)

section Rule

variable {α : Type} {rule : SettingRule} {reader : Option String → Except SettingFlaw α}
  {embed : α → SettingValue} {raw : Option String}

/-- A reader that follows a rule finds no flaw in what the rule accepts. -/
theorem SettingRule.FollowedBy.flawOf?_eq_none_iff (h : rule.FollowedBy reader embed) :
    flawOf? (reader raw) = none ↔ rule.Accepts raw := by
  unfold SettingRule.Accepts
  simp only [h raw]
  cases reader raw with
  | ok a => simp [flawOf?]
  | error flaw => simp [flawOf?]

/-- A reader that follows a rule reads what the rule gives. -/
theorem SettingRule.FollowedBy.gives (h : rule.FollowedBy reader embed) {a : α}
    (hread : reader raw = .ok a) : rule.Gives raw (embed a) :=
  (h raw (embed a)).mpr ⟨a, hread, rfl⟩

end Rule

/-- A variable has no flaw exactly when it follows its rule. -/
theorem Setting.flaw?_eq_none_iff {setting : Setting} {raw : Option String} :
    setting.flaw? raw = none ↔ setting.rule.Accepts raw := by
  cases setting with
  | hmacSecret => exact followedBy_readSecret.flawOf?_eq_none_iff
  | rateLimitRps => exact followedBy_readRate.flawOf?_eq_none_iff
  | rateLimitBurst => exact followedBy_readBurst.flawOf?_eq_none_iff
  | scoreThreshold => exact followedBy_readScoreThreshold.flawOf?_eq_none_iff
  | idempotencyTtlSecs => exact (followedBy_readTtl (by decide)).flawOf?_eq_none_iff
  | housekeepingIntervalSecs => exact (followedBy_readTtl (by decide)).flawOf?_eq_none_iff
  | playerIdleTtlSecs => exact followedBy_readIdleTtl.flawOf?_eq_none_iff
  | port => exact followedBy_readNatural.flawOf?_eq_none_iff
  | anomalyThreshold | floodBlockSecs | scoreBlockSecs | maxBodyBytes | maxConcurrentForwards
  | consumerCapacity | playerShards =>
      exact (followedBy_readPositive (by decide)).flawOf?_eq_none_iff

/-! ## The first error -/

/-- The variables in the order in which they are read. -/
def Setting.all : List Setting :=
  [.hmacSecret, .rateLimitRps, .rateLimitBurst, .anomalyThreshold, .scoreThreshold,
    .floodBlockSecs, .scoreBlockSecs, .idempotencyTtlSecs, .housekeepingIntervalSecs,
    .playerIdleTtlSecs, .port, .maxBodyBytes, .maxConcurrentForwards, .consumerCapacity,
    .playerShards]

theorem Setting.mem_all (setting : Setting) : setting ∈ Setting.all := by
  cases setting <;> decide

section Lookup

variable {lookup : String → Option String} {settings : Settings} {error : SettingError}

/-- The error that a variable by itself gives. -/
def Setting.error? (lookup : String → Option String) (setting : Setting) : Option SettingError :=
  (setting.flaw? (lookup setting.name)).map fun flaw => ⟨setting, flaw⟩

/-- Reading a variable and going on gives the error of the variable, or else the first error of
the variables that are left. -/
theorem Setting.read_bind_eq_error_iff {α β : Type} {setting : Setting} {rest : List Setting}
    {reader : Option String → Except SettingFlaw α} {next : α → Except SettingError β}
    (hreader : ∀ raw, setting.flaw? raw = flawOf? (reader raw))
    (hnext : ∀ a, next a = .error error ↔ rest.findSome? (Setting.error? lookup) = some error) :
    (setting.read lookup reader >>= next) = .error error ↔
      (setting :: rest).findSome? (Setting.error? lookup) = some error := by
  have hflaw : setting.flaw? (lookup setting.name) = flawOf? (reader (lookup setting.name)) :=
    hreader _
  unfold Setting.read
  cases hread : reader (lookup setting.name) with
  | ok a =>
      rw [List.findSome?_cons_of_isNone, ← hnext a]
      · rfl
      · simp [Setting.error?, hflaw, hread, flawOf?]
  | error flaw =>
      rw [List.findSome?_cons_of_isSome]
      · simp [Setting.error?, hflaw, hread, flawOf?, bind, Except.bind]
      · simp [Setting.error?, hflaw, hread, flawOf?]

/-- The error is the first that a variable by itself gives. -/
theorem Settings.ofLookup_eq_error_iff :
    Settings.ofLookup lookup = .error error ↔
      Setting.all.findSome? (Setting.error? lookup) = some error := by
  unfold Settings.ofLookup Setting.all
  -- One variable after the other is read.
  repeat refine Setting.read_bind_eq_error_iff (fun _ => rfl) fun _ => ?_
  simp [pure, Except.pure]

/-- Settings are accepted exactly when no variable has a flaw. -/
theorem Settings.accepted_iff :
    (∃ settings, Settings.ofLookup lookup = .ok settings) ↔
      ∀ setting : Setting, setting.flaw? (lookup setting.name) = none := by
  have hfirst : (∀ setting : Setting, setting.flaw? (lookup setting.name) = none) ↔
      Setting.all.findSome? (Setting.error? lookup) = none := by
    simp [List.findSome?_eq_none_iff, Setting.error?, Setting.mem_all]
  rw [hfirst]
  cases h : Settings.ofLookup lookup with
  | ok settings =>
      have hnone : ∀ error, Setting.all.findSome? (Setting.error? lookup) ≠ some error := by
        intro error herror
        rw [← ofLookup_eq_error_iff, h] at herror
        contradiction
      exact iff_of_true ⟨settings, rfl⟩ (Option.eq_none_iff_forall_ne_some.mpr hnone)
  | error error =>
      rw [ofLookup_eq_error_iff.mp h]
      simp

/-! ## Values -/

/-- The value of each variable in settings. -/
def Settings.value (settings : Settings) : Setting → SettingValue
  | .hmacSecret => .secret settings.verifier.secret
  | .rateLimitRps => .number settings.rateLimitRps
  | .rateLimitBurst => .number settings.rateLimitBurst
  | .anomalyThreshold => .integer settings.anomalyThreshold
  | .scoreThreshold => .integer settings.scoreThreshold
  | .floodBlockSecs => .integer settings.floodBlockSecs
  | .scoreBlockSecs => .integer settings.scoreBlockSecs
  | .idempotencyTtlSecs => .integer settings.idempotencyTtlSecs
  | .housekeepingIntervalSecs => .integer settings.housekeepingIntervalSecs
  | .playerIdleTtlSecs => .integer settings.playerIdleTtlSecs
  | .port => .integer settings.port
  | .maxBodyBytes => .integer settings.maxBodyBytes
  | .maxConcurrentForwards => .integer settings.maxConcurrentForwards
  | .consumerCapacity => .integer settings.consumerCapacity
  | .playerShards => .integer settings.playerShards

/-- Each value of accepted settings is the one that the rule gives from its own variable. -/
theorem Settings.gives_value (h : Settings.ofLookup lookup = .ok settings) (setting : Setting) :
    setting.rule.Gives (lookup setting.name) (settings.value setting) := by
  simp only [Settings.ofLookup, bind_eq_ok_iff, Setting.read_eq_ok_iff] at h
  obtain ⟨_, hsecret, _, hrate, _, hburst, _, hthreshold, _, hscore, _, hfloodBlock, _,
    hscoreBlock, _, hlease, _, hhousekeeping, _, hidle, _, hport, _, hbody, _, hforwards, _,
    hcapacity, _, hshards, hsettings⟩ := h
  obtain rfl := Except.ok.inj hsettings
  cases setting with
  | hmacSecret => exact followedBy_readSecret.gives hsecret
  | rateLimitRps => exact followedBy_readRate.gives hrate
  | rateLimitBurst => exact followedBy_readBurst.gives hburst
  | anomalyThreshold => exact (followedBy_readPositive (by decide)).gives hthreshold
  | scoreThreshold => exact followedBy_readScoreThreshold.gives hscore
  | floodBlockSecs => exact (followedBy_readPositive (by decide)).gives hfloodBlock
  | scoreBlockSecs => exact (followedBy_readPositive (by decide)).gives hscoreBlock
  | idempotencyTtlSecs => exact (followedBy_readTtl (by decide)).gives hlease
  | housekeepingIntervalSecs => exact (followedBy_readTtl (by decide)).gives hhousekeeping
  | playerIdleTtlSecs => exact followedBy_readIdleTtl.gives hidle
  | port => exact followedBy_readNatural.gives hport
  | maxBodyBytes => exact (followedBy_readPositive (by decide)).gives hbody
  | maxConcurrentForwards => exact (followedBy_readPositive (by decide)).gives hforwards
  | consumerCapacity => exact (followedBy_readPositive (by decide)).gives hcapacity
  | playerShards => exact (followedBy_readPositive (by decide)).gives hshards

/-! ## Bounds -/

/-- The first number of seconds that is too many for a block: two to the thirty-second. -/
def blockBoundSecs : Nat := 0x100000000

/-- The times that are set: lifetimes and the time between two rounds of housekeeping are a
day at most, and blocks are below their bound; none of them is empty. -/
structure Settings.Bounded (settings : Settings) : Prop where
  lease : 0 < settings.idempotencyTtlSecs ∧ settings.idempotencyTtlSecs ≤ maxTtlSecs
  housekeeping :
    0 < settings.housekeepingIntervalSecs ∧ settings.housekeepingIntervalSecs ≤ maxTtlSecs
  floodBlock : 0 < settings.floodBlockSecs ∧ settings.floodBlockSecs < blockBoundSecs
  scoreBlock : 0 < settings.scoreBlockSecs ∧ settings.scoreBlockSecs < blockBoundSecs

/-- Accepted settings have their times inside bounds. -/
theorem Settings.bounded (h : Settings.ofLookup lookup = .ok settings) : settings.Bounded := by
  have hgives := Settings.gives_value h
  obtain ⟨-, hlease⟩ :=
    (hgives .idempotencyTtlSecs).integer_bounds ⟨by decide, by decide⟩ (by decide)
  obtain ⟨-, hhousekeeping⟩ :=
    (hgives .housekeepingIntervalSecs).integer_bounds ⟨by decide, by decide⟩ (by decide)
  obtain ⟨hflood, hfloodPos⟩ :=
    (hgives .floodBlockSecs).integer_bounds ⟨by decide, by decide⟩ (by decide)
  obtain ⟨hscore, hscorePos⟩ :=
    (hgives .scoreBlockSecs).integer_bounds ⟨by decide, by decide⟩ (by decide)
  exact {
    lease := ⟨Int.ofNat_le.mp hlease.1, Int.ofNat_le.mp hlease.2⟩
    housekeeping := ⟨Int.ofNat_le.mp hhousekeeping.1, Int.ofNat_le.mp hhousekeeping.2⟩
    floodBlock := ⟨Int.ofNat_le.mp hfloodPos, Int.ofNat_lt.mp (Int.lt_of_le_sub_one hflood.2)⟩
    scoreBlock := ⟨Int.ofNat_le.mp hscorePos, Int.ofNat_lt.mp (Int.lt_of_le_sub_one hscore.2)⟩ }

end Lookup

end Turnstile
