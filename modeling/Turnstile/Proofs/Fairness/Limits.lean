import Turnstile.Settings

/-!
# Limits that make sense

The fairness rules are written for any limits, their laws hold for limits that make
sense: an event is allowed in each window, and neither windows nor blocks are empty.
Settings that are accepted give such limits.

Main definitions and results:

- `Policy.Valid`: limits that make sense.
- `Policy.Lasting`: limits under which a block lasts for a window at least.
- `Settings.valid_policy`, `Settings.lasting_policy`: accepted settings give such limits.
-/

namespace Turnstile

/-- Limits that make sense. -/
structure Policy.Valid (policy : Policy) : Prop where
  threshold_pos : 1 ≤ policy.anomalyThreshold
  window_pos : 0 < policy.window
  floodBlock_pos : 0 < policy.floodBlock
  scoreBlock_pos : 0 < policy.scoreBlock

/-- The standard limits make sense. -/
theorem Policy.valid_standard : Policy.standard.Valid where
  threshold_pos := by decide
  window_pos := by decide
  floodBlock_pos := by decide
  scoreBlock_pos := by decide

/-- Limits that make sense, under which a block lasts for a window at least. -/
structure Policy.Lasting (policy : Policy) : Prop extends policy.Valid where
  window_le_floodBlock : policy.window ≤ policy.floodBlock
  window_le_scoreBlock : policy.window ≤ policy.scoreBlock

/-- Under the standard limits, which make sense, a block lasts for a window. -/
theorem Policy.lasting_standard : Policy.standard.Lasting where
  toValid := Policy.valid_standard
  window_le_floodBlock := by decide
  window_le_scoreBlock := by decide

/-! ## Limits from settings -/

/-- Two readings in a row succeed when each of them does. -/
theorem bind_eq_ok_iff {ε α β : Type} {x : Except ε α} {f : α → Except ε β} {b : β} :
    (x >>= f) = .ok b ↔ ∃ a, x = .ok a ∧ f a = .ok b := by
  cases x with
  | error e => simp [bind, Except.bind]
  | ok a => simp [bind, Except.bind]

/-- A variable that is read has the value that its reader gives. -/
theorem Setting.read_eq_ok_iff {α : Type} {setting : Setting} {lookup : String → Option String}
    {reader : Option String → Except SettingFlaw α} {a : α} :
    setting.read lookup reader = .ok a ↔ reader (lookup setting.name) = .ok a := by
  unfold Setting.read
  cases reader (lookup setting.name) <;> simp

/-- What is not refused is not bad. -/
theorem refuse_eq_ok_iff {α : Type} {bad : α → Bool} {flaw : α → SettingFlaw} {a b : α} :
    refuse bad flaw a = .ok b ↔ a = b ∧ bad b = false := by
  unfold refuse
  split <;> grind

/-- A positive number is read when a natural number is, and it is not zero. -/
theorem readPositive_eq_ok_iff {bits default m : Nat} {raw : Option String} :
    readPositive bits default raw = .ok m ↔ readNatural bits default raw = .ok m ∧ 1 ≤ m := by
  simp only [readPositive, bind_eq_ok_iff, refuse_eq_ok_iff, beq_eq_false_iff_ne]
  grind

/-- A number of whole seconds lasts for a window at least, unless it is zero. -/
theorem window_le_seconds {n : Nat} (h : 0 < n) :
    Policy.standard.window ≤ (n * nanosPerSecond : Span) := by
  change (nanosPerSecond : Int) ≤ n * nanosPerSecond
  unfold nanosPerSecond
  omega

/-- The limits of settings that are accepted: a positive threshold, and blocks of at least
one second. -/
theorem Settings.pos_of_ofLookup {lookup : String → Option String} {settings : Settings}
    (h : Settings.ofLookup lookup = .ok settings) :
    0 < settings.anomalyThreshold ∧ 0 < settings.floodBlockSecs ∧ 0 < settings.scoreBlockSecs := by
  simp only [Settings.ofLookup, bind_eq_ok_iff, Setting.read_eq_ok_iff] at h
  obtain ⟨_, -, _, -, _, -, threshold, hthreshold, _, -, flood, hflood, score, hscore, _, -, _, -,
    _, -, _, -, _, -, _, -, _, -, _, -, hsettings⟩ := h
  obtain rfl := Except.ok.inj hsettings
  exact ⟨(readPositive_eq_ok_iff.mp hthreshold).2, (readPositive_eq_ok_iff.mp hflood).2,
    (readPositive_eq_ok_iff.mp hscore).2⟩

/-- Settings that are accepted give limits under which a block lasts for a window. -/
theorem Settings.lasting_policy {lookup : String → Option String} {settings : Settings}
    (h : Settings.ofLookup lookup = .ok settings) : settings.policy.Lasting := by
  obtain ⟨hthreshold, hflood, hscore⟩ := Settings.pos_of_ofLookup h
  have hwindow := Policy.valid_standard.window_pos
  exact {
    threshold_pos := hthreshold
    window_pos := hwindow
    floodBlock_pos := Int.lt_of_lt_of_le hwindow (window_le_seconds hflood)
    scoreBlock_pos := Int.lt_of_lt_of_le hwindow (window_le_seconds hscore)
    window_le_floodBlock := window_le_seconds hflood
    window_le_scoreBlock := window_le_seconds hscore }

/-- Settings that are accepted give limits that make sense. -/
theorem Settings.valid_policy {lookup : String → Option String} {settings : Settings}
    (h : Settings.ofLookup lookup = .ok settings) : settings.policy.Valid :=
  (Settings.lasting_policy h).toValid

end Turnstile
