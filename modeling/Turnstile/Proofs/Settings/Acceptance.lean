import Turnstile.Proofs.Settings

/-!
# Exactly the settings that follow the rules

Settings are accepted exactly when every variable follows its rule, and then each value is the
one that the rule gives from its own variable.  Otherwise the sentence for the error starts by
identifying the first variable, in the order of reading, that does not follow its rule; what
comes after that variable does not matter, nor does what stands before it as long as it follows
the rules.

Main definitions and results:

- `Setting.IdentifiedBy`, `Setting.IdentifiedBy.unique`: a text that starts by identifying a
  variable identifies no other.
- `SettingError.identifiedBy_message`: the sentence for an error does so.
- `Settings.ofLookup_eq_error_iff_refused`: when an error is reported.
- `Settings.ofLookup_follows_rules`: what is accepted, what it gives and what is reported.
-/

namespace Turnstile

/-! ## The variable that is reported -/

section Lookup

variable {lookup : String → Option String} {settings : Settings} {error : SettingError}

/-- An error is reported exactly when its variable has the flaw and every variable before it
follows its rule. -/
theorem Settings.ofLookup_eq_error_iff_refused :
    Settings.ofLookup lookup = .error error ↔
      error.setting.flaw? (lookup error.setting.name) = some error.flaw ∧
        ∃ before after, Setting.all = before ++ error.setting :: after ∧
          ∀ setting ∈ before, setting.rule.Accepts (lookup setting.name) := by
  have herror : ∀ setting, Setting.error? lookup setting = some error ↔
      setting = error.setting ∧
        error.setting.flaw? (lookup error.setting.name) = some error.flaw := by
    intro setting
    simp only [Setting.error?, Option.map_eq_some_iff]
    constructor
    · rintro ⟨flaw, hflaw, rfl⟩
      exact ⟨rfl, hflaw⟩
    · rintro ⟨rfl, hflaw⟩
      exact ⟨error.flaw, hflaw, rfl⟩
  have hnone : ∀ setting, Setting.error? lookup setting = none ↔
      setting.rule.Accepts (lookup setting.name) := by
    intro setting
    rw [Setting.error?, Option.map_eq_none_iff, Setting.flaw?_eq_none_iff]
  simp only [ofLookup_eq_error_iff, List.findSome?_eq_some_iff, herror, hnone]
  constructor
  · rintro ⟨before, _, after, hall, ⟨rfl, hflaw⟩, hbefore⟩
    exact ⟨hflaw, before, after, hall, hbefore⟩
  · rintro ⟨hflaw, before, after, hall, hbefore⟩
    exact ⟨before, error.setting, after, hall, ⟨rfl, hflaw⟩, hbefore⟩

/-- Without a time for which silent players are remembered they are remembered for ever. -/
theorem Settings.playerIdleTtl_eq_none_iff :
    settings.playerIdleTtl = none ↔ settings.value .playerIdleTtlSecs = .integer 0 := by
  unfold playerIdleTtl value
  split <;> simp_all

end Lookup

/-! ## The sentence for an error -/

/-- A text that starts by identifying a variable. -/
def Setting.IdentifiedBy (setting : Setting) (text : String) : Prop :=
  ∃ rest, text = setting.name ++ " " ++ rest ∨
    text = "Invalid value for " ++ setting.name ++ ": " ++ rest

/-- The sentence for an error starts by identifying the variable. -/
theorem SettingError.identifiedBy_message (error : SettingError) :
    error.setting.IdentifiedBy error.message := by
  have hfirst (rest : String) :
      error.setting.IdentifiedBy (error.setting.name ++ (" " ++ rest)) :=
    ⟨rest, Or.inl (String.append_assoc ..).symm⟩
  unfold message
  cases error.flaw with
  | missing => exact hfirst "must be set"
  | rejected secretError =>
      simp only [String.append_assoc]
      exact hfirst ("rejected: " ++ secretError.message)
  | notInteger | notNumber =>
      simp only [Setting.IdentifiedBy, String.append_assoc]
      exact ⟨_, Or.inr rfl⟩
  | notPositive => exact hfirst "must be a positive number"
  | belowOne => exact hfirst "must be at least 1"
  | negative => exact hfirst "must not be negative"
  | zero => exact hfirst "must be greater than zero"
  | above bound value =>
      simp only [String.append_assoc]
      exact hfirst ("must be at most " ++ (toString bound ++ (" (got " ++ (toString value ++ ")"))))

/-- The name that a text starts by. -/
def leadingName (text : List Char) : List Char :=
  if text.takeWhile (· ≠ ' ') = "Invalid".toList then (text.drop 18).takeWhile (· ≠ ':')
  else text.takeWhile (· ≠ ' ')

/-- A name is one word, and is not the word that sentences about numerals begin with. -/
theorem Setting.name_isWord (setting : Setting) :
    (∀ c ∈ setting.name.toList, c ≠ ' ' ∧ c ≠ ':') ∧ setting.name.toList ≠ "Invalid".toList := by
  cases setting <;> simp [name]

/-- A text that identifies a variable starts by its name. -/
theorem Setting.IdentifiedBy.leadingName_eq {setting : Setting} {text : String}
    (h : setting.IdentifiedBy text) : leadingName text.toList = setting.name.toList := by
  obtain ⟨hword, hne⟩ := setting.name_isWord
  unfold leadingName
  obtain ⟨rest, rfl | rfl⟩ := h
  · have hfirst : (setting.name ++ " " ++ rest).toList.takeWhile (· ≠ ' ') =
        setting.name.toList := by
      rw [String.append_assoc, String.toList_append, List.takeWhile_append_of_pos]
      · simp
      · simpa using fun c hc => (hword c hc).1
    rw [hfirst, if_neg hne]
  · have htext : ("Invalid value for " ++ setting.name ++ ": " ++ rest).toList =
        "Invalid value for ".toList ++ (setting.name.toList ++ ':' :: ' ' :: rest.toList) := by
      simp [String.toList_append]
    rw [htext, if_pos (by simp), List.drop_left' (by rfl), List.takeWhile_append_of_pos]
    · simp
    · simpa using fun c hc => (hword c hc).2

/-- Different variables have different names. -/
theorem Setting.name_injective : Function.Injective Setting.name := by
  have hfound : ∀ setting : Setting,
      Setting.all.find? (fun other => other.name = setting.name) = some setting := by
    intro setting
    cases setting <;> rfl
  intro setting other h
  have hother := hfound other
  rw [← h, hfound setting] at hother
  exact Option.some.inj hother

/-- A text starts by identifying one variable at most. -/
theorem Setting.IdentifiedBy.unique {setting other : Setting} {text : String}
    (h : setting.IdentifiedBy text) (hother : other.IdentifiedBy text) : setting = other :=
  Setting.name_injective <|
    String.toList_injective (h.leadingName_eq.symm.trans hother.leadingName_eq)

/-! ## What is accepted and what is reported -/

/-- Settings are accepted exactly when every variable follows its rule.  Each value is then what
the rule gives from the variable's own raw text, so another lookup that has the same text there
gives the same value.  An error is that of the first variable in the order of reading that does
not follow its rule, whatever the variables after it hold, and the sentence for it starts by
identifying that variable and no other. -/
theorem Settings.ofLookup_follows_rules (lookup : String → Option String) :
    ((∃ settings, Settings.ofLookup lookup = .ok settings) ↔
        ∀ setting : Setting, setting.rule.Accepts (lookup setting.name)) ∧
      (∀ settings, Settings.ofLookup lookup = .ok settings →
        (∀ setting : Setting, setting.rule.Gives (lookup setting.name) (settings.value setting)) ∧
        (settings.playerIdleTtl = none ↔ settings.value .playerIdleTtlSecs = .integer 0) ∧
        ∀ other others (setting : Setting), Settings.ofLookup other = .ok others →
          other setting.name = lookup setting.name →
          others.value setting = settings.value setting) ∧
      ∀ error, Settings.ofLookup lookup = .error error →
        (∀ setting : Setting, setting.IdentifiedBy error.message ↔ setting = error.setting) ∧
        ¬error.setting.rule.Accepts (lookup error.setting.name) ∧
        ∃ before after, Setting.all = before ++ error.setting :: after ∧
          (∀ setting ∈ before, setting.rule.Accepts (lookup setting.name)) ∧
          ∀ other : String → Option String,
            other error.setting.name = lookup error.setting.name →
            (∀ setting ∈ before, setting.rule.Accepts (other setting.name)) →
            Settings.ofLookup other = .error error := by
  refine ⟨?accepted, fun settings h => ⟨Settings.gives_value h, playerIdleTtl_eq_none_iff, ?own⟩,
    fun error h => ?reported⟩
  case accepted => simp only [Settings.accepted_iff, Setting.flaw?_eq_none_iff]
  case own =>
    intro other others setting hother hsame
    have hgives := Settings.gives_value hother setting
    rw [hsame] at hgives
    exact hgives.unique (Settings.gives_value h setting)
  case reported =>
    obtain ⟨hflaw, before, after, hall, hbefore⟩ := Settings.ofLookup_eq_error_iff_refused.mp h
    refine ⟨fun setting => ⟨fun hnamed => hnamed.unique error.identifiedBy_message, ?_⟩, ?_,
      before, after, hall, hbefore, fun other hsame hother => ?_⟩
    · rintro rfl
      exact error.identifiedBy_message
    · rw [← Setting.flaw?_eq_none_iff, hflaw]
      exact Option.some_ne_none _
    · rw [Settings.ofLookup_eq_error_iff_refused, hsame]
      exact ⟨hflaw, before, after, hall, hother⟩

/-- A blank length of a block stands for the default.  The time for silent players is a second
too long, and the port is no port either: the first of the two is reported. -/
theorem Settings.ofLookup_follows_rules_twoFaults :
    let lookup (name : String) : Option String :=
      if name = "HMAC_SECRET" then some "0123456789abcdef0123456789abcdef"
      else if name = "SCORE_BLOCK_SECS" then some " \t"
      else if name = "PLAYER_IDLE_TTL_SECS" then some " +2592001"
      else if name = "PORT" then some "65536" else none
    let error : SettingError := ⟨.playerIdleTtlSecs, .above 2592000 2592001⟩
    Settings.ofLookup lookup = .error error ∧
      error.message = "PLAYER_IDLE_TTL_SECS must be at most 2592000 (got 2592001)" ∧
      Setting.playerIdleTtlSecs.IdentifiedBy error.message ∧
      ¬Setting.port.IdentifiedBy error.message ∧
      ¬Setting.playerIdleTtlSecs.rule.Accepts (some " +2592001") := by
  intro lookup error
  have herror : Settings.ofLookup lookup = .error error :=
    Settings.ofLookup_eq_error_iff.mpr (by decide +kernel)
  obtain ⟨-, -, hreported⟩ := Settings.ofLookup_follows_rules lookup
  obtain ⟨hnamed, hrefused, -⟩ := hreported error herror
  have hother : ¬Setting.port.IdentifiedBy error.message :=
    fun hport => absurd ((hnamed _).mp hport) (by decide)
  exact ⟨herror, by decide +kernel, (hnamed _).mpr rfl, hother, hrefused⟩

example :
    (Settings.ofLookup fun name =>
      if name = "HMAC_SECRET" then some "0123456789abcdef0123456789abcdef"
      else if name = "PORT" then some " +80 " else none).toOption.map (·.port) = some 80 := by
  decide +kernel

end Turnstile
