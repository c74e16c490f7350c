import Mathlib.Data.Set.Defs
import Turnstile.Proofs.Binary64.Value
import Turnstile.Proofs.Fairness.Limits
import Turnstile.Proofs.Text.Numerals

/-!
# The rules for settings

Each variable goes by a rule of its own: the secret has to be there and to be long enough, and
every other variable has a default, a number type and a range in it.  A rule tells which value
a raw text gives, if it gives one.  The readers of the single variables follow these rules.

Main definitions:

- `SettingRule`, `Setting.rule`: the rules, and the rule of each variable.
- `Unset`: a variable that is not there or blank.
- `SettingRule.Gives`, `SettingRule.Accepts`: the value that a raw text gives.
- `SettingRule.FollowedBy`: a reader that reads exactly what a rule gives.

Main results:

- `SettingRule.Gives.unique`: a raw text gives one value at most.
- `followedBy_readSecret`, `followedBy_number`, `followedBy_integer`, `followedBy_natural`: the
  readers follow the rules.
-/

namespace Turnstile

open Text (Numeral.Range)

/-! ## Rules -/

/-- The value of a variable. -/
inductive SettingValue
  | secret (bytes : List UInt8)
  | number (x : Binary64)
  | integer (n : Int)
deriving DecidableEq

/-- What a variable may be set to. -/
inductive SettingRule
  /-- A text of so many bytes at least. -/
  | secret (least : Nat)
  /-- A finite number in a range. -/
  | number (range : Set Rat) (default : Binary64)
  /-- An integer of a type, in a range. -/
  | integer (type : Numeral.Range) (range : Set Int) (default : Int)

/-- The rule of each variable. -/
def Setting.rule : Setting → SettingRule
  | .hmacSecret => .secret 32
  | .rateLimitRps => .number {x | 0 < x} (.ofNat 50)
  | .rateLimitBurst => .number {x | 1 ≤ x} (.ofNat 100)
  | .anomalyThreshold => .integer (.unsigned 32) {n | 1 ≤ n} 10
  | .scoreThreshold => .integer .signed64 {n | 0 ≤ n} 1000
  | .floodBlockSecs => .integer (.unsigned 32) {n | 1 ≤ n} 300
  | .scoreBlockSecs => .integer (.unsigned 32) {n | 1 ≤ n} 600
  | .idempotencyTtlSecs => .integer (.unsigned 64) {n | 1 ≤ n ∧ n ≤ 86400} 300
  | .housekeepingIntervalSecs => .integer (.unsigned 64) {n | 1 ≤ n ∧ n ≤ 86400} 30
  | .playerIdleTtlSecs => .integer (.unsigned 32) {n | 0 ≤ n ∧ n ≤ 2592000} 0
  | .port => .integer (.unsigned 16) Set.univ 8081
  | .maxBodyBytes => .integer (.unsigned 64) {n | 1 ≤ n} 65536
  | .maxConcurrentForwards => .integer (.unsigned 64) {n | 1 ≤ n} 8
  | .consumerCapacity => .integer (.unsigned 64) {n | 1 ≤ n} 100
  | .playerShards => .integer (.unsigned 64) {n | 1 ≤ n} 16

/-- A variable that is not there, or blank. -/
def Unset (raw : Option String) : Prop :=
  ∀ text, raw = some text → ∀ c ∈ text.toList, Text.isBlank c = true

/-- The value of a variable that has a default: the default where the variable is not set, and
else what its text reads as without the blanks around it. -/
inductive Chosen {α : Type} (Reads : List Char → α → Prop) (default : α) :
    Option String → α → Prop
  | unset {raw : Option String} (hunset : Unset raw) : Chosen Reads default raw default
  | set {text : String} {a : α} (hset : ¬Unset (some text))
      (hreads : Reads (Text.trimChars text.toList) a) : Chosen Reads default (some text) a

/-- The finite numbers in a range that a text reads as. -/
def ReadsNumber (range : Set Rat) (text : List Char) (x : Binary64) : Prop :=
  Binary64.read? text = some x ∧ x.isFinite = true ∧ x.toRat ∈ range

/-- The integers of a type, in a range, that a text writes. -/
def ReadsInteger (type : Numeral.Range) (range : Set Int) (text : List Char) (n : Int) : Prop :=
  Text.Numeral.Writes (type.least < 0) text n ∧ type.Holds n ∧ n ∈ range

/-- The value that a raw text gives by a rule.  Only the secret is taken as it stands and has
no default. -/
inductive SettingRule.Gives : SettingRule → Option String → SettingValue → Prop
  | secret {least : Nat} {text : String}
      (hlength : least ≤ (Text.Utf8.encodeString text).length) :
      Gives (.secret least) (some text) (.secret (Text.Utf8.encodeString text))
  | number {range : Set Rat} {default x : Binary64} {raw : Option String}
      (h : Chosen (ReadsNumber range) default raw x) :
      Gives (.number range default) raw (.number x)
  | integer {type : Numeral.Range} {range : Set Int} {default n : Int} {raw : Option String}
      (h : Chosen (ReadsInteger type range) default raw n) :
      Gives (.integer type range default) raw (.integer n)

/-- A raw text that gives a value. -/
def SettingRule.Accepts (rule : SettingRule) (raw : Option String) : Prop :=
  ∃ value, rule.Gives raw value

/-- Where a text reads as one value at most, one is chosen at most. -/
theorem Chosen.unique {α : Type} {Reads : List Char → α → Prop} {default : α}
    (hreads : ∀ text a b, Reads text a → Reads text b → a = b) {raw : Option String} {a b : α}
    (h : Chosen Reads default raw a) (hother : Chosen Reads default raw b) : a = b := by
  cases h with
  | unset hunset =>
      cases hother with
      | unset => rfl
      | set hset => exact absurd hunset hset
  | set hset hread =>
      cases hother with
      | unset hunset => exact absurd hunset hset
      | set _ hother => exact hreads _ _ _ hread hother

/-- A raw text gives one value at most. -/
theorem SettingRule.Gives.unique {rule : SettingRule} {raw : Option String}
    {value other : SettingValue} (h : rule.Gives raw value) (hother : rule.Gives raw other) :
    value = other := by
  cases h with
  | secret =>
      cases hother with
      | secret => rfl
  | number h =>
      cases hother with
      | number hother =>
          refine congrArg _ (h.unique (fun text x y hx hy => ?_) hother)
          exact Option.some.inj (hx.1.symm.trans hy.1)
  | integer h =>
      cases hother with
      | integer hother =>
          exact congrArg _ (h.unique (fun text n m hn hm => hn.1.unique hm.1) hother)

/-- An integer that is given is of its type and in its range, if the default is. -/
theorem SettingRule.Gives.integer_bounds {type : Numeral.Range} {range : Set Int}
    {default n : Int} {raw : Option String}
    (h : (SettingRule.integer type range default).Gives raw (.integer n))
    (htype : type.Holds default) (hrange : default ∈ range) : type.Holds n ∧ n ∈ range := by
  cases h with
  | integer h =>
      cases h with
      | unset => exact ⟨htype, hrange⟩
      | set _ hreads => exact hreads.2

/-! ## Reading by the rules -/

section Reading

variable {raw : Option String}

/-- Nothing is given where a variable is not set. -/
theorem given?_eq_none_iff : given? raw = none ↔ Unset raw := by
  simp [given?, Unset, Option.filter_eq_none_iff, Text.isAllBlank]

/-- What is given is the text of a variable that is set. -/
theorem given?_eq_some_iff {text : String} :
    given? raw = some text ↔ raw = some text ∧ ¬Unset raw := by
  constructor
  · intro h
    refine ⟨(Option.filter_eq_some_iff.mp h).1, fun hunset => ?_⟩
    rw [given?_eq_none_iff.mpr hunset] at h
    contradiction
  · rintro ⟨rfl, hset⟩
    cases hgiven : given? (some text) with
    | none => exact absurd (given?_eq_none_iff.mp hgiven) hset
    | some other => rw [(Option.filter_eq_some_iff.mp hgiven).1]

/-- A value is chosen by what is given. -/
theorem chosen_iff {α : Type} {Reads : List Char → α → Prop} {default a : α} :
    Chosen Reads default raw a ↔
      given? raw = none ∧ a = default ∨
        ∃ text, given? raw = some text ∧ Reads (Text.trimChars text.toList) a := by
  constructor
  · intro h
    cases h with
    | unset hunset => exact Or.inl ⟨given?_eq_none_iff.mpr hunset, rfl⟩
    | set hset hreads => exact Or.inr ⟨_, given?_eq_some_iff.mpr ⟨rfl, hset⟩, hreads⟩
  · rintro (⟨hgiven, rfl⟩ | ⟨text, hgiven, hreads⟩)
    · exact .unset (given?_eq_none_iff.mp hgiven)
    · obtain ⟨rfl, hset⟩ := given?_eq_some_iff.mp hgiven
      exact .set hset hreads

/-- A number is chosen when it is read and in the range. -/
theorem chosen_number_iff {range : Set Rat} {default x : Binary64}
    (hdefault : default.isFinite = true ∧ default.toRat ∈ range) :
    Chosen (ReadsNumber range) default raw x ↔
      readNumber default raw = .ok x ∧ x.isFinite = true ∧ x.toRat ∈ range := by
  rw [chosen_iff]
  unfold readNumber ReadsNumber
  cases given? raw with
  | none => grind
  | some text => cases hread : Binary64.read? (Text.trimChars text.toList) <;> grind

/-- An integer is chosen when it is read and in the range. -/
theorem chosen_integer_iff {type : Numeral.Range} {range : Set Int} {default n : Int}
    (hzero : type.Holds 0) (hdefault : default ∈ range) :
    Chosen (ReadsInteger type range) default raw n ↔
      readInteger type default raw = .ok n ∧ n ∈ range := by
  rw [chosen_iff]
  unfold readInteger ReadsInteger
  cases given? raw with
  | none => grind
  | some text =>
      have hread : Text.Numeral.read type (Text.trimChars text.toList) = .ok n ↔ _ :=
        Text.Numeral.read_eq_ok_iff hzero
      cases hread : Text.Numeral.read type (Text.trimChars text.toList) <;> grind

end Reading

/-! ## The readers -/

/-- A reader that accepts the raw texts that a rule accepts, with the values that it gives. -/
def SettingRule.FollowedBy {α : Type} (rule : SettingRule)
    (reader : Option String → Except SettingFlaw α) (embed : α → SettingValue) : Prop :=
  ∀ raw value, rule.Gives raw value ↔ ∃ a, reader raw = .ok a ∧ embed a = value

/-- The secret is taken when it is there and long enough. -/
theorem followedBy_readSecret :
    (SettingRule.secret minSecretLength).FollowedBy readSecret fun verifier =>
      .secret verifier.secret := by
  intro raw value
  constructor
  · intro h
    cases h with
    | @secret _ text hlength =>
        have hne : text ≠ "" := by
          rintro rfl
          exact absurd hlength (by decide)
        have hgiven : (some text).filter (fun text => text ≠ "") = some text :=
          Option.filter_eq_some_iff.mpr ⟨rfl, by simpa using hne⟩
        refine ⟨⟨Text.Utf8.encodeString text, hlength⟩, ?_, rfl⟩
        simp only [readSecret, hgiven, Verifier.ofSecret, dif_pos hlength]
  · rintro ⟨verifier, hread, rfl⟩
    unfold readSecret at hread
    split at hread
    · contradiction
    · rename_i text hgiven
      rw [(Option.filter_eq_some_iff.mp hgiven).1]
      unfold Verifier.ofSecret at hread
      by_cases hlength : minSecretLength ≤ (Text.Utf8.encodeString text).length
      · simp only [hlength, dite_true, Except.ok.injEq] at hread
        subst hread
        exact .secret hlength
      · simp [hlength] at hread

/-- A reader of numbers that asks for the range. -/
theorem followedBy_number {range : Set Rat} {default : Binary64}
    {reader : Option String → Except SettingFlaw Binary64}
    (hdefault : default.isFinite = true ∧ default.toRat ∈ range)
    (hreader : ∀ raw x, reader raw = .ok x ↔
      readNumber default raw = .ok x ∧ x.isFinite = true ∧ x.toRat ∈ range) :
    (SettingRule.number range default).FollowedBy reader .number := by
  intro raw value
  constructor
  · intro h
    cases h with
    | number h => exact ⟨_, (hreader _ _).mpr ((chosen_number_iff hdefault).mp h), rfl⟩
  · rintro ⟨x, hread, rfl⟩
    exact .number ((chosen_number_iff hdefault).mpr ((hreader raw x).mp hread))

/-- The number of tokens a second. -/
theorem followedBy_readRate :
    (SettingRule.number {x | 0 < x} (.ofNat 50)).FollowedBy readRate .number := by
  have hpos : ∀ {x : Binary64}, x.isFinite = true → (Binary64.zero.lt x = true ↔ 0 < x.toRat) := by
    intro x hfinite
    rw [Binary64.lt_iff_toRat_lt (by decide) hfinite, Binary64.toRat_zero]
  have hfifty : (Binary64.ofNat 50).isFinite = true := by decide +kernel
  refine followedBy_number ⟨hfifty, (hpos hfifty).mp (by decide +kernel)⟩ fun raw x => ?_
  simp only [readRate, bind_eq_ok_iff, refuse_eq_ok_iff, Set.mem_ofPred_eq]
  grind

/-- The most tokens. -/
theorem followedBy_readBurst :
    (SettingRule.number {x | 1 ≤ x} (.ofNat 100)).FollowedBy readBurst .number := by
  have hone : ∀ {x : Binary64}, x.isFinite = true → (Binary64.one.le x = true ↔ 1 ≤ x.toRat) := by
    intro x hfinite
    rw [Binary64.le_iff_toRat_le (by decide) hfinite, Binary64.toRat_one]
  have hhundred : (Binary64.ofNat 100).isFinite = true := by decide +kernel
  refine followedBy_number ⟨hhundred, (hone hhundred).mp (by decide +kernel)⟩ fun raw x => ?_
  simp only [readBurst, bind_eq_ok_iff, refuse_eq_ok_iff, Set.mem_ofPred_eq]
  grind

/-- A reader of integers that asks for the range. -/
theorem followedBy_integer {type : Numeral.Range} {range : Set Int} {default : Int}
    {reader : Option String → Except SettingFlaw Int} (hzero : type.Holds 0)
    (hdefault : default ∈ range)
    (hreader : ∀ raw n, reader raw = .ok n ↔ readInteger type default raw = .ok n ∧ n ∈ range) :
    (SettingRule.integer type range default).FollowedBy reader .integer := by
  intro raw value
  constructor
  · intro h
    cases h with
    | integer h => exact ⟨_, (hreader _ _).mpr ((chosen_integer_iff hzero hdefault).mp h), rfl⟩
  · rintro ⟨n, hread, rfl⟩
    exact .integer ((chosen_integer_iff hzero hdefault).mpr ((hreader raw n).mp hread))

/-- The largest gain at once. -/
theorem followedBy_readScoreThreshold :
    (SettingRule.integer .signed64 {n | 0 ≤ n} 1000).FollowedBy readScoreThreshold .integer := by
  refine followedBy_integer ⟨by decide, by decide⟩ (by decide) fun raw n => ?_
  simp only [readScoreThreshold, bind_eq_ok_iff, refuse_eq_ok_iff, Set.mem_ofPred_eq]
  grind

section Natural

variable {bits default : Nat}

theorem holds_unsigned_zero : (Numeral.Range.unsigned bits).Holds 0 := by
  have hpow : 0 < Nat.pow 2 bits := Nat.two_pow_pos bits
  have hgreatest : (Numeral.Range.unsigned bits).greatest = (Nat.pow 2 bits : Nat) - 1 := rfl
  exact ⟨Int.le_refl 0, by omega⟩

/-- An integer without a sign that is read is not negative. -/
theorem nonneg_of_readInteger {raw : Option String} {n : Int}
    (h : readInteger (.unsigned bits) default raw = .ok n) : 0 ≤ n := by
  unfold readInteger at h
  split at h
  · obtain rfl := Except.ok.inj h
    exact Int.natCast_nonneg default
  · split at h
    · rename_i hread
      obtain rfl := Except.ok.inj h
      exact ((Text.Numeral.read_eq_ok_iff holds_unsigned_zero).mp hread).2.1
    · contradiction

/-- What is read as a natural number is read as an integer. -/
theorem readNatural_eq_ok_iff {raw : Option String} {m : Nat} :
    readNatural bits default raw = .ok m ↔ readInteger (.unsigned bits) default raw = .ok m := by
  unfold readNatural
  cases hread : readInteger (.unsigned bits) default raw with
  | error flaw => simp [Except.map]
  | ok n =>
      have hnonneg := nonneg_of_readInteger hread
      simp only [Except.map, Except.ok.injEq]
      omega

/-- A reader of natural numbers that asks for the range. -/
theorem followedBy_natural {range : Set Int} {reader : Option String → Except SettingFlaw Nat}
    (hdefault : (default : Int) ∈ range)
    (hreader : ∀ raw m, reader raw = .ok m ↔
      readNatural bits default raw = .ok m ∧ (m : Int) ∈ range) :
    (SettingRule.integer (.unsigned bits) range default).FollowedBy reader
      fun m => .integer m := by
  intro raw value
  constructor
  · intro h
    cases h with
    | @integer _ _ _ n _ h =>
        obtain ⟨hread, hrange⟩ := (chosen_integer_iff holds_unsigned_zero hdefault).mp h
        obtain ⟨m, rfl⟩ := Int.eq_ofNat_of_zero_le (nonneg_of_readInteger hread)
        exact ⟨m, (hreader raw m).mpr ⟨readNatural_eq_ok_iff.mpr hread, hrange⟩, rfl⟩
  · rintro ⟨m, hread, rfl⟩
    obtain ⟨hread, hrange⟩ := (hreader raw m).mp hread
    exact .integer ((chosen_integer_iff holds_unsigned_zero hdefault).mpr
      ⟨readNatural_eq_ok_iff.mp hread, hrange⟩)

/-- Any number of the type. -/
theorem followedBy_readNatural :
    (SettingRule.integer (.unsigned bits) Set.univ default).FollowedBy (readNatural bits default)
      fun m => .integer m :=
  followedBy_natural (Set.mem_univ _) fun _ _ => (and_iff_left (Set.mem_univ _)).symm

theorem refuseAbove_eq_ok_iff {bound n m : Nat} :
    refuseAbove bound n = .ok m ↔ n = m ∧ n ≤ bound := by
  simp only [refuseAbove, refuse_eq_ok_iff, decide_eq_false_iff_not]
  omega

/-- Any number of the type but zero. -/
theorem followedBy_readPositive (hdefault : 1 ≤ default) :
    (SettingRule.integer (.unsigned bits) {n | 1 ≤ n} default).FollowedBy
      (readPositive bits default) fun m => .integer m :=
  followedBy_natural (by simpa using hdefault) fun raw m => by
    rw [readPositive_eq_ok_iff, Set.mem_ofPred_eq, Nat.one_le_cast]

/-- A lifetime, which is a day at most and is not empty. -/
theorem followedBy_readTtl (hdefault : 1 ≤ default ∧ default ≤ maxTtlSecs) :
    (SettingRule.integer (.unsigned 64) {n | 1 ≤ n ∧ n ≤ maxTtlSecs} default).FollowedBy
      (readTtl default) fun m => .integer m :=
  followedBy_natural (by simpa using hdefault) fun raw m => by
    simp only [readTtl, bind_eq_ok_iff, readPositive_eq_ok_iff, refuseAbove_eq_ok_iff,
      Set.mem_ofPred_eq]
    grind

/-- The time for which a silent player is remembered, which is thirty days at most. -/
theorem followedBy_readIdleTtl :
    (SettingRule.integer (.unsigned 32) {n | 0 ≤ n ∧ n ≤ maxIdleTtlSecs} 0).FollowedBy readIdleTtl
      fun m => .integer m :=
  followedBy_natural (by simp) fun raw m => by
    simp only [readIdleTtl, bind_eq_ok_iff, refuseAbove_eq_ok_iff, Set.mem_ofPred_eq]
    grind

end Natural

end Turnstile
