import Mathlib.Tactic.MkIffOfInductiveProp
import TableQuery.Config.File
import TableQuery.Execution.Engine
import TableQuery.Proofs.Checks
import TableQuery.Proofs.Decimal.Digits
import TableQuery.Proofs.Text.Blank

/-!
# Loaded configurations

Which variables make a configuration, and which error the others give: the variables undergo a list
of checks, and the first one that fails decides. A configuration that was loaded can be used: an
engine can be made for it, with just its settings. All this holds whichever zones are known, as long
as the default zone is one of them, and however files are read.
-/

namespace TableQuery

namespace Config

open TableQuery.Text TableQuery.Decimal

/-- The text writes the number: digits for it, zeros in front allowed, behind a plus sign or none,
and blanks around that. -/
def WritesNumber (text : String) (n : ℕ) : Prop :=
  ∃ before sign ds after : List Char, text.toList = before ++ (sign ++ ds ++ after) ∧
    (∀ c ∈ before, isBlank c = true) ∧ (∀ c ∈ after, isBlank c = true) ∧
    (sign = [] ∨ sign = ['+']) ∧ isDigits ds = true ∧ value ds = n

/-- A number is read from the text without its blanks. -/
theorem writesNumber_iff {text : String} {n : ℕ} :
    WritesNumber text n ↔ readNat? (trimChars text.toList) = some n := by
  rw [readNat?_iff]
  constructor
  · rintro ⟨before, sign, ds, after, htext, hbefore, hafter, hsign, hdigits, hvalue⟩
    have hplain : ∀ c ∈ sign ++ ds, isBlank c = false := by
      intro c hc
      rcases List.mem_append.1 hc with hc | hc
      · rcases hsign with rfl | rfl
        · cases hc
        · rw [List.mem_singleton.1 hc]
          decide
      · exact isBlank_of_isDigit (isDigit_of_mem hdigits c hc)
    refine ⟨sign, ds, ?_, hsign, hdigits, hvalue⟩
    rw [htext, trimChars_between hbefore (trimmed_of_notBlank hplain) hafter]
  · rintro ⟨sign, ds, htrim, hsign, hdigits, hvalue⟩
    obtain ⟨before, after, htext, hbefore, hafter⟩ := exists_blanks text.toList
    rw [htrim] at htext
    exact ⟨before, sign, ds, after, htext, hbefore, hafter, hsign, hdigits, hvalue⟩

/-- A text writes one number at most. -/
theorem WritesNumber.unique {text : String} {n m : ℕ} (hn : WritesNumber text n)
    (hm : WritesNumber text m) : n = m := by
  rw [writesNumber_iff] at hn hm
  exact Option.some.inj (hn.symm.trans hm)

/-- A number of 32 bits is read exactly where the text writes it. -/
theorem readNumber_ok_iff (key : String) {text : String} {n : UInt32} :
    readNumber key text = .ok n ↔ WritesNumber text n.toNat := by
  rw [writesNumber_iff, readNumber, readUnsigned?]
  cases hread : readNat? (trimChars text.toList) with
  | none => simp
  | some m =>
    by_cases hm : m < Nat.pow 2 32
    · have hmod : m % 2 ^ 32 = m := Nat.mod_eq_of_lt hm
      simp only [Option.filter, hm, decide_true, if_true]
      constructor
      · intro h
        cases h
        rw [UInt32.toNat_ofNat', hmod]
      · intro h
        cases h
        rw [UInt32.ofNat_toNat]
    · simp only [Option.filter, hm, decide_false]
      constructor
      · intro h
        cases h
      · intro h
        cases h
        exact absurd n.toNat_lt hm

/-- A number of 32 bits is not read where the text writes none, and the error quotes the text. -/
theorem readNumber_error_iff {key text : String} {e : ConfigError} :
    readNumber key text = .error e ↔
      (∀ n : UInt32, ¬WritesNumber text n.toNat) ∧ e = .invalidNumber key text := by
  simp only [← readNumber_ok_iff key]
  cases hread : readNumber key text with
  | ok n => simp
  | error e' =>
    have he : e' = .invalidNumber key text := by
      rw [readNumber] at hread
      split at hread
      · cases hread
      · cases hread
        rfl
    rw [he]
    simp [eq_comm]

/-- A check of one variable. It concerns the variable only if this is there. -/
inductive Check where
  /-- The variable with this name is a number of 32 bits. -/
  | number (key : String)
  /-- The zone is known. -/
  | zone
  /-- The number in the variable with this name is not zero, for the setting that it gives. -/
  | positive (key setting : String)
  deriving DecidableEq

namespace Check

/-- The variable that is checked. -/
def key : Check → String
  | .number key => key
  | .zone => "ROWKIT_TIMEZONE"
  | .positive key _ => key

/-- A text in the variable does not pass the check, and the error that says so. -/
@[mk_iff]
inductive Rejects (find? : String → Option TimeZone) : Check → String → ConfigError → Prop where
  /-- The text is no number of 32 bits. -/
  | number {key text : String} (h : ∀ n : UInt32, ¬WritesNumber text n.toNat) :
      Rejects find? (.number key) text (.invalidNumber key text)
  /-- The text is the name of no zone. -/
  | zone {name : String} (h : find? name = none) :
      Rejects find? .zone name (.unknownTimezone name)
  /-- The text is a zero. -/
  | positive {key setting text : String} (h : WritesNumber text 0) :
      Rejects find? (.positive key setting) text (.zero setting)

/-- The variable is there and does not pass the check. -/
def Fails (find? : String → Option TimeZone) (check : Check) (lookup : String → Option String)
    (e : ConfigError) : Prop :=
  ∃ text, lookup check.key = some text ∧ check.Rejects find? text e

/-- Check a text. -/
def test (find? : String → Option TimeZone) : Check → String → Except ConfigError Unit
  | .number key, text => verdict (readNumber key text)
  | .zone, name =>
    if (find? name).isNone then .error (.unknownTimezone name) else .ok ()
  | .positive key setting, text =>
    if readNumber key text = .ok 0 then .error (.zero setting) else .ok ()

/-- Check a variable. -/
def run (find? : String → Option TimeZone) (lookup : String → Option String) (check : Check) :
    Except ConfigError Unit :=
  match lookup check.key with
  | some text => check.test find? text
  | none => .ok ()

variable {find? : String → Option TimeZone}

/-- The test of a text gives the errors of the check. -/
theorem test_error_iff {check : Check} {text : String} {e : ConfigError} :
    check.test find? text = .error e ↔ check.Rejects find? text e := by
  rw [rejects_iff]
  cases check with
  | number key =>
    rw [test, verdict_error_iff, readNumber_error_iff]
    simp
  | zone =>
    rw [test, if_error_iff, Option.isNone_iff_eq_none]
    simp
  | positive key setting =>
    rw [test, if_error_iff, readNumber_ok_iff]
    simp

variable {lookup : String → Option String} {check : Check}

/-- Checking a variable gives the errors of the check. -/
theorem run_error_iff {e : ConfigError} :
    check.run find? lookup = .error e ↔ check.Fails find? lookup e := by
  cases hkey : lookup check.key with
  | none => simp [run, Fails, hkey]
  | some text => simp [run, Fails, hkey, test_error_iff]

/-- A variable passes a check that does not fail. -/
theorem run_ok_iff : check.run find? lookup = .ok () ↔ ∀ e, ¬check.Fails find? lookup e := by
  simp only [← run_error_iff]
  cases check.run find? lookup <;> simp

/-- A variable passes both checks of a number exactly if it is absent or a number of 32 bits other
than zero. -/
theorem number_passes_iff (key setting : String) :
    ((∀ e, ¬(Check.number key).Fails find? lookup e) ∧
        ∀ e, ¬(Check.positive key setting).Fails find? lookup e) ↔
      ∀ text, lookup key = some text → ∃ n : UInt32, n ≠ 0 ∧ WritesNumber text n.toNat := by
  constructor
  · rintro ⟨hnumber, hpositive⟩ text htext
    by_contra hnone
    refine hnumber _ ⟨text, htext, .number fun n hn => hnone ⟨n, ?_, hn⟩⟩
    rintro rfl
    exact hpositive _ ⟨text, htext, .positive hn⟩
  · intro h
    constructor
    · rintro e ⟨text, htext, hrejects⟩
      obtain ⟨n, -, hn⟩ := h text htext
      cases hrejects with
      | number hnone => exact hnone n hn
    · rintro e ⟨text, htext, hrejects⟩
      obtain ⟨n, hne, hn⟩ := h text htext
      cases hrejects with
      | positive hzero => exact hne (UInt32.toNat_inj.1 (hn.unique hzero))

/-- The zone passes its check exactly if it is absent or known. -/
theorem zone_passes_iff : (∀ e, ¬Check.zone.Fails find? lookup e) ↔
    ∀ name, lookup "ROWKIT_TIMEZONE" = some name → ∃ zone, find? name = some zone := by
  constructor
  · intro h name hname
    rw [← Option.ne_none_iff_exists']
    exact fun hnone => h _ ⟨name, hname, .zone hnone⟩
  · rintro h e ⟨name, hname, hrejects⟩
    obtain ⟨zone, hzone⟩ := h name hname
    cases hrejects with
    | zone hnone => cases hzone.symm.trans hnone

end Check

/-- The checks while the variables are read. -/
def readingChecks : List Check :=
  [.number "ROWKIT_MAX_CONNECTIONS", .number "ROWKIT_ACQUIRE_TIMEOUT",
    .number "ROWKIT_MAX_ATTEMPTS"]

/-- The checks of the settings that were read. -/
def settingChecks : List Check :=
  [.zone, .positive "ROWKIT_MAX_ATTEMPTS" "max_attempts",
    .positive "ROWKIT_ACQUIRE_TIMEOUT" "acquire_timeout_secs",
    .positive "ROWKIT_MAX_CONNECTIONS" "max_connections"]

/-- The checks of the variables, in their order. -/
def checks : List Check :=
  readingChecks ++ settingChecks

/-- The error belongs to the first check that fails. -/
def FirstFailure (find? : String → Option TimeZone) (lookup : String → Option String)
    (e : ConfigError) : Prop :=
  ∃ before check rest, checks = before ++ check :: rest ∧
    (∀ earlier ∈ before, ∀ other, ¬earlier.Fails find? lookup other) ∧ check.Fails find? lookup e

/-- The variables that hold numbers. -/
def numberKeys : List String :=
  ["ROWKIT_MAX_CONNECTIONS", "ROWKIT_ACQUIRE_TIMEOUT", "ROWKIT_MAX_ATTEMPTS"]

variable {find? : String → Option TimeZone} {read? : String → Option Config}
  {lookup : String → Option String}

/-- A number is looked up exactly where its variable passes the check. -/
theorem verdict_lookupNumber (key : String) (default : UInt32) :
    verdict (lookupNumber lookup key default) = Check.run find? lookup (.number key) := by
  cases hkey : lookup key <;> simp only [lookupNumber, Check.run, Check.key, hkey] <;> rfl

/-- A number that was looked up, with a default other than zero, is zero exactly where its variable
does not pass the check. -/
theorem run_positive {key : String} {default n : UInt32} (hdefault : default ≠ 0)
    (h : lookupNumber lookup key default = .ok n) (setting : String) :
    Check.run find? lookup (.positive key setting) =
      if n = 0 then .error (.zero setting) else .ok () := by
  cases hkey : lookup key with
  | none =>
    simp only [lookupNumber, hkey] at h
    cases h
    simp only [Check.run, Check.key, hkey, if_neg hdefault]
  | some text =>
    simp only [lookupNumber, hkey] at h
    simp [Check.run, Check.key, Check.test, hkey, h]

/-- A configuration whose zone is known has that zone. -/
theorem zone_of_find? {c : Config} {zone : TimeZone} (h : find? c.timezone = some zone) :
    c.zone find? = .ok zone := by
  rw [Config.zone, h]

/-- A configuration with the zone of the variable has a zone exactly where the variable passes the
check. -/
theorem verdict_zone (hdefault : (find? defaultTimezone).isSome = true) {c : Config}
    (h : c.timezone = (lookup "ROWKIT_TIMEZONE").getD defaultTimezone) :
    verdict (c.zone find?) = Check.run find? lookup .zone := by
  obtain ⟨zone, hdefault⟩ := Option.isSome_iff_exists.1 hdefault
  cases hname : lookup "ROWKIT_TIMEZONE" with
  | none =>
    rw [hname, Option.getD_none] at h
    rw [← h] at hdefault
    rw [zone_of_find? hdefault, Check.run, Check.key, hname]
    rfl
  | some name =>
    rw [hname, Option.getD_some] at h
    rw [Config.zone, h, Check.run, Check.key, hname]
    cases hfind : find? name <;> simp [Check.test, hfind, verdict, Except.map]

/-- The settings that were read are checked by the checks of their variables. -/
theorem validate_eq_forM (hdefault : (find? defaultTimezone).isSome = true) {c : Config}
    {timeout : UInt32}
    (hzone : c.timezone = (lookup "ROWKIT_TIMEZONE").getD defaultTimezone)
    (hattempts : lookupNumber lookup "ROWKIT_MAX_ATTEMPTS" ({} : Config).maxAttempts =
      .ok c.maxAttempts)
    (htimeout : lookupNumber lookup "ROWKIT_ACQUIRE_TIMEOUT"
      ({} : Config).acquireTimeoutSecs.toUInt32 = .ok timeout)
    (hseconds : c.acquireTimeoutSecs = timeout.toUInt64)
    (hconnections : lookupNumber lookup "ROWKIT_MAX_CONNECTIONS" ({} : Config).maxConnections =
      .ok c.maxConnections) :
    verdict (c.validate find?) = settingChecks.forM (Check.run find? lookup) := by
  have hzero : c.acquireTimeoutSecs = 0 ↔ timeout = 0 := by
    rw [hseconds]
    simp [← UInt64.toNat_inj, ← UInt32.toNat_inj]
  rw [validate, settingChecks, forM_cons, ← verdict_zone hdefault hzone]
  refine verdict_bind fun zone _ => ?_
  rw [forM_cons, forM_cons, forM_cons, run_positive (by decide) hattempts,
    run_positive (by decide) htimeout, run_positive (by decide) hconnections]
  simp only [hzero]
  split
  · rfl
  · split
    · rfl
    · split <;> rfl

/-- The verdict on the variables is that of their checks. -/
theorem verdict_ofLookup (hdefault : (find? defaultTimezone).isSome = true) :
    verdict (ofLookup lookup find?) = checks.forM (Check.run find? lookup) := by
  rw [ofLookup, checks, readingChecks]
  simp only [List.cons_append, List.nil_append]
  rw [forM_cons, ← verdict_lookupNumber _ ({} : Config).maxConnections]
  refine verdict_bind fun connections hconnections => ?_
  rw [forM_cons, ← verdict_lookupNumber _ ({} : Config).acquireTimeoutSecs.toUInt32]
  refine verdict_bind fun timeout htimeout => ?_
  rw [forM_cons, ← verdict_lookupNumber _ ({} : Config).maxAttempts]
  refine verdict_bind fun attempts hattempts => ?_
  rw [verdict_bind_of_ok fun _ _ => rfl]
  exact validate_eq_forM hdefault rfl hattempts htimeout rfl hconnections

/-- The variables give a configuration exactly if each number is absent or a number of 32 bits other
than zero, and the zone is absent or known. -/
theorem ofLookup_ok_iff (hdefault : (find? defaultTimezone).isSome = true) :
    (∃ c, ofLookup lookup find? = .ok c) ↔
      (∀ key ∈ numberKeys, ∀ text, lookup key = some text →
        ∃ n : UInt32, n ≠ 0 ∧ WritesNumber text n.toNat) ∧
      ∀ name, lookup "ROWKIT_TIMEZONE" = some name → ∃ zone, find? name = some zone := by
  rw [← verdict_ok_iff, verdict_ofLookup hdefault, forM_ok_iff]
  simp only [Check.run_ok_iff, numberKeys, List.forall_mem_cons]
  rw [← Check.number_passes_iff "ROWKIT_MAX_CONNECTIONS" "max_connections",
    ← Check.number_passes_iff "ROWKIT_ACQUIRE_TIMEOUT" "acquire_timeout_secs",
    ← Check.number_passes_iff "ROWKIT_MAX_ATTEMPTS" "max_attempts", ← Check.zone_passes_iff]
  simp only [checks, readingChecks, settingChecks, List.cons_append, List.nil_append,
    List.forall_mem_cons]
  tauto

/-- The variables give an error exactly if it belongs to the first check that fails. -/
theorem ofLookup_error_iff (hdefault : (find? defaultTimezone).isSome = true) {e : ConfigError} :
    ofLookup lookup find? = .error e ↔ FirstFailure find? lookup e := by
  rw [← verdict_error_iff, verdict_ofLookup hdefault, forM_error_iff]
  simp only [Check.run_ok_iff, Check.run_error_iff]
  rfl

/-- A configuration passes its checks exactly if its zone is known and its numbers are not zero. -/
theorem validate_ok_iff {c : Config} : c.validate find? = .ok () ↔
    (∃ zone, find? c.timezone = some zone) ∧ c.maxAttempts ≠ 0 ∧
      c.acquireTimeoutSecs ≠ 0 ∧ c.maxConnections ≠ 0 := by
  rw [validate, zone]
  cases find? c.timezone with
  | none => simp [bind, Except.bind]
  | some zone =>
    simp only [bind, Except.bind]
    split_ifs with hattempts htimeout hconnections
    · simp [hattempts]
    · simp [htimeout]
    · simp [hconnections]
    · simp [hattempts, htimeout, hconnections]

/-- A configuration from variables has passed its checks. -/
theorem validate_of_ofLookup {c : Config} (h : ofLookup lookup find? = .ok c) :
    c.validate find? = .ok () := by
  obtain ⟨connections, -, h⟩ := ok_of_bind h
  obtain ⟨timeout, -, h⟩ := ok_of_bind h
  obtain ⟨attempts, -, h⟩ := ok_of_bind h
  obtain ⟨⟨⟩, hvalid, h⟩ := ok_of_bind h
  cases h
  exact hvalid

/-- A configuration from a file has passed its checks. -/
theorem validate_of_ofFile {path : String} {contents : Option String} {c : Config}
    (h : ofFile path contents find? read? = .ok c) : c.validate find? = .ok () := by
  unfold ofFile at h
  dsimp only at h
  split at h
  · obtain ⟨_, -, h⟩ := ok_of_bind h
    split at h
    · obtain ⟨_, -, h⟩ := ok_of_bind h
      obtain ⟨⟨⟩, hvalid, h⟩ := ok_of_bind h
      cases h
      exact hvalid
    · cases h
  · cases h

/-- A number of attempts that is not zero is not raised to one. -/
theorem max_one_of_ne_zero {n : UInt32} (h : n ≠ 0) : max 1 n = n := by
  have hpos : n.toNat ≠ 0 := fun hzero => h (UInt32.toNat_inj.1 hzero)
  have hle : 1 ≤ n := UInt32.le_iff_toNat_le.2 (Nat.one_le_iff_ne_zero.2 hpos)
  exact if_pos hle

/-- The settings of a configuration that has passed its checks are those that it names. -/
theorem engineSettings_of_validate {c : Config} (h : c.validate find? = .ok ()) :
    ∃ zone, find? c.timezone = some zone ∧
      c.engineSettings find? = .ok ⟨c.maxAttempts, zone, c.logStatements⟩ := by
  obtain ⟨⟨zone, hzone⟩, hattempts, -⟩ := validate_ok_iff.1 h
  refine ⟨zone, hzone, ?_⟩
  rw [engineSettings, zone_of_find? hzone, max_one_of_ne_zero hattempts]
  rfl

/-- A loaded configuration can always be used, whichever zones are known with the default one among
them, and however files are read. Variables give a configuration exactly if each number among them
is absent or a number of 32 bits other than zero, and the zone is absent or known; otherwise the
error is that of the first check that fails. For a configuration from variables or from a file an
engine can be made, and its settings are the attempts, the zone and the flag of the
configuration. -/
theorem loaded_usable (find? : String → Option TimeZone)
    (hdefault : (find? defaultTimezone).isSome = true) (read? : String → Option Config)
    (lookup : String → Option String) :
    ((∃ c, ofLookup lookup find? = .ok c) ↔
      (∀ key ∈ numberKeys, ∀ text, lookup key = some text →
        ∃ n : UInt32, n ≠ 0 ∧ WritesNumber text n.toNat) ∧
      ∀ name, lookup "ROWKIT_TIMEZONE" = some name → ∃ zone, find? name = some zone) ∧
    (∀ e, ofLookup lookup find? = .error e ↔ FirstFailure find? lookup e) ∧
    ∀ c, (ofLookup lookup find? = .ok c ∨
        ∃ path contents, ofFile path contents find? read? = .ok c) →
      ∃ zone, find? c.timezone = some zone ∧
        c.engineSettings find? = .ok ⟨c.maxAttempts, zone, c.logStatements⟩ ∧
        ∀ (σ : Type) (backend : Backend σ) (start : σ), Engine.ofConfig backend start c find? =
          .ok (⟨backend, ⟨c.maxAttempts, zone, c.logStatements⟩⟩,
            Session.start start c.cacheSchema) := by
  refine ⟨ofLookup_ok_iff hdefault, fun _ => ofLookup_error_iff hdefault, fun c hloaded => ?_⟩
  have hvalid : c.validate find? = .ok () := by
    rcases hloaded with hlookup | ⟨path, contents, hfile⟩
    · exact validate_of_ofLookup hlookup
    · exact validate_of_ofFile hfile
  obtain ⟨zone, hzone, hsettings⟩ := engineSettings_of_validate hvalid
  refine ⟨zone, hzone, hsettings, fun σ backend start => ?_⟩
  rw [Engine.ofConfig, hsettings]
  rfl

/-- The zone that is used without the variable is known. -/
theorem find?_defaultTimezone : (TimeZone.find? defaultTimezone).isSome = true := by
  decide +kernel

/-- Three attempts, written with a sign, a zero and blanks, are the attempts of the engine. -/
theorem loaded_usable_attempts :
    ∃ c, ofLookup ([("ROWKIT_MAX_ATTEMPTS", " +03 "), ("ROWKIT_TIMEZONE", "UTC")].lookup ·) =
        .ok c ∧
      ∃ zone, TimeZone.find? "UTC" = some zone ∧ c.engineSettings = .ok ⟨3, zone, false⟩ := by
  have hload : ofLookup
      ([("ROWKIT_MAX_ATTEMPTS", " +03 "), ("ROWKIT_TIMEZONE", "UTC")].lookup ·) =
        .ok { maxAttempts := 3, timezone := "UTC" } := by
    decide +kernel
  obtain ⟨-, -, husable⟩ := loaded_usable TimeZone.find? find?_defaultTimezone ofText?
    ([("ROWKIT_MAX_ATTEMPTS", " +03 "), ("ROWKIT_TIMEZONE", "UTC")].lookup ·)
  obtain ⟨zone, hzone, hsettings, -⟩ := husable _ (.inl hload)
  exact ⟨_, hload, zone, hzone, hsettings⟩

/-- What is no number is reported before an unknown zone, and that before a zero. -/
example : ofLookup ([("ROWKIT_MAX_CONNECTIONS", "0"), ("ROWKIT_ACQUIRE_TIMEOUT", "x"),
    ("ROWKIT_TIMEZONE", "Mars")].lookup ·) =
      .error (.invalidNumber "ROWKIT_ACQUIRE_TIMEOUT" "x") := by
  decide +kernel

end Config

end TableQuery
