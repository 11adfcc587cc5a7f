import AccountMigration.Proofs.Settings.RoleText
import AccountMigration.Settings.Environment

/-!
# Variables and the settings that they are read into

Every variable has a setting of its own.  Eight variables can be refused: words that name nothing,
role mappings that cannot be read, and sizes of zero.  The settings of an environment are refused
for the first such variable, in the order in which the variables are looked at, and no variable
shows in the setting of another one.

* `Choice.IsAccepted` and `Choice.IsRefused`: words for a choice.
* `Variable`, `Variable.name` and `Variable.checked`: the variables, and the order of those that can
  be refused.
* `Variable.Accepts` and `Variable.Refuses`: what a variable may hold, and the error when it holds
  something else.
* `Variable.ReadsAs` and `Environment.settings_eq_ok_iff`: the setting that a variable is read into.
* `Environment.settings_of_variables`: when settings are accepted, which error is reported
  otherwise, and that variables do not interfere.
-/

namespace AccountMigration

open Text

/-! ## Words -/

/-- The list of the values of a type leaves none out. -/
class Named.Complete
    (α : Type)
    [Named α] : Prop where
  mem_all : ∀ a : α, a ∈ (Named.all : List α)

instance : Named.Complete DedupKey where
  mem_all := by
    intro a
    cases a <;> simp [Named.all]

instance : Named.Complete DedupStrategy where
  mem_all := by
    intro a
    cases a <;> simp [Named.all]

instance : Named.Complete ConflictStrategy where
  mem_all := by
    intro a
    cases a <;> simp [Named.all]

instance : Named.Complete PasswordStrategy where
  mem_all := by
    intro a
    cases a <;> simp [Named.all]

instance : Named.Complete IdStrategy where
  mem_all := by
    intro a
    cases a <;> simp [Named.all]

namespace Choice

variable (α : Type) [Choice α]

/-- The text without blanks around it is the name of a value, in any case of the ASCII letters. -/
def IsKnown
    (s : String) : Prop :=
  ∃ a : α, lowerAscii (trim s) = Named.name a

/-- No text, a blank text or the name of a value. -/
def IsAccepted
    (text : Option String) : Prop :=
  ∀ s ∈ text, isBlankText s = true ∨ IsKnown α s

/-- A text that is neither blank nor the name of a value, with the error that quotes it. -/
structure IsRefused
    (s : String)
    (cause : ConfigError) : Prop where
  not_blank : isBlankText s = false
  unknown : ¬ IsKnown α s
  cause_eq : cause = .unknownWord (Choice.setting α) (lowerAscii (trim s))

variable {α} [Named.Complete α]

theorem read_of_known
    {s : String}
    (hknown : IsKnown α s) :
    ∃ a : α, Choice.read s = .ok a := by
  obtain ⟨a, ha⟩ := hknown
  have hfound : (Named.ofName? (Choice.word s) : Option α).isSome := by
    rw [Named.ofName?, List.find?_isSome]
    exact ⟨a, Named.Complete.mem_all a, by simp [Choice.word, ha]⟩
  obtain ⟨b, hb⟩ := Option.isSome_iff_exists.mp hfound
  exact ⟨b, by rw [Choice.read, hb]⟩

omit [Named.Complete α] in
theorem read_of_unknown
    {s : String}
    (hunknown : ¬ IsKnown α s) :
    (Choice.read s : Except ConfigError α) =
      .error (.unknownWord (Choice.setting α) (lowerAscii (trim s))) := by
  have hnone : (Named.ofName? (Choice.word s) : Option α) = none := by
    rw [Named.ofName?, List.find?_eq_none]
    intro a _ ha
    exact hunknown ⟨a, (eq_of_beq ha).symm⟩
  rw [Choice.read, hnone]
  rfl

end Choice

/-! ## The variables -/

/-- The variables that settings are read from. -/
inductive Variable where
  | batchSize
  | workers
  | dryRun
  | dedupKey
  | dedupStrategy
  | onConflict
  | passwordStrategy
  | passwordAlgorithm
  | idStrategy
  | roleMap
  | baseUrl
  | apiKey
  | applicationId
  | timeout

namespace Variable

/-- The name of a variable. -/
def name : Variable → String
  | .batchSize => "MIGRATION_BATCH_SIZE"
  | .workers => "MIGRATION_WORKERS"
  | .dryRun => "MIGRATION_DRY_RUN"
  | .dedupKey => "MIGRATION_DEDUP_KEY"
  | .dedupStrategy => "MIGRATION_DEDUP_STRATEGY"
  | .onConflict => "MIGRATION_ON_CONFLICT"
  | .passwordStrategy => "MIGRATION_PASSWORD_STRATEGY"
  | .passwordAlgorithm => "MIGRATION_PASSWORD_ALGORITHM"
  | .idStrategy => "MIGRATION_ID_STRATEGY"
  | .roleMap => "MIGRATION_ROLE_MAP"
  | .baseUrl => "TARGET_BASE_URL"
  | .apiKey => "TARGET_API_KEY"
  | .applicationId => "TARGET_APPLICATION_ID"
  | .timeout => "TARGET_TIMEOUT_MS"

/-- The variables that can be refused, in the order in which they are looked at. -/
def checked : List Variable :=
  [.dedupKey, .dedupStrategy, .roleMap, .idStrategy, .passwordStrategy, .onConflict, .batchSize,
    .workers]

/-- What a variable may hold. -/
def Accepts : Variable → Option String → Prop
  | .dedupKey => Choice.IsAccepted DedupKey
  | .dedupStrategy => Choice.IsAccepted DedupStrategy
  | .onConflict => Choice.IsAccepted ConflictStrategy
  | .passwordStrategy => Choice.IsAccepted PasswordStrategy
  | .idStrategy => Choice.IsAccepted IdStrategy
  | .roleMap => fun text => ∀ s ∈ text, RoleMap.IsWritten s
  | .batchSize | .workers => fun text => ∀ s ∈ text, ¬ Numeral.IsZero s.toList
  | .dryRun | .passwordAlgorithm | .baseUrl | .apiKey | .applicationId | .timeout => fun _ => True

/-- What a variable may not hold, with the error. -/
def Refuses : Variable → String → ConfigError → Prop
  | .dedupKey => Choice.IsRefused DedupKey
  | .dedupStrategy => Choice.IsRefused DedupStrategy
  | .onConflict => Choice.IsRefused ConflictStrategy
  | .passwordStrategy => Choice.IsRefused PasswordStrategy
  | .idStrategy => Choice.IsRefused IdStrategy
  | .roleMap => RoleMap.IsRefused
  | .batchSize => fun s cause => Numeral.IsZero s.toList ∧ cause = .zeroBatchSize
  | .workers => fun s cause => Numeral.IsZero s.toList ∧ cause = .zeroWorkers
  | .dryRun | .passwordAlgorithm | .baseUrl | .apiKey | .applicationId | .timeout =>
      fun _ _ => False

/-- Two settings agree in the setting of a variable. -/
def SameIn
    (s t : Settings) : Variable → Prop
  | .batchSize => s.batchSize = t.batchSize
  | .workers => s.workers = t.workers
  | .dryRun => s.dryRun = t.dryRun
  | .dedupKey => s.dedup.key = t.dedup.key
  | .dedupStrategy => s.dedup.strategy = t.dedup.strategy
  | .onConflict => s.onConflict = t.onConflict
  | .passwordStrategy => s.entries.passwords = t.entries.passwords
  | .passwordAlgorithm => s.entries.algorithm = t.entries.algorithm
  | .idStrategy => s.entries.ids = t.entries.ids
  | .roleMap => s.entries.roles = t.entries.roles
  | .baseUrl => s.service.baseUrl = t.service.baseUrl
  | .apiKey => s.service.apiKey = t.service.apiKey
  | .applicationId => s.service.applicationId = t.service.applicationId
  | .timeout => s.service.timeoutMillis = t.service.timeoutMillis

/-- A variable is read into its setting. -/
def ReadsAs
    (env : Environment)
    (s : Settings) : Variable → Prop
  | .batchSize => env.natOr batchSize.name 50 = s.batchSize
  | .workers => env.natOr workers.name 4 = s.workers
  | .dryRun => env.flagOr dryRun.name true = s.dryRun
  | .dedupKey => env.choiceOr dedupKey.name .email = .ok s.dedup.key
  | .dedupStrategy => env.choiceOr dedupStrategy.name .keepLatest = .ok s.dedup.strategy
  | .onConflict => env.choiceOr onConflict.name .skip = .ok s.onConflict
  | .passwordStrategy => env.choiceOr passwordStrategy.name .transfer = .ok s.entries.passwords
  | .passwordAlgorithm => env.textOr passwordAlgorithm.name "bcrypt" = s.entries.algorithm
  | .idStrategy => env.choiceOr idStrategy.name .preserveUuid = .ok s.entries.ids
  | .roleMap => env.roles roleMap.name = .ok s.entries.roles
  | .baseUrl => env.textOr baseUrl.name "http://localhost:3000" = s.service.baseUrl
  | .apiKey => env.textOr apiKey.name "" = s.service.apiKey
  | .applicationId => env.textOr applicationId.name "" = s.service.applicationId
  | .timeout => env.natOr timeout.name 30000 = s.service.timeoutMillis

/-- Whether a variable is refused, and why. -/
def check
    (env : Environment) : Variable → Except ConfigError Unit
  | .dedupKey => verdict (env.choiceOr dedupKey.name DedupKey.email)
  | .dedupStrategy => verdict (env.choiceOr dedupStrategy.name DedupStrategy.keepLatest)
  | .onConflict => verdict (env.choiceOr onConflict.name ConflictStrategy.skip)
  | .passwordStrategy => verdict (env.choiceOr passwordStrategy.name PasswordStrategy.transfer)
  | .idStrategy => verdict (env.choiceOr idStrategy.name IdStrategy.preserveUuid)
  | .roleMap => verdict (env.roles roleMap.name)
  | .batchSize => if env.natOr batchSize.name 50 = 0 then .error .zeroBatchSize else .ok ()
  | .workers => if env.natOr workers.name 4 = 0 then .error .zeroWorkers else .ok ()
  | .dryRun | .passwordAlgorithm | .baseUrl | .apiKey | .applicationId | .timeout => .ok ()

end Variable

namespace Environment

variable {env other : Environment} {s t : Settings} {cause : ConfigError}

/-! ## Checks of single variables -/

section Check

variable {variableName : String}

theorem verdict_choiceOr_eq_ok_iff
    {α : Type}
    [Choice α]
    [Named.Complete α]
    {default : α} :
    verdict (env.choiceOr variableName default) = .ok () ↔
      Choice.IsAccepted α (env.text? variableName) := by
  rw [choiceOr, Choice.IsAccepted]
  cases env.text? variableName with
  | none =>
      simp
  | some word =>
      by_cases hblank : isBlankText word = true
      · simp [hblank]
      · by_cases hknown : Choice.IsKnown α word
        · simp [hblank, hknown, verdict_eq_ok_iff, Choice.read_of_known hknown]
        · simp [hblank, hknown, Choice.read_of_unknown hknown]

theorem verdict_choiceOr_eq_error_iff
    {α : Type}
    [Choice α]
    [Named.Complete α]
    {default : α} :
    verdict (env.choiceOr variableName default) = .error cause ↔
      ∃ word ∈ env.text? variableName, Choice.IsRefused α word cause := by
  rw [choiceOr]
  cases env.text? variableName with
  | none =>
      simp
  | some word =>
      by_cases hblank : isBlankText word = true
      · simp only [hblank, if_true, verdict_ok, reduceCtorEq, false_iff]
        rintro ⟨_, ⟨⟩, hrefused⟩
        rw [hrefused.not_blank] at hblank
        cases hblank
      · by_cases hknown : Choice.IsKnown α word
        · obtain ⟨a, ha⟩ := Choice.read_of_known hknown
          simp only [hblank, if_false, ha, verdict_ok, reduceCtorEq, false_iff, Bool.false_eq_true]
          rintro ⟨_, ⟨⟩, hrefused⟩
          exact hrefused.unknown hknown
        · simp only [hblank, if_false, Choice.read_of_unknown hknown, verdict_error,
            Except.error.injEq, Bool.false_eq_true]
          constructor
          · rintro rfl
            exact ⟨word, rfl, eq_false_of_ne_true hblank, hknown, rfl⟩
          · rintro ⟨_, ⟨⟩, hrefused⟩
            exact hrefused.cause_eq.symm

theorem natOr_eq_zero_iff
    {default : Nat}
    (hdefault : default ≠ 0) :
    env.natOr variableName default = 0 ↔
      ∃ text ∈ env.text? variableName, Numeral.IsZero text.toList := by
  rw [natOr]
  cases env.text? variableName with
  | none =>
      simp [hdefault]
  | some text =>
      have hzero := @Numeral.natUpTo?_eq_zero_iff text.toList Numeral.maxWord
      cases hread : Numeral.natUpTo? Numeral.maxWord text.toList with
      | none =>
          simp [hread, hdefault, ← hzero]
      | some n =>
          simp [hread, ← hzero]

section Size

variable {default : Nat} {refusal : ConfigError} (hdefault : default ≠ 0)
include hdefault

theorem size_eq_ok_iff :
    (if env.natOr variableName default = 0 then Except.error refusal else .ok ()) = .ok () ↔
      ∀ text ∈ env.text? variableName, ¬ Numeral.IsZero text.toList := by
  have hzero := @natOr_eq_zero_iff env variableName default hdefault
  split
  · next h => simpa using hzero.mp h
  · next h => simpa [hzero] using h

theorem size_eq_error_iff :
    (if env.natOr variableName default = 0 then Except.error refusal else .ok ()) = .error cause ↔
      ∃ text ∈ env.text? variableName, Numeral.IsZero text.toList ∧ cause = refusal := by
  have hzero := @natOr_eq_zero_iff env variableName default hdefault
  simp only [← and_assoc, exists_and_right, ← hzero]
  split
  · next h => simp [h, eq_comm]
  · next h => simp [h]

end Size

theorem verdict_roles_eq_ok_iff :
    verdict (env.roles variableName) = .ok () ↔
      ∀ text ∈ env.text? variableName, RoleMap.IsWritten text := by
  rw [roles]
  cases env.text? variableName with
  | none =>
      simp
  | some text =>
      simp [verdict_eq_ok_iff, RoleMap.exists_ofText_iff]

theorem verdict_roles_eq_error_iff :
    verdict (env.roles variableName) = .error cause ↔
      ∃ text ∈ env.text? variableName, RoleMap.IsRefused text cause := by
  rw [roles]
  cases env.text? variableName with
  | none =>
      simp
  | some text =>
      simp [verdict_eq_error_iff, RoleMap.ofText_eq_error_iff]

end Check

end Environment

namespace Variable

variable {env other : Environment} {s t : Settings} {cause : ConfigError}

theorem check_eq_ok_iff
    (v : Variable) :
    v.check env = .ok () ↔ v.Accepts (env.text? v.name) := by
  cases v with
  | dedupKey | dedupStrategy | onConflict | passwordStrategy | idStrategy =>
      exact Environment.verdict_choiceOr_eq_ok_iff
  | roleMap =>
      exact Environment.verdict_roles_eq_ok_iff
  | batchSize | workers =>
      exact Environment.size_eq_ok_iff (by decide)
  | dryRun | passwordAlgorithm | baseUrl | apiKey | applicationId | timeout =>
      exact iff_of_true rfl trivial

theorem check_eq_error_iff
    (v : Variable) :
    v.check env = .error cause ↔ ∃ text ∈ env.text? v.name, v.Refuses text cause := by
  cases v with
  | dedupKey | dedupStrategy | onConflict | passwordStrategy | idStrategy =>
      exact Environment.verdict_choiceOr_eq_error_iff
  | roleMap =>
      exact Environment.verdict_roles_eq_error_iff
  | batchSize | workers =>
      exact Environment.size_eq_error_iff (by decide)
  | dryRun | passwordAlgorithm | baseUrl | apiKey | applicationId | timeout =>
      simp [check, Refuses]

/-- A variable is read into its setting alike wherever it has the same text. -/
theorem readsAs_congr
    (v : Variable)
    (htext : other.text? v.name = env.text? v.name) :
    v.ReadsAs other s ↔ v.ReadsAs env s := by
  cases v <;>
    simp only [ReadsAs, Environment.choiceOr, Environment.natOr, Environment.flagOr,
      Environment.textOr, Environment.roles, htext]

/-- A variable has one setting. -/
theorem ReadsAs.sameIn
    {v : Variable}
    (hs : v.ReadsAs env s)
    (ht : v.ReadsAs env t) :
    v.SameIn s t := by
  cases v with
  | dedupKey | dedupStrategy | onConflict | passwordStrategy | idStrategy | roleMap =>
      exact Except.ok.inj (hs.symm.trans ht)
  | batchSize | workers | dryRun | passwordAlgorithm | baseUrl | apiKey | applicationId | timeout =>
      exact hs.symm.trans ht

/-- There are no other settings than those of the variables. -/
theorem eq_of_sameIn
    (hsame : ∀ v : Variable, v.SameIn s t) :
    s = t := by
  obtain ⟨batchSize, workers, dryRun, ⟨key, strategy⟩, onConflict, ⟨ids, passwords, algorithm,
    roles⟩, ⟨baseUrl, apiKey, applicationId, timeout⟩⟩ := s
  obtain ⟨batchSize', workers', dryRun', ⟨key', strategy'⟩, onConflict', ⟨ids', passwords',
    algorithm', roles'⟩, ⟨baseUrl', apiKey', applicationId', timeout'⟩⟩ := t
  obtain rfl : batchSize = batchSize' := hsame .batchSize
  obtain rfl : workers = workers' := hsame .workers
  obtain rfl : dryRun = dryRun' := hsame .dryRun
  obtain rfl : key = key' := hsame .dedupKey
  obtain rfl : strategy = strategy' := hsame .dedupStrategy
  obtain rfl : onConflict = onConflict' := hsame .onConflict
  obtain rfl : ids = ids' := hsame .idStrategy
  obtain rfl : passwords = passwords' := hsame .passwordStrategy
  obtain rfl : algorithm = algorithm' := hsame .passwordAlgorithm
  obtain rfl : roles = roles' := hsame .roleMap
  obtain rfl : baseUrl = baseUrl' := hsame .baseUrl
  obtain rfl : apiKey = apiKey' := hsame .apiKey
  obtain rfl : applicationId = applicationId' := hsame .applicationId
  obtain rfl : timeout = timeout' := hsame .timeout
  rfl

end Variable

/-! ## The settings of an environment -/

namespace Environment

variable {env other : Environment} {s t : Settings} {cause : ConfigError}

/-- The variables are checked in their order. -/
theorem verdict_settings
    (env : Environment) :
    verdict env.settings = Variable.checked.forM (Variable.check env) := by
  refine verdict_bind rfl fun key => verdict_bind rfl fun strategy => verdict_bind rfl fun roles =>
    verdict_bind rfl fun ids => verdict_bind rfl fun passwords => verdict_bind rfl fun onConflict =>
    ?_
  simp only [Settings.validate]
  split
  · next hbatch =>
    have hrefused : Variable.check env .batchSize = .error .zeroBatchSize := if_pos hbatch
    rw [forM_cons_of_error hrefused]
    rfl
  · next hbatch =>
    have haccepted : Variable.check env .batchSize = .ok () := if_neg hbatch
    rw [forM_cons_of_ok haccepted]
    split
    · next hworkers =>
      have hrefused : Variable.check env .workers = .error .zeroWorkers := if_pos hworkers
      rw [forM_cons_of_error hrefused]
      rfl
    · next hworkers =>
      have haccepted : Variable.check env .workers = .ok () := if_neg hworkers
      rw [forM_cons_of_ok haccepted]
      rfl

/-- Settings are what their variables are read into, and can be worked with. -/
theorem settings_eq_ok_iff :
    env.settings = .ok s ↔ (∀ v : Variable, v.ReadsAs env s) ∧ s.Valid := by
  simp only [settings, bind_eq_ok_iff]
  constructor
  · rintro ⟨key, hkey, strategy, hstrategy, roles, hroles, ids, hids, passwords, hpasswords,
      onConflict, honConflict, _, hvalid, hs⟩
    cases hs
    refine ⟨fun v => ?_, (Settings.validate_eq_ok_iff _).mp hvalid⟩
    cases v with
    | dedupKey => exact hkey
    | dedupStrategy => exact hstrategy
    | roleMap => exact hroles
    | idStrategy => exact hids
    | passwordStrategy => exact hpasswords
    | onConflict => exact honConflict
    | batchSize | workers | dryRun | passwordAlgorithm | baseUrl | apiKey | applicationId
    | timeout => rfl
  · rintro ⟨hreads, hvalid⟩
    let built : Settings :=
      { batchSize := env.natOr "MIGRATION_BATCH_SIZE" 50
        workers := env.natOr "MIGRATION_WORKERS" 4
        dryRun := env.flagOr "MIGRATION_DRY_RUN" true
        dedup := s.dedup
        onConflict := s.onConflict
        entries :=
          { s.entries with algorithm := env.textOr "MIGRATION_PASSWORD_ALGORITHM" "bcrypt" }
        service := env.service }
    have hbuilt : built = s := Variable.eq_of_sameIn fun v => by
      cases v with
      | dedupKey | dedupStrategy | roleMap | idStrategy | passwordStrategy | onConflict => rfl
      | batchSize => exact hreads .batchSize
      | workers => exact hreads .workers
      | dryRun => exact hreads .dryRun
      | passwordAlgorithm => exact hreads .passwordAlgorithm
      | baseUrl => exact hreads .baseUrl
      | apiKey => exact hreads .apiKey
      | applicationId => exact hreads .applicationId
      | timeout => exact hreads .timeout
    have haccepted : built.validate = .ok () := by
      rw [hbuilt, Settings.validate_eq_ok_iff]
      exact hvalid
    exact ⟨_, hreads .dedupKey, _, hreads .dedupStrategy, _, hreads .roleMap, _,
      hreads .idStrategy, _, hreads .passwordStrategy, _, hreads .onConflict, (), haccepted,
      congrArg Except.ok hbuilt⟩

/-- Settings are accepted when each variable is. -/
theorem exists_settings_iff :
    (∃ s, env.settings = .ok s) ↔ ∀ v : Variable, v.Accepts (env.text? v.name) := by
  rw [← verdict_eq_ok_iff, verdict_settings, forM_eq_ok_iff]
  constructor
  · intro hchecked v
    cases v with
    | dryRun | passwordAlgorithm | baseUrl | apiKey | applicationId | timeout =>
        exact trivial
    | dedupKey | dedupStrategy | roleMap | idStrategy | passwordStrategy | onConflict | batchSize
    | workers =>
        exact (Variable.check_eq_ok_iff _).mp (hchecked _ (by simp [Variable.checked]))
  · intro haccepts v _
    exact (Variable.check_eq_ok_iff v).mpr (haccepts v)

/-- Settings are refused for the first variable that is. -/
theorem settings_eq_error_iff :
    env.settings = .error cause ↔
      ∃ before v after, Variable.checked = before ++ v :: after ∧
        (∀ earlier ∈ before, earlier.Accepts (env.text? earlier.name)) ∧
        ∃ text ∈ env.text? v.name, v.Refuses text cause := by
  rw [← verdict_eq_error_iff, verdict_settings, forM_eq_error_iff]
  simp only [Variable.check_eq_ok_iff, Variable.check_eq_error_iff]

/-- Nothing but the texts of the variables is looked at. -/
theorem settings_congr
    (htexts : ∀ v : Variable, other.text? v.name = env.text? v.name) :
    other.settings = env.settings := by
  cases hs : env.settings with
  | ok s =>
      obtain ⟨hreads, hvalid⟩ := settings_eq_ok_iff.mp hs
      exact settings_eq_ok_iff.mpr
        ⟨fun v => (Variable.readsAs_congr v (htexts v)).mpr (hreads v), hvalid⟩
  | error cause =>
      rw [settings_eq_error_iff] at hs ⊢
      simpa only [htexts] using hs

/-- A variable shows in its own setting only. -/
theorem sameIn_of_settings
    {v : Variable}
    (htext : other.text? v.name = env.text? v.name)
    (hs : env.settings = .ok s)
    (ht : other.settings = .ok t) :
    v.SameIn s t := by
  have hreads : v.ReadsAs env s := (settings_eq_ok_iff.mp hs).1 v
  have hothers : v.ReadsAs env t :=
    (Variable.readsAs_congr v htext).mp ((settings_eq_ok_iff.mp ht).1 v)
  exact hreads.sameIn hothers

/-- The settings of an environment are accepted exactly when each variable holds what it may hold,
and are then settings that a run can work with.  Otherwise the first variable that is refused, in
the order of `Variable.checked`, decides the error.  Bytes that are not UTF-8 count as unset, and
a variable that changes shows in no setting but its own. -/
theorem settings_of_variables
    (env : Environment) :
    ((∃ s, env.settings = .ok s) ↔ ∀ v : Variable, v.Accepts (env.text? v.name)) ∧
    (∀ cause, env.settings = .error cause ↔
      ∃ before v after, Variable.checked = before ++ v :: after ∧
        (∀ earlier ∈ before, earlier.Accepts (env.text? earlier.name)) ∧
        ∃ text ∈ env.text? v.name, v.Refuses text cause) ∧
    (∀ s, env.settings = .ok s → (∀ v : Variable, v.ReadsAs env s) ∧ s.validate = .ok ()) ∧
    (∀ other : Environment, (∀ v : Variable, other.text? v.name = env.text? v.name) →
      other.settings = env.settings) ∧
    ∀ (other : Environment) (name : String) (s t : Settings),
      (∀ n, n ≠ name → other.value? n = env.value? n) →
      env.settings = .ok s →
      other.settings = .ok t →
      ∀ v : Variable, v.name ≠ name → v.SameIn s t := by
  refine ⟨exists_settings_iff, fun _ => settings_eq_error_iff, ?_, fun _ => settings_congr, ?_⟩
  · intro s hs
    obtain ⟨hreads, hvalid⟩ := settings_eq_ok_iff.mp hs
    exact ⟨hreads, (Settings.validate_eq_ok_iff s).mpr hvalid⟩
  · intro other name s t hother hs ht v hv
    have htext : other.text? v.name = env.text? v.name := by
      rw [text?, text?, hother v.name hv]
    exact sameIn_of_settings htext hs ht

/-- A word in capitals, and workers that are given as bytes. -/
def wordedVariables
    (workers : List UInt8) : Environment :=
  ofList
    [("MIGRATION_WORKERS", workers),
      ("MIGRATION_DEDUP_KEY", Utf8.bytes " UserName ")]

/-- No workers, and a role without a name in front of them. -/
def refusedVariables : Environment :=
  ofList
    [("MIGRATION_WORKERS", Utf8.bytes "+00"),
      ("MIGRATION_ROLE_MAP", Utf8.bytes "1:admin, -7 : ,x")]

/-- Eight workers become four where their bytes are not UTF-8, and nothing else changes; a role
mapping is looked at before the workers are. -/
theorem settings_of_variables_workers :
    (∃ s t,
      (wordedVariables (Utf8.bytes "8")).settings = .ok s ∧
      (wordedVariables [0xFF]).settings = .ok t ∧
      s.workers = 8 ∧
      t.workers = 4 ∧
      ∀ v : Variable, v.name ≠ "MIGRATION_WORKERS" → v.SameIn s t) ∧
    refusedVariables.settings = .error (.emptyRoleName (-7)) ∧
    ¬ ∀ v : Variable, v.Accepts (refusedVariables.text? v.name) := by
  have hothers : ∀ n, n ≠ "MIGRATION_WORKERS" →
      (wordedVariables [0xFF]).value? n = (wordedVariables (Utf8.bytes "8")).value? n := by
    intro n hn
    simp [wordedVariables, ofList, List.lookup_cons, beq_eq_false_iff_ne.mpr hn]
  have hrefused : refusedVariables.settings = .error (.emptyRoleName (-7)) := rfl
  refine ⟨⟨{ workers := 8, dedup := { key := .username } }, { dedup := { key := .username } },
    rfl, rfl, rfl, rfl, ?_⟩, hrefused, ?_⟩
  · exact (settings_of_variables _).2.2.2.2 _ "MIGRATION_WORKERS" _ _ hothers rfl rfl
  · intro haccepts
    obtain ⟨s, hs⟩ := (settings_of_variables refusedVariables).1.mpr haccepts
    rw [hrefused] at hs
    cases hs

end Environment

end AccountMigration
