import AccountMigration.Proofs.Migration.Courses
import AccountMigration.Proofs.Password.BcryptFormat

/-!
# The warning about malformed hashes

When most hashes are of bcrypt, a run warns of all hashes that are not complete bcrypt hashes.  A
hash of another algorithm is none, so the number that is announced is that of the malformed bcrypt
hashes only when all hashes are of bcrypt.

* `announcedMalformed`: the numbers of malformed hashes that a run announces.
* `SourceRecord.hasBrokenBcrypt` and `SourceRecord.hasForeignHash`: the records that are counted.
* `countP_hashesOf_incomplete`: the hashes that are counted are those of the one and of the other.
* `Migration.warnings_of_imports`: the warnings of a run come from its deduplicated records.
* `Migration.run_announces_incomplete`: what a run announces, and when it is right to.
* `Migration.run_announces_foreignHash`: a run that announces a digest as malformed.
-/

namespace AccountMigration

open Text

/-- The number of malformed hashes that a warning tells. -/
def Warning.malformed? : Warning → Option Nat
  | .unexpectedAlgorithm _ _ => none
  | .malformedBcrypt count => some count

/-- The numbers of malformed hashes that warnings tell. -/
def announcedMalformed
    (warnings : List Warning) : List Nat :=
  warnings.filterMap Warning.malformed?

theorem announcedMalformed_append
    (warnings more : List Warning) :
    announcedMalformed (warnings ++ more) =
      announcedMalformed warnings ++ announcedMalformed more :=
  List.filterMap_append

/-- What is to be announced of a number of hashes: the number, when there are any and most hashes
are of bcrypt. -/
def announcementOf
    (detected : Option HashAlgorithm)
    (count : Nat) : List Nat :=
  if detected = some .bcrypt ∧ 0 < count then [count] else []

/-- Whether a record has a hash of bcrypt that is not complete. -/
def SourceRecord.hasBrokenBcrypt
    (r : SourceRecord) : Bool :=
  r.passwordHash.any fun hash => HashAlgorithm.ofHash hash = .bcrypt && !isCompleteBcrypt hash

/-- Whether a record has a hash of another algorithm than bcrypt. -/
def SourceRecord.hasForeignHash
    (r : SourceRecord) : Bool :=
  r.passwordHash.any fun hash => !isBlankText hash && HashAlgorithm.ofHash hash ≠ .bcrypt

/-- Two numbers are announced alike exactly when the greater one adds nothing or most hashes are not
of bcrypt. -/
theorem announcementOf_add_eq_iff
    {detected : Option HashAlgorithm}
    {count more : Nat} :
    announcementOf detected (count + more) = announcementOf detected count ↔
      (detected = some .bcrypt → more = 0) := by
  unfold announcementOf
  by_cases hdetected : detected = some .bcrypt
  · rcases Nat.eq_zero_or_pos more with hnone | hsome
    · simp [hnone]
    · have hne : more ≠ 0 := Nat.ne_of_gt hsome
      rw [if_pos ⟨hdetected, by omega⟩]
      simp only [hdetected, true_and, forall_const, hne, iff_false]
      split
      · rw [List.singleton_inj]
        omega
      · exact List.cons_ne_nil _ _
  · simp [hdetected]

/-- A hash of bcrypt is not blank. -/
theorem ofHash_ne_bcrypt_of_isBlankText
    {hash : String}
    (hblank : isBlankText hash = true) :
    HashAlgorithm.ofHash hash ≠ .bcrypt := by
  have hunmarked : HashAlgorithm.isMarked hash.toList = false := by
    cases hcs : hash.toList with
    | nil =>
        decide
    | cons c rest =>
        rw [isBlankText, hcs, List.all_cons, Bool.and_eq_true] at hblank
        exact HashAlgorithm.isMarked_eq_false_of_isBlank hblank.1
  rw [HashAlgorithm.ofHash, HashAlgorithm.ofChars_of_not_isMarked hunmarked]
  unfold HashAlgorithm.ofDigestLength
  split <;> decide

section Counts

variable (records : List SourceRecord)

/-- Hashes that are not blank are counted by the records that have them. -/
theorem countP_hashesOf
    {p q : String → Bool}
    (hpq : ∀ hash, (p hash && !isBlankText hash) = q hash) :
    (hashesOf records).countP p = records.countP fun r => r.passwordHash.any q := by
  rw [hashesOf, List.countP_filter, List.countP_filterMap]
  refine List.countP_congr fun r _ => ?_
  cases r.passwordHash with
  | none =>
      rfl
  | some hash =>
      rw [Option.any_some, ← hpq hash]
      rfl

/-- The hashes that are not complete bcrypt hashes are the broken ones of bcrypt and those of other
algorithms. -/
theorem countP_hashesOf_incomplete :
    ((hashesOf records).countP fun hash => !isCompleteBcrypt hash) =
      records.countP SourceRecord.hasBrokenBcrypt + records.countP SourceRecord.hasForeignHash := by
  have hbroken : ((hashesOf records).countP fun hash =>
      !isCompleteBcrypt hash && HashAlgorithm.ofHash hash = .bcrypt) =
      records.countP SourceRecord.hasBrokenBcrypt := by
    refine countP_hashesOf records fun hash => ?_
    -- what has the mark of bcrypt is not blank
    have hnotBlank : HashAlgorithm.ofHash hash = .bcrypt → isBlankText hash = false :=
      fun hbcrypt => eq_false_of_ne_true fun hblank =>
        ofHash_ne_bcrypt_of_isBlankText hblank hbcrypt
    by_cases hbcrypt : HashAlgorithm.ofHash hash = .bcrypt
    · simp [hbcrypt, hnotBlank hbcrypt]
    · simp [hbcrypt]
  have hforeign : ((hashesOf records).countP fun hash =>
      !isCompleteBcrypt hash && !decide (HashAlgorithm.ofHash hash = .bcrypt)) =
      records.countP SourceRecord.hasForeignHash := by
    refine countP_hashesOf records fun hash => ?_
    -- what is complete is of bcrypt
    have hincomplete : HashAlgorithm.ofHash hash ≠ .bcrypt → isCompleteBcrypt hash = false :=
      fun hother => eq_false_of_ne_true fun hcomplete =>
        hother (ofHash_of_isCompleteBcrypt hcomplete)
    by_cases hbcrypt : HashAlgorithm.ofHash hash = .bcrypt
    · simp [hbcrypt]
    · simp [hbcrypt, hincomplete hbcrypt]
  rw [List.countP_eq_countP_filter_add _ _ fun hash =>
      decide (HashAlgorithm.ofHash hash = .bcrypt), List.countP_filter, List.countP_filter,
    hbroken, hforeign]

/-- Password warnings announce the hashes that are not complete bcrypt hashes. -/
theorem announcedMalformed_passwordWarnings
    {rules : EntryRules}
    (hpasswords : rules.passwords = .transfer) :
    announcedMalformed (passwordWarnings rules records) =
      announcementOf (detectedAlgorithm records)
        (records.countP SourceRecord.hasBrokenBcrypt +
          records.countP SourceRecord.hasForeignHash) := by
  have hunexpected : ∀ detected, announcedMalformed (algorithmWarnings rules detected) = [] := by
    intro detected
    unfold algorithmWarnings
    dsimp only
    split <;> rfl
  rw [passwordWarnings, hpasswords]
  cases hdetected : detectedAlgorithm records with
  | none =>
      rfl
  | some detected =>
      have hsplit : announcedMalformed (algorithmWarnings rules detected ++
          malformedWarnings detected (hashesOf records)) =
          announcedMalformed (malformedWarnings detected (hashesOf records)) := by
        rw [announcedMalformed_append, hunexpected, List.nil_append]
      refine hsplit.trans ?_
      rw [malformedWarnings, countP_hashesOf_incomplete, announcementOf]
      simp only [Option.some_inj]
      split <;> rfl

end Counts

namespace Migration

variable {m : Migration} {target : Target} {c : Circumstances} {step : MigrationStep}
  {records : List SourceRecord} {given : Option VerificationInput} {outcome : DedupOutcome}

/-- The warnings of a run that imports are about its deduplicated records, however it ends. -/
theorem warnings_of_imports
    (himports : step.imports = true)
    (hdedup : deduplicate m.settings.dedup records = .ok outcome) :
    (m.run target c step records given).warnings =
      passwordWarnings m.settings.entries outcome.records := by
  refine run_courses ?_ ?_ ?_ ?_ ?_
  · intro stop _ hstop
    rw [hdedup] at hstop
    cases hstop
  · intro same _ hsame _
    rw [hdedup] at hsame
    rw [Except.ok.inj hsame]
  · intro same _ hsame _ _
    rw [hdedup] at hsame
    rw [Except.ok.inj hsame]
  · intro same _ hsame _
    rw [hdedup] at hsame
    rw [Except.ok.inj hsame]
    rfl
  · intro hidle
    rw [himports] at hidle
    cases hidle

/-- A run that is to transfer password hashes announces a number of malformed hashes exactly when
most hashes of its deduplicated records are of bcrypt and some are not complete bcrypt hashes.  It
is the number of the broken hashes of bcrypt and of all hashes of other algorithms.  So it announces
the broken ones alone exactly when there are no others or most hashes are not of bcrypt. -/
theorem run_announces_incomplete
    (himports : step.imports = true)
    (hpasswords : m.settings.entries.passwords = .transfer)
    (hdedup : deduplicate m.settings.dedup records = .ok outcome) :
    announcedMalformed (m.run target c step records given).warnings =
      announcementOf (detectedAlgorithm outcome.records)
        (outcome.records.countP SourceRecord.hasBrokenBcrypt +
          outcome.records.countP SourceRecord.hasForeignHash) ∧
    (announcedMalformed (m.run target c step records given).warnings =
        announcementOf (detectedAlgorithm outcome.records)
          (outcome.records.countP SourceRecord.hasBrokenBcrypt) ↔
      (detectedAlgorithm outcome.records = some .bcrypt →
        ∀ r ∈ outcome.records, r.hasForeignHash = false)) := by
  have hannounced := announcedMalformed_passwordWarnings outcome.records hpasswords
  rw [warnings_of_imports himports hdedup]
  refine ⟨hannounced, ?_⟩
  rw [hannounced, announcementOf_add_eq_iff, List.countP_eq_zero]
  simp only [Bool.not_eq_true]

/-- Records with a complete hash of bcrypt, a broken one, a blank one, and none. -/
def brokenHashRecords : List SourceRecord :=
  [{ id := "1", email := some "ada@x.org", passwordHash := some plainHash },
    { id := "2", email := some "bob@x.org", passwordHash := some "$2b$12$short" },
    { id := "3", email := some "cyd@x.org", passwordHash := some " \t" },
    { id := "4", email := some "dan@x.org" }]

/-- Where all hashes are of bcrypt, the broken ones are announced. -/
theorem run_announces_brokenHashRecords :
    MigrationStep.importRecords.imports = true ∧
    plainMigration.settings.entries.passwords = .transfer ∧
    deduplicate plainMigration.settings.dedup brokenHashRecords =
      .ok ⟨brokenHashRecords, [], { total := 4, unique := 4 }⟩ ∧
    announcedMalformed (plainMigration.run Importer.unsteadyTarget plainCircumstances
      .importRecords brokenHashRecords none).warnings = [1] := by
  have hdedup : deduplicate plainMigration.settings.dedup brokenHashRecords =
      .ok ⟨brokenHashRecords, [], { total := 4, unique := 4 }⟩ := by
    decide
  refine ⟨rfl, rfl, hdedup, (run_announces_incomplete rfl rfl hdedup).1.trans ?_⟩
  decide

/-- Records with two complete hashes of bcrypt and a digest. -/
def mixedHashRecords : List SourceRecord :=
  [{ id := "1", email := some "ada@x.org", passwordHash := some plainHash },
    { id := "2", email := some "bob@x.org", passwordHash := some plainHash },
    { id := "3", email := some "cyd@x.org",
      passwordHash := some "5f4dcc3b5aa765d61d8327deb882cf99" }]

/-- A run announces a malformed hash of bcrypt where all hashes of bcrypt are complete. -/
theorem run_announces_foreignHash :
    deduplicate plainMigration.settings.dedup mixedHashRecords =
      .ok ⟨mixedHashRecords, [], { total := 3, unique := 3 }⟩ ∧
    mixedHashRecords.countP SourceRecord.hasBrokenBcrypt = 0 ∧
    (plainMigration.run Importer.unsteadyTarget plainCircumstances .importRecords mixedHashRecords
      none).warnings = [.malformedBcrypt 1] := by
  have hdedup : deduplicate plainMigration.settings.dedup mixedHashRecords =
      .ok ⟨mixedHashRecords, [], { total := 3, unique := 3 }⟩ := by
    decide
  refine ⟨hdedup, by decide, ?_⟩
  rw [warnings_of_imports rfl hdedup]
  decide

end Migration

end AccountMigration
