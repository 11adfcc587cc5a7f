import AccountMigration.Proofs.Migration.Sent
import AccountMigration.Proofs.Password

/-!
# The algorithm that is reported and the hashes that are sent

A report names the algorithm that most of the password hashes have as they stand in the records.
The hashes are trimmed when they are sent, so the report tells of the hashes that are sent unless
blanks hide the mark of one.

* `algorithmOf?`: the algorithm that is told of hashes.
* `sentHashes`: the password hashes that were sent.
* `Migration.sentHashes_of_run_ok`: a live run sends the trimmed hashes of its records.
* `Migration.run_reports_sent_algorithm`: what the report tells of the hashes that are sent.
* `Migration.run_misreports_paddedHash`: a hash with a hidden mark.
-/

namespace AccountMigration

open Text

/-- The algorithm that is told of hashes: that of most of them, and none when there are none. -/
def algorithmOf?
    (hashes : List String) : Option HashAlgorithm :=
  if hashes = [] then none else some (.ofSample hashes)

/-- The password hashes of the entries that were sent, in order. -/
def sentHashes
    (calls : List Call) : List String :=
  (sentEntries calls).filterMap (·.passwordHashImport)

theorem algorithmOf?_eq_none_iff
    {hashes : List String} :
    algorithmOf? hashes = none ↔ hashes = [] := by
  unfold algorithmOf?
  split <;> simp [*]

/-- Hashes that do not hide their marks have the algorithm of the trimmed hashes. -/
theorem algorithmOf?_map_trim
    {hashes : List String}
    (hshown : ∀ hash ∈ hashes, ¬ HashAlgorithm.HidesMark hash) :
    algorithmOf? (hashes.map trim) = algorithmOf? hashes := by
  have hsame : (hashes.map trim).map HashAlgorithm.ofHash = hashes.map HashAlgorithm.ofHash := by
    rw [List.map_map, List.map_inj_left]
    intro hash hmem
    rw [Function.comp_apply, (HashAlgorithm.ofHash_trim_iff hash).mpr (hshown hash hmem)]
  simp only [algorithmOf?, List.map_eq_nil_iff, HashAlgorithm.ofSample_congr hsame]

/-- When hashes are transferred, the entries of records have the trimmed hashes that are not
blank. -/
theorem passwordHashImports_of_transfer
    {rules : EntryRules}
    (hpasswords : rules.passwords = .transfer)
    (records : List SourceRecord) :
    (records.map (SourceRecord.toEntry rules)).filterMap (·.passwordHashImport) =
      (hashesOf records).map trim := by
  induction records with
  | nil =>
      rfl
  | cons r rest ih =>
      have hfirst : (r.toEntry rules).passwordHashImport = present? r.passwordHash := by
        simp only [SourceRecord.toEntry, EntryRules.hashOf, hpasswords]
      rw [List.map_cons, List.filterMap_cons, hfirst, ih]
      cases hhash : r.passwordHash with
      | none =>
          simp [hashesOf, hhash]
      | some hash =>
          by_cases hblank : isBlankText hash = true
          · simp [hashesOf, hhash, present?, (trim_eq_empty_iff hash).mpr hblank, hblank]
          · have htrim : ¬ trim hash = "" := mt (trim_eq_empty_iff hash).mp hblank
            simp [hashesOf, hhash, present?, htrim, hblank]

namespace Migration

variable {m : Migration} {target : Target} {c : Circumstances} {step : MigrationStep}
  {records : List SourceRecord} {given : Option VerificationInput} {outcome : DedupOutcome}
  {report : MigrationReport}

/-- The report of a run that imports names the algorithm of the hashes of its deduplicated
records. -/
theorem passwordAlgorithm_of_run_ok
    (himports : step.imports = true)
    (hdedup : deduplicate m.settings.dedup records = .ok outcome)
    (hrun : (m.run target c step records given).ending = .ok report) :
    report.passwordAlgorithm = algorithmOf? (hashesOf outcome.records) := by
  obtain ⟨same, hsame, hcourse⟩ := exists_of_run_ok himports hrun
  rw [hdedup] at hsame
  obtain rfl := Except.ok.inj hsame
  rw [hcourse] at hrun
  obtain ⟨v, rfl⟩ := conclude_ok hrun
  rfl

/-- A live run that transfers hashes sends the trimmed hashes of its deduplicated records. -/
theorem sentHashes_of_run_ok
    (himports : step.imports = true)
    (hlive : m.settings.dryRun = false)
    (hpasswords : m.settings.entries.passwords = .transfer)
    (hdedup : deduplicate m.settings.dedup records = .ok outcome)
    (hrun : (m.run target c step records given).ending = .ok report) :
    sentHashes (m.run target c step records given).calls =
      (hashesOf outcome.records).map trim := by
  obtain ⟨same, hsame, hsent⟩ := sentEntries_of_run_ok himports hlive hrun
  rw [hdedup] at hsame
  obtain rfl := Except.ok.inj hsame
  rw [sentHashes, hsent, passwordHashImports_of_transfer hpasswords]

/-- A live run that transfers password hashes and ends with a report sends the trimmed hashes of
its deduplicated records, and reports the algorithm that most of these hashes have as they stand in
the records.  There is none exactly when no hash is sent.  A hash has the same algorithm before and
after it is trimmed exactly when it does not hide its mark; when no hash does, the report names the
algorithm of the hashes that are sent. -/
theorem run_reports_sent_algorithm
    (himports : step.imports = true)
    (hlive : m.settings.dryRun = false)
    (hpasswords : m.settings.entries.passwords = .transfer)
    (hrun : (m.run target c step records given).ending = .ok report) :
    ∃ outcome,
      deduplicate m.settings.dedup records = .ok outcome ∧
      sentHashes (m.run target c step records given).calls =
        (hashesOf outcome.records).map trim ∧
      report.passwordAlgorithm = algorithmOf? (hashesOf outcome.records) ∧
      (report.passwordAlgorithm = none ↔
        sentHashes (m.run target c step records given).calls = []) ∧
      (∀ hash ∈ hashesOf outcome.records,
        HashAlgorithm.ofHash (trim hash) = .ofHash hash ↔ ¬ HashAlgorithm.HidesMark hash) ∧
      ((∀ hash ∈ hashesOf outcome.records, ¬ HashAlgorithm.HidesMark hash) →
        report.passwordAlgorithm =
          algorithmOf? (sentHashes (m.run target c step records given).calls)) := by
  obtain ⟨outcome, hdedup, -⟩ := exists_of_run_ok himports hrun
  have halgorithm := passwordAlgorithm_of_run_ok himports hdedup hrun
  have hsent := sentHashes_of_run_ok himports hlive hpasswords hdedup hrun
  refine ⟨outcome, hdedup, hsent, halgorithm, ?_, ?_, ?_⟩
  · rw [halgorithm, algorithmOf?_eq_none_iff, hsent, List.map_eq_nil_iff]
  · exact fun hash _ => HashAlgorithm.ofHash_trim_iff hash
  · intro hshown
    rw [halgorithm, hsent, algorithmOf?_map_trim hshown]

/-- Records with blanks around bare digests and behind marks. -/
def digestRecords : List SourceRecord :=
  [{ id := "1", email := some "ada@x.org",
      passwordHash := some "5f4dcc3b5aa765d61d8327deb882cf99 " },
    { id := "2", email := some "bob@x.org", passwordHash := some "$argon2id$v=19 " },
    { id := "3", email := some "cyd@x.org", passwordHash := some "\tbeef" },
    { id := "4", email := some "dan@x.org", passwordHash := some "  " }]

theorem deduplicate_digestRecords :
    deduplicate plainMigration.settings.dedup digestRecords =
      .ok ⟨digestRecords, [], { total := 4, unique := 4 }⟩ := by
  decide

/-- Blanks around digests and behind marks do not show. -/
theorem run_reports_digestRecords :
    MigrationStep.importRecords.imports = true ∧
    plainMigration.settings.dryRun = false ∧
    plainMigration.settings.entries.passwords = .transfer ∧
    ∃ report,
      (plainMigration.run Importer.unsteadyTarget plainCircumstances .importRecords digestRecords
        none).ending = .ok report ∧
      report.passwordAlgorithm =
        algorithmOf? (sentHashes (plainMigration.run Importer.unsteadyTarget plainCircumstances
          .importRecords digestRecords none).calls) := by
  obtain ⟨report, hrun⟩ := exists_report_unsteadyTarget .importRecords rfl digestRecords
  obtain ⟨outcome, hdedup, -, -, -, -, hshown⟩ := run_reports_sent_algorithm rfl rfl rfl hrun
  rw [deduplicate_digestRecords] at hdedup
  obtain rfl := Except.ok.inj hdedup
  have hhashes : hashesOf digestRecords =
      ["5f4dcc3b5aa765d61d8327deb882cf99 ", "$argon2id$v=19 ", "\tbeef"] := by
    decide
  rw [hhashes] at hshown
  exact ⟨rfl, rfl, rfl, report, hrun, hshown (by decide)⟩

/-- A record with a blank in front of the mark of its password hash. -/
def paddedHashRecords : List SourceRecord :=
  [{ id := "1", email := some "ada@x.org",
      passwordHash := some " $2b$12$R9h/cIPz0gi.URNNX3kh2OPST9/PgBkqquzi.Ss7KIUgO2t0jWMUW" }]

/-- The hash that is sent is one of bcrypt, and the report does not say so. -/
theorem run_misreports_paddedHash :
    ∃ report,
      (plainMigration.run Importer.unsteadyTarget plainCircumstances .importRecords
        paddedHashRecords none).ending = .ok report ∧
      sentHashes (plainMigration.run Importer.unsteadyTarget plainCircumstances .importRecords
        paddedHashRecords none).calls =
        ["$2b$12$R9h/cIPz0gi.URNNX3kh2OPST9/PgBkqquzi.Ss7KIUgO2t0jWMUW"] ∧
      algorithmOf? (sentHashes (plainMigration.run Importer.unsteadyTarget plainCircumstances
        .importRecords paddedHashRecords none).calls) = some .bcrypt ∧
      report.passwordAlgorithm = some .unknown := by
  have hdedup : deduplicate plainMigration.settings.dedup paddedHashRecords =
      .ok ⟨paddedHashRecords, [], { total := 1, unique := 1 }⟩ := by
    decide
  obtain ⟨report, hrun⟩ := exists_report_unsteadyTarget .importRecords rfl paddedHashRecords
  have hsent := sentHashes_of_run_ok rfl rfl rfl hdedup hrun
  have htrimmed : (hashesOf paddedHashRecords).map trim =
      ["$2b$12$R9h/cIPz0gi.URNNX3kh2OPST9/PgBkqquzi.Ss7KIUgO2t0jWMUW"] := by
    decide
  rw [htrimmed] at hsent
  refine ⟨report, hrun, hsent, ?_, ?_⟩
  · rw [hsent]
    decide
  · rw [passwordAlgorithm_of_run_ok rfl hdedup hrun]
    decide

end Migration

end AccountMigration
