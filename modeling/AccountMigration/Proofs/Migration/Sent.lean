import AccountMigration.Proofs.Import.EntryKeys
import AccountMigration.Proofs.Migration.Stages

/-!
# What a live run sends

A live run that imports sends the entries of the deduplicated records in their order.  Different
keys of the records are different keys of the entries; different keys are not always different
usernames, because usernames can be made up.

* `Migration.sentEntries_of_run_ok`: the entries that a run sends.
* `Migration.map_key?_of_deduplicate`: the records that are left have different keys.
* `Migration.sent_keys_distinct`: no key is sent twice.
* `Migration.sent_usernames_distinct`: a username that is sent twice is made up.
-/

namespace AccountMigration
namespace Migration

open Text

variable {m : Migration} {target : Target} {c : Circumstances} {step : MigrationStep}
  {records : List SourceRecord} {given : Option VerificationInput} {outcome : DedupOutcome}

theorem sentEntries_concludeWith
    (hlive : m.settings.dryRun = false) :
    sentEntries (m.concludeWith target c step given outcome).calls =
      outcome.records.map (SourceRecord.toEntry m.settings.entries) := by
  rw [concludeWith, sentEntries, requestsOf_conclude, ← sentEntries, sentEntries_sendings hlive]

/-- A live run that imports and ends with a report has sent the entries of the deduplicated
records in their order. -/
theorem sentEntries_of_run_ok
    (himports : step.imports = true)
    (hlive : m.settings.dryRun = false)
    {report : MigrationReport}
    (hrun : (m.run target c step records given).ending = .ok report) :
    ∃ outcome, deduplicate m.settings.dedup records = .ok outcome ∧
      sentEntries (m.run target c step records given).calls =
        outcome.records.map (SourceRecord.toEntry m.settings.entries) := by
  obtain ⟨outcome, hdedup, hcourse⟩ := exists_of_run_ok himports hrun
  exact ⟨outcome, hdedup, by rw [hcourse, sentEntries_concludeWith hlive]⟩

/-- Where keys are compared, the records that are left have the different keys, one each. -/
theorem map_key?_of_deduplicate
    (hkeyed : m.settings.dedup.strategy ≠ .none)
    (hdedup : deduplicate m.settings.dedup records = .ok outcome) :
    outcome.records.map (·.key? m.settings.dedup.key) =
      (distinctKeys m.settings.dedup.key records).map some := by
  rw [deduplicate_keyed hkeyed hdedup]
  exact map_key?_keptRecords m.settings.dedup records

theorem nodup_key?_of_deduplicate
    (hkeyed : m.settings.dedup.strategy ≠ .none)
    (hdedup : deduplicate m.settings.dedup records = .ok outcome) :
    (outcome.records.map (·.key? m.settings.dedup.key)).Nodup := by
  rw [map_key?_of_deduplicate hkeyed hdedup]
  exact (nodup_distinctKeys _ records).map fun _ _ => Option.some.inj

theorem exists_key?_of_deduplicate
    (hkeyed : m.settings.dedup.strategy ≠ .none)
    (hdedup : deduplicate m.settings.dedup records = .ok outcome)
    {r : SourceRecord}
    (hr : r ∈ outcome.records) :
    ∃ key, r.key? m.settings.dedup.key = some key := by
  have hmem := List.mem_map_of_mem (f := (·.key? m.settings.dedup.key)) hr
  rw [map_key?_of_deduplicate hkeyed hdedup, List.mem_map] at hmem
  obtain ⟨key, -, hkey⟩ := hmem
  exact ⟨key, hkey.symm⟩

theorem map_key?_toEntry
    (hkeyed : m.settings.dedup.strategy ≠ .none)
    (hselector : m.settings.dedup.key ≠ .usernameOrEmail)
    (hdedup : deduplicate m.settings.dedup records = .ok outcome) :
    (outcome.records.map (SourceRecord.toEntry m.settings.entries)).map
        (·.key? m.settings.dedup.key) =
      outcome.records.map (·.key? m.settings.dedup.key) := by
  rw [List.map_map]
  refine List.map_congr_left fun r hr => ?_
  obtain ⟨key, hkey⟩ := exists_key?_of_deduplicate hkeyed hdedup hr
  rw [hkey]
  exact SourceRecord.key?_toEntry m.settings.entries hselector hkey

/-- A live run that compares keys and ends with a report sends the entries of the deduplicated
records in their order.  Unless usernames are made up for records that are known by them, each
entry has a key by its own fields, and no two entries of the run have the same key. -/
theorem sent_keys_distinct
    (himports : step.imports = true)
    (hlive : m.settings.dryRun = false)
    (hkeyed : m.settings.dedup.strategy ≠ .none)
    (hselector : m.settings.dedup.key ≠ .usernameOrEmail)
    {report : MigrationReport}
    (hrun : (m.run target c step records given).ending = .ok report) :
    (∃ outcome, deduplicate m.settings.dedup records = .ok outcome ∧
      sentEntries (m.run target c step records given).calls =
        outcome.records.map (SourceRecord.toEntry m.settings.entries)) ∧
    (∀ entry ∈ sentEntries (m.run target c step records given).calls,
      ∃ key, entry.key? m.settings.dedup.key = some key) ∧
    ((sentEntries (m.run target c step records given).calls).map
      (·.key? m.settings.dedup.key)).Nodup := by
  obtain ⟨outcome, hdedup, hsent⟩ := sentEntries_of_run_ok himports hlive hrun
  refine ⟨⟨outcome, hdedup, hsent⟩, ?_, ?_⟩
  · rw [hsent]
    intro entry hentry
    obtain ⟨r, hr, rfl⟩ := List.mem_map.mp hentry
    obtain ⟨key, hkey⟩ := exists_key?_of_deduplicate hkeyed hdedup hr
    exact ⟨key, SourceRecord.key?_toEntry m.settings.entries hselector hkey⟩
  · rw [hsent, map_key?_toEntry hkeyed hselector hdedup]
    exact nodup_key?_of_deduplicate hkeyed hdedup

/-- A live run with small batches that knows records by their email addresses or else their phone
numbers. -/
def contactMigration : Migration where
  settings := { dryRun := false, batchSize := 2, dedup := { key := .emailOrPhone } }
  valid := by decide

/-- Records that differ in blanks and in case, have a blank field in front, or have no key. -/
def contactRecords : List SourceRecord :=
  [{ id := "1", email := some " Ada@x.org " },
    { id := "2", email := some "ada@X.org" },
    { id := "3", phone := some "555" },
    { id := "4", email := some "  ", phone := some " 555" },
    { id := "5", email := some "eve@x.org", username := some "ada" },
    { id := "6", username := some "ada" }]

/-- No key is sent twice, in two batches of which the second is refused. -/
theorem sent_keys_contactRecords :
    MigrationStep.all.imports = true ∧
    contactMigration.settings.dryRun = false ∧
    contactMigration.settings.dedup.strategy ≠ .none ∧
    contactMigration.settings.dedup.key ≠ .usernameOrEmail ∧
    ∃ report,
      (contactMigration.run Importer.unsteadyTarget plainCircumstances .all contactRecords
        none).ending = .ok report ∧
      ((sentEntries (contactMigration.run Importer.unsteadyTarget plainCircumstances .all
        contactRecords none).calls).map (·.key? .emailOrPhone)).Nodup := by
  have hstrategy : contactMigration.settings.dedup.strategy ≠ .none := by decide
  have hselector : contactMigration.settings.dedup.key ≠ .usernameOrEmail := by decide
  have haccepts : MigrationStep.all.imports = true →
      ¬ contactMigration.settings.dedup.Refuses contactRecords := by
    rintro - ⟨hrefuses, -⟩
    cases hrefuses
  have hends : ∃ report, (contactMigration.run Importer.unsteadyTarget plainCircumstances .all
      contactRecords none).ending = .ok report :=
    exists_run_ok (by decide) (not_runOverflows_of_unchecked (by decide)) unsteadyTarget_counts
      haccepts (by rintro ⟨⟩)
  obtain ⟨report, hrun⟩ := hends
  exact ⟨rfl, rfl, hstrategy, hselector, report, hrun,
    (sent_keys_distinct rfl rfl hstrategy hselector hrun).2.2⟩

/-- Records with usernames of their own do not share them when they are known by them. -/
theorem pairwise_own_usernames
    (hkeyed : m.settings.dedup.strategy ≠ .none)
    (hselector : m.settings.dedup.key = .usernameOrEmail)
    (hdedup : deduplicate m.settings.dedup records = .ok outcome) :
    outcome.records.Pairwise fun r s =>
      (r.toEntry m.settings.entries).SharesUsername (s.toEntry m.settings.entries) →
        r.LacksUsername ∨ s.LacksUsername := by
  have hkeys := nodup_key?_of_deduplicate hkeyed hdedup
  rw [hselector, List.Nodup, List.pairwise_map] at hkeys
  refine hkeys.imp ?_
  rintro r s hne ⟨-, hshared⟩
  by_contra hown
  rw [not_or] at hown
  rw [SourceRecord.key?_of_own_username _ hown.1,
    SourceRecord.key?_of_own_username _ hown.2] at hshared
  exact hne hshared

/-- A live run that knows records by their usernames, else by their email addresses, and ends with
a report sends the entries of the deduplicated records in their order.  Two entries share a
username only if one of their records has none, and what is sent for such a record is made up
from its email address or its phone number. -/
theorem sent_usernames_distinct
    (himports : step.imports = true)
    (hlive : m.settings.dryRun = false)
    (hkeyed : m.settings.dedup.strategy ≠ .none)
    (hselector : m.settings.dedup.key = .usernameOrEmail)
    {report : MigrationReport}
    (hrun : (m.run target c step records given).ending = .ok report) :
    ∃ outcome, deduplicate m.settings.dedup records = .ok outcome ∧
      sentEntries (m.run target c step records given).calls =
        outcome.records.map (SourceRecord.toEntry m.settings.entries) ∧
      (outcome.records.Pairwise fun r s =>
        (r.toEntry m.settings.entries).SharesUsername (s.toEntry m.settings.entries) →
          r.LacksUsername ∨ s.LacksUsername) ∧
      ∀ r ∈ outcome.records, r.LacksUsername →
        (r.toEntry m.settings.entries).username =
          synthesizeUsername (present? r.email) (present? r.phone) := by
  obtain ⟨outcome, hdedup, hsent⟩ := sentEntries_of_run_ok himports hlive hrun
  exact ⟨outcome, hdedup, hsent, pairwise_own_usernames hkeyed hselector hdedup,
    fun r _ => SourceRecord.made_up_username m.settings.entries⟩

/-- A live run that knows records by their usernames or else their email addresses. -/
def usernameMigration : Migration where
  settings := { dryRun := false, dedup := { key := .usernameOrEmail } }
  valid := by decide

/-- Two records with usernames, and three for which the same usernames are made up. -/
def nicknamedRecords : List SourceRecord :=
  [{ id := "1", username := some "jane" },
    { id := "2", email := some "jane@x.org" },
    { id := "3", email := some "Jane@y.org" },
    { id := "4", username := some "1555" },
    { id := "5", email := some "@x.org", phone := some "+1 555" }]

theorem deduplicate_nicknamedRecords :
    deduplicate usernameMigration.settings.dedup nicknamedRecords =
      .ok ⟨nicknamedRecords, [], { total := 5, unique := 5 }⟩ := by
  decide

theorem exists_report_nicknamedRecords :
    ∃ report, (usernameMigration.run storingTarget plainCircumstances .importRecords
      nicknamedRecords none).ending = .ok report := by
  refine exists_run_ok (by decide) (not_runOverflows_of_unchecked (by decide)) storingTarget_counts
    ?_ (by rintro ⟨⟩)
  exact fun _ => exists_deduplicate_ok_iff.mp ⟨_, deduplicate_nicknamedRecords⟩

/-- The usernames of the first and the fourth record are their own, so they are different. -/
theorem sent_usernames_nicknamedRecords :
    MigrationStep.importRecords.imports = true ∧
    usernameMigration.settings.dryRun = false ∧
    usernameMigration.settings.dedup.strategy ≠ .none ∧
    usernameMigration.settings.dedup.key = .usernameOrEmail ∧
    ∃ report,
      (usernameMigration.run storingTarget plainCircumstances .importRecords nicknamedRecords
        none).ending = .ok report ∧
      nicknamedRecords.Pairwise fun r s =>
        (r.toEntry {}).SharesUsername (s.toEntry {}) → r.LacksUsername ∨ s.LacksUsername := by
  have hstrategy : usernameMigration.settings.dedup.strategy ≠ .none := by decide
  obtain ⟨report, hrun⟩ := exists_report_nicknamedRecords
  obtain ⟨outcome, hdedup, -, hpairs, -⟩ :=
    sent_usernames_distinct rfl rfl hstrategy rfl hrun
  rw [deduplicate_nicknamedRecords] at hdedup
  obtain rfl := Except.ok.inj hdedup
  exact ⟨rfl, rfl, hstrategy, rfl, report, hrun, hpairs⟩

/-- Knowing records by their usernames does not mean that no username is sent twice: one that is
made up can be the username of another record, or be made up for two. -/
theorem sent_usernames_repeat :
    usernameMigration.settings.dryRun = false ∧
    usernameMigration.settings.dedup.strategy = .keepLatest ∧
    usernameMigration.settings.dedup.key = .usernameOrEmail ∧
    ∃ report,
      (usernameMigration.run storingTarget plainCircumstances .importRecords nicknamedRecords
        none).ending = .ok report ∧
      (sentEntries (usernameMigration.run storingTarget plainCircumstances .importRecords
        nicknamedRecords none).calls).map (·.username) =
          [some "jane", some "jane", some "Jane", some "1555", some "1555"] ∧
      ¬ (sentEntries (usernameMigration.run storingTarget plainCircumstances .importRecords
        nicknamedRecords none).calls).Pairwise fun a b => ¬ a.SharesUsername b := by
  obtain ⟨report, hrun⟩ := exists_report_nicknamedRecords
  obtain ⟨outcome, hdedup, hsent⟩ := sentEntries_of_run_ok rfl rfl hrun
  rw [deduplicate_nicknamedRecords] at hdedup
  obtain rfl := Except.ok.inj hdedup
  refine ⟨rfl, rfl, rfl, report, hrun, ?_, ?_⟩
  · rw [hsent]
    decide
  · rw [hsent]
    decide

end Migration
end AccountMigration
