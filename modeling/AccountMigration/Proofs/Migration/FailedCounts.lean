import AccountMigration.Proofs.Migration.Stages

/-!
# What a failed count does to a verification

A count that fails is taken for zero, so it fails the check of any other count.  When the source has
no accounts, zero is the expected count, and a verification can pass without having learned
anything about the service.

* `Target.CountFailsAfter`: a verification that is about to begin cannot have one of its counts.
* `passed_verify_iff`: when such a verification passes.
* `Run.sent` and `Migration.exists_verify_of_run_ok`: the verification of a run.
* `Migration.failed_count_passes_iff`: the same for verifications and for whole runs.
-/

namespace AccountMigration

/-- One of the two counts of a verification after the given calls fails. -/
def Target.CountFailsAfter
    (target : Target)
    (calls : List Call) : Prop :=
  (∃ error, target.reply calls .countUsers = .failed error) ∨
    ∃ error, target.reply (calls ++ [.countUsers]) .countProfiles = .failed error

/-- A report that shows neither accounts of the service nor faults. -/
structure VerificationReport.ShowsNothing
    (report : VerificationReport) : Prop where
  actual : ∀ check ∈ report.checks, check.actual = 0
  missing : report.missingUsers = []
  mismatches : report.mismatches = []

section Verify

variable {target : Target} {schedule : Schedule} {workers sourceCount : Nat} {calls : List Call}
  {sample : List SampledUser}

/-- A verification with a failed count passes when the source has no accounts and nothing else is
seen of the service. -/
theorem passed_verify_iff
    (hfails : target.CountFailsAfter calls)
    {report : VerificationReport}
    (hending : (verify target schedule workers calls sourceCount sample).ending = .ok report) :
    report.passed = true ↔ sourceCount = 0 ∧ report.ShowsNothing := by
  obtain ⟨-, users, profiles, husers, hprofiles, rfl⟩ := exists_counts_of_verify_ok hending
  have hzero : users = 0 ∨ profiles = 0 := by
    rcases hfails with ⟨error, hcount⟩ | ⟨error, hcount⟩
    · rw [hcount] at husers
      exact Or.inl (Except.ok.inj husers).symm
    · rw [hcount] at hprofiles
      exact Or.inr (Except.ok.inj hprofiles).symm
  rw [VerificationReport.passed_iff, forall_checks_reportOf]
  simp only [CountCheck.of, decide_eq_true_eq]
  constructor
  · rintro ⟨hchecks, hmissing, hmismatches⟩
    refine ⟨by omega, forall_checks_reportOf.mpr ?_, hmissing, hmismatches⟩
    simp only [CountCheck.of]
    omega
  · rintro ⟨hsource, hactual, hmissing, hmismatches⟩
    refine ⟨?_, hmissing, hmismatches⟩
    simp only [forall_checks_reportOf, CountCheck.of] at hactual
    omega

end Verify

/-- The calls of a run that import; its verification comes behind all of them. -/
def Run.sent
    (run : Run) : List Call :=
  (requestsOf run.calls).map .bulkImport

/-- The count that a verification expects: the given one, or the number of records. -/
def expectedCount
    (given : Option VerificationInput)
    (records : List SourceRecord) : Nat :=
  (given.map (·.sourceCount)).getD records.length

namespace Migration

variable {m : Migration} {target : Target} {c : Circumstances} {step : MigrationStep}
  {records : List SourceRecord} {given : Option VerificationInput} {report : MigrationReport}

theorem map_requestsOf_sendings
    (m : Migration)
    (records : List SourceRecord) :
    (requestsOf (m.sendings records)).map .bulkImport = m.sendings records := by
  unfold sendings
  split
  · rfl
  · simp [requestsOf, Importer.callOf, Call.request?, Function.comp_def]

/-- The last stage of a run that verifies ends with a report only when its verification does. -/
theorem exists_verify_of_conclude_ok
    {calls : List Call}
    {prepared : Option Prepared}
    {done : Delivered}
    (hverifies : step.verifies = true)
    (hok : (m.conclude target c step calls given prepared done).ending = .ok report) :
    ∃ input v,
      inputOf c given prepared = .ok input ∧
      (verify target c.lookups m.settings.workers calls input.sourceCount input.sample).ending =
        .ok v ∧
      report.verification = some v ∧
      report.verificationPassed = some v.passed := by
  simp only [conclude, check, hverifies, if_true] at hok
  cases hinput : inputOf c given prepared with
  | error cause =>
      rw [hinput] at hok
      cases hok
  | ok input =>
      rw [hinput] at hok
      cases hverify : (verify target c.lookups m.settings.workers calls input.sourceCount
          input.sample).ending with
      | error fault =>
          simp only [hverify] at hok
          cases hok
      | ok v =>
          simp only [hverify] at hok
          cases hok
          exact ⟨input, v, rfl, hverify, rfl, rfl⟩

theorem sourceCount_of_inputOf
    {prepared : Option Prepared}
    (htotal : ∀ p, prepared = some p → p.stats.total = records.length)
    {input : VerificationInput}
    (hinput : inputOf c given prepared = .ok input) :
    input.sourceCount = expectedCount given records := by
  cases given with
  | some other =>
      obtain rfl := Except.ok.inj hinput
      rfl
  | none =>
      cases prepared with
      | none =>
          cases hinput
      | some p =>
          obtain rfl := Except.ok.inj hinput
          exact htotal p rfl

/-- The last stage of a run that ends with a report comes behind the calls that import. -/
theorem exists_conclude_of_run_ok
    (hrun : (m.run target c step records given).ending = .ok report) :
    ∃ prepared done,
      (∀ p, prepared = some p → p.stats.total = records.length) ∧
      m.run target c step records given =
        m.conclude target c step (m.run target c step records given).sent given prepared
          done := by
  cases himports : step.imports with
  | true =>
      obtain ⟨outcome, hdedup, hcourse⟩ := exists_of_run_ok himports hrun
      refine ⟨some (m.preparedOf outcome), m.delivered target outcome.records, ?_, ?_⟩
      · intro p hp
        obtain rfl := Option.some.inj hp
        exact total_of_deduplicate hdedup
      · rw [hcourse, Run.sent, concludeWith, requestsOf_conclude, map_requestsOf_sendings]
  | false =>
      refine ⟨none, ⟨[], {}⟩, by simp, ?_⟩
      rw [run_of_not_imports himports, Run.sent, requestsOf_conclude]
      rfl

/-- The verification of a run that ends with a report comes behind the calls that import, and
expects the given count or that of the records. -/
theorem exists_verify_of_run_ok
    (hverifies : step.verifies = true)
    (hrun : (m.run target c step records given).ending = .ok report) :
    ∃ sample v,
      (verify target c.lookups m.settings.workers (m.run target c step records given).sent
        (expectedCount given records) sample).ending = .ok v ∧
      report.verification = some v ∧
      report.verificationPassed = some v.passed := by
  obtain ⟨prepared, done, htotal, hconclude⟩ := exists_conclude_of_run_ok hrun
  rw [hconclude] at hrun
  obtain ⟨input, v, hinput, hverify, hreport⟩ := exists_verify_of_conclude_ok hverifies hrun
  rw [← sourceCount_of_inputOf htotal hinput]
  exact ⟨input.sample, v, hverify, hreport⟩

/-- A verification with a failed count passes exactly when the expected count is zero and its
report shows neither accounts nor faults; so it fails when any accounts are expected.  The same
goes for the verification of a run. -/
theorem failed_count_passes_iff
    (target : Target) :
    (∀ schedule workers calls sourceCount sample report,
      target.CountFailsAfter calls →
      (verify target schedule workers calls sourceCount sample).ending = .ok report →
      (report.passed = true ↔ sourceCount = 0 ∧ report.ShowsNothing)) ∧
    ∀ (m : Migration) c step records given report,
      step.verifies = true →
      (m.run target c step records given).ending = .ok report →
      target.CountFailsAfter (m.run target c step records given).sent →
      ∃ v,
        report.verification = some v ∧
        report.verificationPassed = some v.passed ∧
        (v.passed = true ↔ expectedCount given records = 0 ∧ v.ShowsNothing) := by
  constructor
  · intro schedule workers calls sourceCount sample report hfails hending
    exact passed_verify_iff hfails hending
  · intro m c step records given report hverifies hrun hfails
    obtain ⟨sample, v, hverify, hverification, hpassed⟩ := exists_verify_of_run_ok hverifies hrun
    exact ⟨v, hverification, hpassed, passed_verify_iff hfails hverify⟩

/-- A service that takes imports, cannot be asked for its counts, and shows no users. -/
def uncountedTarget : Target where
  reply := fun _ call =>
    match call with
    | .bulkImport _ => .answered {}
    | .countUsers => .failed (.status 503 "unavailable")
    | .countProfiles => .failed (.status 503 "unavailable")
    | .findUser _ => .answered none

/-- Two records of different users. -/
def twoRecords : List SourceRecord :=
  [{ id := "1", email := some "ada@x.org" }, { id := "2", email := some "eve@x.org" }]

theorem uncountedTarget_fails
    (calls : List Call) :
    uncountedTarget.CountFailsAfter calls := by
  exact Or.inl ⟨_, rfl⟩

theorem uncountedTarget_counts :
    uncountedTarget.Counts := by
  intro calls
  constructor <;> simp [uncountedTarget]

/-- Without the counts, neither the verification of two users nor a run of two records passes. -/
theorem run_all_uncounted :
    uncountedTarget.CountFailsAfter [] ∧
    (∃ report, (verify uncountedTarget .inOrder 4 [] 2 []).ending = .ok report ∧
      report.passed = false) ∧
    MigrationStep.all.verifies = true ∧
    uncountedTarget.CountFailsAfter
      (plainMigration.run uncountedTarget plainCircumstances .all twoRecords none).sent ∧
    ∃ report,
      (plainMigration.run uncountedTarget plainCircumstances .all twoRecords none).ending =
        .ok report ∧
      report.verificationPassed = some false := by
  obtain ⟨hverify, hmigration⟩ := failed_count_passes_iff uncountedTarget
  have hfails := uncountedTarget_fails
  refine ⟨hfails [], ?_, rfl, hfails _, ?_⟩
  · have hends : ∃ report, (verify uncountedTarget .inOrder 4 [] 2 []).ending = .ok report :=
      exists_verify_ok (by decide) (uncountedTarget_counts []).1 (uncountedTarget_counts _).2
    obtain ⟨report, hreport⟩ := hends
    have hiff := hverify .inOrder 4 [] 2 [] report (hfails []) hreport
    exact ⟨report, hreport, Bool.eq_false_iff.mpr fun h => absurd (hiff.mp h).1 (by decide)⟩
  · have hends : ∃ report, (plainMigration.run uncountedTarget plainCircumstances .all twoRecords
        none).ending = .ok report :=
      exists_run_ok (by decide) (not_runOverflows_of_unchecked (by decide)) uncountedTarget_counts
        (fun _ hrefuses => absurd hrefuses.1 (by decide)) (fun hstep => by cases hstep)
    obtain ⟨report, hrun⟩ := hends
    obtain ⟨v, -, hpassed, hiff⟩ :=
      hmigration plainMigration plainCircumstances .all twoRecords none report rfl hrun (hfails _)
    refine ⟨report, hrun, ?_⟩
    rw [hpassed, Bool.eq_false_iff.mpr fun h => absurd (hiff.mp h).1 (by decide)]

/-- Two failed counts pass the verification of an empty source. -/
theorem verify_empty_uncounted :
    uncountedTarget.CountFailsAfter [] ∧
    (∃ report, (verify uncountedTarget .inOrder 4 [] 0 []).ending = .ok report ∧
      report.passed = true) ∧
    ∃ report,
      (plainMigration.run uncountedTarget plainCircumstances .verify [] (some ⟨0, []⟩)).ending =
        .ok report ∧
      report.verificationPassed = some true := by
  refine ⟨uncountedTarget_fails [], ⟨_, rfl, rfl⟩, ⟨_, rfl, rfl⟩⟩

end Migration
end AccountMigration
