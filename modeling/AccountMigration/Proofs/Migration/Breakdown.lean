import AccountMigration.Proofs.Migration.Courses
import AccountMigration.Proofs.Migration.Failure

/-!
# When a run breaks down

A run relies on bounds: slots, batches, lookups and samples are taken by positions, requests under
way are limited by permits, and counters are words.  All positions are in range whatever the input
is, and batches are never empty.  But the settings do not bound the number of workers, so that a run
with more workers than there can be permits breaks down as soon as it needs them; and nothing bounds
what the service says it has made, so that counters overflow.

* `Migration.NeedsPermits`: a run that comes to a live import of records or to a verification.
* `Migration.run_of_needs_permits` and `Migration.needs_permits_of_fault`: a run with too many
  workers breaks down exactly when it needs permits.
* `Migration.run_faults_iff`: the two ways in which a run breaks down.
-/

namespace AccountMigration
namespace Migration

/-- A run comes to a live import of records, or to a verification. -/
inductive NeedsPermits
    (m : Migration)
    (step : MigrationStep)
    (records : List SourceRecord)
    (given : Option VerificationInput) : Prop where
  | importing (outcome : DedupOutcome) :
      step.imports = true →
      m.settings.dryRun = false →
      deduplicate m.settings.dedup records = .ok outcome →
      outcome.records ≠ [] →
        NeedsPermits m step records given
  | verifying :
      step.verifies = true →
      ¬ m.RefusesRecords step records →
      ¬ LacksInput step given →
        NeedsPermits m step records given

variable {m : Migration} {target : Target} {c : Circumstances} {step : MigrationStep}
  {records : List SourceRecord} {given : Option VerificationInput} {outcome : DedupOutcome}

section Conclude

variable {calls : List Call} {prepared : Option Prepared} {done : Delivered}

theorem conclude_of_not_verifies
    (hverifies : step.verifies = false) :
    (m.conclude target c step calls given prepared done).ending =
      .ok (m.report c step prepared done none) := by
  simp [conclude, check, hverifies, Except.map]

/-- The last stage breaks down when it is to verify with too many workers. -/
theorem conclude_of_too_many
    (hworkers : permitLimit < m.settings.workers)
    (hcounts : target.Counts)
    (hverifies : step.verifies = true)
    {input : VerificationInput}
    (hinput : inputOf c given prepared = .ok input) :
    (m.conclude target c step calls given prepared done).ending =
      .error (.fault (.tooManyPermits m.settings.workers)) := by
  obtain ⟨users, husers⟩ := exists_countOrZero (hcounts calls).1
  obtain ⟨profiles, hprofiles⟩ := exists_countOrZero (hcounts (calls ++ [.countUsers])).2
  simp only [conclude, check, hverifies, if_true, hinput]
  rw [verify_ending, husers, hprofiles, grantPermits_max_of_lt hworkers]
  rfl

end Conclude

theorem imports_of_not_verifies
    (hverifies : step.verifies = false) :
    step.imports = true := by
  cases step with
  | importRecords => rfl
  | verify => cases hverifies
  | all => cases hverifies

theorem exists_deduplicate_of_accepts
    (himports : step.imports = true)
    (haccepts : ¬ m.RefusesRecords step records) :
    ∃ outcome, deduplicate m.settings.dedup records = .ok outcome := by
  rw [exists_deduplicate_ok_iff]
  exact fun hrefuses => haccepts ⟨himports, hrefuses⟩

/-- A run that is to import records with too many workers breaks down there. -/
theorem run_of_imports_too_many
    (hworkers : permitLimit < m.settings.workers)
    (himports : step.imports = true)
    (hlive : m.settings.dryRun = false)
    (hdedup : deduplicate m.settings.dedup records = .ok outcome)
    (hrecords : outcome.records ≠ []) :
    (m.run target c step records given).ending =
      .error (.fault (.tooManyPermits m.settings.workers)) := by
  rw [run_of_overcrowded himports hdedup ⟨hworkers, hlive, hrecords⟩]

/-- A run that needs permits breaks down when there are too many workers. -/
theorem run_of_needs_permits
    (hworkers : permitLimit < m.settings.workers)
    (hcounts : target.Counts)
    (hneeds : m.NeedsPermits step records given) :
    (m.run target c step records given).ending =
      .error (.fault (.tooManyPermits m.settings.workers)) := by
  cases hneeds with
  | importing outcome himports hlive hdedup hrecords =>
      exact run_of_imports_too_many hworkers himports hlive hdedup hrecords
  | verifying hverifies haccepts hinput =>
      cases himports : step.imports with
      | true =>
          -- the verification is not reached when the import breaks down already
          obtain ⟨outcome, hdedup⟩ := exists_deduplicate_of_accepts himports haccepts
          by_cases hnothing : m.settings.dryRun = true ∨ outcome.records = []
          · rw [run_of_delivered himports hdedup (deliver_of_nothing hnothing)]
            obtain ⟨input, hprepared⟩ := exists_inputOf_prepared given (m.preparedOf outcome)
            exact conclude_of_too_many hworkers hcounts hverifies hprepared
          · rw [not_or, Bool.not_eq_true] at hnothing
            exact run_of_imports_too_many hworkers himports hnothing.1 hdedup hnothing.2
      | false =>
          rw [run_of_not_imports himports]
          cases hgiven : given with
          | none => exact absurd ⟨eq_verify_of_not_imports himports, hgiven⟩ hinput
          | some input => exact conclude_of_too_many hworkers hcounts hverifies rfl

section Fault

variable {fault : Fault}
  (hfault : (m.run target c step records given).ending = .error (.fault fault))
include hfault

/-- A run that breaks down has not refused its records. -/
theorem not_refuses_of_fault :
    ¬ m.RefusesRecords step records := by
  intro hrefuses
  obtain ⟨_, _, _, -, hrun⟩ := run_of_refuses hrefuses
  rw [hrun] at hfault
  cases hfault

/-- A run that breaks down does not lack an input. -/
theorem not_lacksInput_of_fault :
    ¬ LacksInput step given := by
  intro hlacks
  rw [run_of_lacks_input hlacks] at hfault
  cases hfault

end Fault

/-- A run that only imports and breaks down has records to import. -/
theorem needs_permits_of_import_fault
    (hverifies : step.verifies = false)
    (haccepts : ¬ m.RefusesRecords step records)
    {fault : Fault}
    (hfault : (m.run target c step records given).ending = .error (.fault fault)) :
    m.NeedsPermits step records given := by
  have himports := imports_of_not_verifies hverifies
  obtain ⟨outcome, hdedup⟩ := exists_deduplicate_of_accepts himports haccepts
  by_cases hnothing : m.settings.dryRun = true ∨ outcome.records = []
  · rw [run_of_delivered himports hdedup (deliver_of_nothing hnothing), concludeWith,
      conclude_of_not_verifies hverifies] at hfault
    cases hfault
  · rw [not_or, Bool.not_eq_true] at hnothing
    exact .importing outcome himports hnothing.1 hdedup hnothing.2

/-- A run that breaks down needs permits, whether it lacks them or not. -/
theorem needs_permits_of_fault
    {fault : Fault}
    (hfault : (m.run target c step records given).ending = .error (.fault fault)) :
    m.NeedsPermits step records given := by
  have haccepts := not_refuses_of_fault hfault
  cases hverifies : step.verifies with
  | true => exact .verifying hverifies haccepts (not_lacksInput_of_fault hfault)
  | false => exact needs_permits_of_import_fault hverifies haccepts hfault

/-- A run that only imports does not come to a count. -/
theorem ok_of_not_verifies
    (hworkers : m.settings.workers ≤ permitLimit)
    (hfits : ¬ m.RunOverflows target step records)
    (hverifies : step.verifies = false)
    (haccepts : ¬ m.RefusesRecords step records) :
    ∃ report, (m.run target c step records given).ending = .ok report := by
  have himports := imports_of_not_verifies hverifies
  obtain ⟨outcome, hdedup⟩ := exists_deduplicate_of_accepts himports haccepts
  rw [run_of_imports hworkers himports hdedup
    fun hoverflows => hfits ⟨himports, outcome, hdedup, hoverflows⟩]
  exact ⟨_, conclude_of_not_verifies hverifies⟩

/-- A run breaks down only with more workers than permits, on counters that overflow, or at a count
on which the service breaks down. -/
theorem cause_of_fault
    {fault : Fault}
    (hfault : (m.run target c step records given).ending = .error (.fault fault)) :
    permitLimit < m.settings.workers ∨ m.RunOverflows target step records ∨
      step.verifies = true ∧ target.CountCrash (m.run target c step records given).calls := by
  by_contra hcause
  rw [not_or, not_or, not_lt, not_and] at hcause
  obtain ⟨hworkers, hfits, hnocrash⟩ := hcause
  have haccepts := not_refuses_of_fault hfault
  cases hverifies : step.verifies with
  | false =>
      obtain ⟨report, hok⟩ := ok_of_not_verifies hworkers hfits hverifies haccepts
      rw [hok] at hfault
      cases hfault
  | true =>
      rcases run_ok_or_crash hworkers hfits (fun himports hdedup => haccepts ⟨himports, hdedup⟩)
        (fun hstep hgiven => not_lacksInput_of_fault hfault ⟨hstep, hgiven⟩) with
        ⟨report, hok⟩ | hcrash
      · rw [hok] at hfault
        cases hfault
      · exact hnocrash hverifies hcrash.calls

/-- A run breaks down only when it needs more permits than there can be, or when the service replies
to a live import with more than the counters can take, in a build that checks its sums.  Nothing
else that it relies on fails, whatever the records, the input, the order of completion and the
replies to imports and lookups are. -/
theorem run_faults_iff
    (m : Migration)
    (target : Target)
    (hcounts : target.Counts)
    (c : Circumstances)
    (step : MigrationStep)
    (records : List SourceRecord)
    (given : Option VerificationInput)
    (fault : Fault) :
    (m.run target c step records given).ending = .error (.fault fault) ↔
      (fault = .tooManyPermits m.settings.workers ∧
        permitLimit < m.settings.workers ∧
        m.NeedsPermits step records given) ∨
      (fault = .countersOverflowed ∧
        m.settings.workers ≤ permitLimit ∧
        m.RunOverflows target step records) := by
  constructor
  · intro hfault
    rcases Nat.lt_or_ge permitLimit m.settings.workers with hworkers | hworkers
    · have hneeds := needs_permits_of_fault hfault
      refine Or.inl ⟨?_, hworkers, hneeds⟩
      rw [run_of_needs_permits hworkers hcounts hneeds] at hfault
      cases hfault
      rfl
    · have hoverflows := overflows_of_fault hworkers hcounts hfault
      refine Or.inr ⟨?_, hworkers, hoverflows⟩
      rw [ending_of_runOverflows hworkers hoverflows] at hfault
      cases hfault
      rfl
  · rintro (⟨rfl, hworkers, hneeds⟩ | ⟨rfl, hworkers, hoverflows⟩)
    · exact run_of_needs_permits hworkers hcounts hneeds
    · exact ending_of_runOverflows hworkers hoverflows

/-- A live run with more workers than there can be permits. -/
def crowdedMigration : Migration where
  settings := { dryRun := false, workers := permitLimit + 1 }
  valid := by decide

/-- A single record. -/
def loneRecord : List SourceRecord :=
  [{ id := "1", email := some "ada@x.org" }]

theorem deduplicate_loneRecord :
    deduplicate {} loneRecord = .ok ⟨loneRecord, [], { total := 1, unique := 1 }⟩ := by
  decide

/-- A crowded import of a record breaks down, and one with few workers does not where sums are not
checked. -/
theorem import_loneRecord :
    Importer.unsteadyTarget.Counts ∧
    permitLimit < crowdedMigration.settings.workers ∧
    crowdedMigration.NeedsPermits .importRecords loneRecord none ∧
    (crowdedMigration.run Importer.unsteadyTarget plainCircumstances .importRecords loneRecord
      none).ending = .error (.fault (.tooManyPermits (permitLimit + 1))) ∧
    ∀ fault,
      (plainMigration.run Importer.unsteadyTarget plainCircumstances .importRecords loneRecord
        none).ending ≠ .error (.fault fault) := by
  have hworkers : permitLimit < crowdedMigration.settings.workers := Nat.lt_succ_self _
  have hneeds : crowdedMigration.NeedsPermits .importRecords loneRecord none :=
    .importing _ rfl rfl deduplicate_loneRecord (by simp [loneRecord])
  refine ⟨unsteadyTarget_counts, hworkers, hneeds, ?_, ?_⟩
  · exact (run_faults_iff crowdedMigration _ unsteadyTarget_counts _ _ _ _ _).mpr
      (Or.inl ⟨rfl, hworkers, hneeds⟩)
  · intro fault hfault
    rcases (run_faults_iff plainMigration _ unsteadyTarget_counts _ _ _ _ fault).mp hfault with
      ⟨-, hfew, -⟩ | ⟨-, -, hoverflows⟩
    · exact absurd hfew (by decide)
    · exact not_runOverflows_of_unchecked (by decide) hoverflows

/-- Accepted settings do not keep an import of one record from breaking down for want of permits,
nor one of two records on its counters. -/
theorem accepted_settings_break_down :
    Migration.ofSettings { dryRun := false, workers := 2305843009213693952 } =
      .ok crowdedMigration ∧
    Importer.unsteadyTarget.Counts ∧
    (crowdedMigration.run Importer.unsteadyTarget plainCircumstances .importRecords loneRecord
      none).ending = .error (.fault (.tooManyPermits 2305843009213693952)) ∧
    boastfulTarget.Counts ∧
    (checkedMigration.run boastfulTarget plainCircumstances .importRecords pairedRecords
      none).ending = .error (.fault .countersOverflowed) := by
  refine ⟨rfl, unsteadyTarget_counts, ?_, boastfulTarget_counts, ?_⟩
  · exact run_of_imports_too_many (Nat.lt_succ_self _) rfl rfl deduplicate_loneRecord
      (by simp [loneRecord])
  · exact ending_of_runOverflows (by decide) runOverflows_pairedRecords

end Migration
end AccountMigration
