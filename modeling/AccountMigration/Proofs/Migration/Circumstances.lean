import AccountMigration.Proofs.Migration.Courses

/-!
# What a run does not decide

Clock, order of completion and draw are not for a run to decide.  The order of completion does not
show at all, the clock shows in two fields of the report, and the draw in the verification.

* `verify_order`: a verification does not depend on the order of its lookups.
* `Migration.deliver_order`: nor does a delivery on the order of its batches.
* `Run.timed`: the same run at another time.
* `Migration.run_timed`: runs in circumstances with one draw are the same but for the clock.
-/

namespace AccountMigration

/-- A verification does not depend on the order in which its lookups finish. -/
theorem verify_order
    (target : Target)
    (schedule other : Schedule)
    (workers : Nat)
    (calls : List Call)
    (sourceCount : Nat)
    (sample : List SampledUser) :
    verify target schedule workers calls sourceCount sample =
      verify target other workers calls sourceCount sample := by
  simp only [verify, verifySample, lookupAll_eq]

/-- The same report with another start and another end. -/
def MigrationReport.timed
    (c : Circumstances)
    (r : MigrationReport) : MigrationReport :=
  { r with
    startedAt := c.startedAt
    finishedAt := some c.finishedAt }

/-- The same run at another time. -/
def Run.timed
    (c : Circumstances)
    (run : Run) : Run :=
  { run with ending := run.ending.map (·.timed c) }

namespace Migration

variable {m : Migration} {target : Target} {c d : Circumstances} {step : MigrationStep}
  {records : List SourceRecord} {given : Option VerificationInput}

theorem deliver_order
    (m : Migration)
    (target : Target)
    (c d : Circumstances)
    (records : List SourceRecord) :
    m.deliver target d records = m.deliver target c records := by
  by_cases hcrowd : m.Overcrowded records
  · rw [deliver_of_overcrowded hcrowd, deliver_of_overcrowded hcrowd]
  · by_cases hoverflows : m.Overflows target records
    · have hworkers := workers_of_overflows hcrowd hoverflows
      rw [deliver_of_overflows hworkers hoverflows, deliver_of_overflows hworkers hoverflows]
    · have hdelivers : m.Delivers target records := ⟨hcrowd, hoverflows⟩
      rw [deliver_of_delivers hdelivers, deliver_of_delivers hdelivers]

section Conclude

variable {calls : List Call} {prepared : Option Prepared} {done : Delivered}

theorem check_order
    (hdraw : c.draw = d.draw) :
    m.check target d step calls given prepared = m.check target c step calls given prepared := by
  have hinput : inputOf d given prepared = inputOf c given prepared := by
    simp only [inputOf, hdraw]
  simp only [check, hinput, verify_order target d.lookups c.lookups]

theorem conclude_timed
    (hdraw : c.draw = d.draw) :
    m.conclude target d step calls given prepared done =
      (m.conclude target c step calls given prepared done).timed d := by
  simp only [conclude, check_order hdraw, Run.timed]
  cases (m.check target c step calls given prepared).2 <;> rfl

end Conclude

/-- Runs in circumstances with one draw are the same but for the clock. -/
theorem run_timed
    (hdraw : c.draw = d.draw) :
    m.run target d step records given = (m.run target c step records given).timed d := by
  unfold run
  split
  · cases hprepare : m.prepare records with
    | error stop =>
        rfl
    | ok prepared =>
        simp only [m.deliver_order target c d]
        rcases m.deliver target c prepared.records with ⟨calls, fault | done⟩
        · rfl
        · exact conclude_timed hdraw
  · exact conclude_timed hdraw

end Migration

end AccountMigration
