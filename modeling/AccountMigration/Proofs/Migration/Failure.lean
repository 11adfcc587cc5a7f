import AccountMigration.Proofs.Migration.Courses

/-!
# When a run fails

There are two reasons for a run to fail: its records are refused, or it is to verify only and
has nothing to verify with.  Both are found out before anything is asked of the service, so a
run that fails has made no call, and whatever the service replies, it does not make a run fail.  In
a build that checks its sums, though, a run breaks down when the numbers that the service replies
with are more than its counters can take.

* `Migration.RefusesRecords` and `LacksInput`: the two reasons.
* `Migration.run_of_refuses` and `Migration.run_of_lacks_input`: what a run that fails does.
* `Migration.ending_of_runOverflows`: what becomes of a run whose counters overflow.
* `Migration.run_fails_iff`: a run fails for these reasons only.
* `Migration.run_overflows_pairedRecords`: two answers on which a run breaks down.
-/

namespace AccountMigration

/-- The step imports, and two of the records have the same key where that is an error. -/
def Migration.RefusesRecords
    (m : Migration)
    (step : MigrationStep)
    (records : List SourceRecord) : Prop :=
  step.imports = true ∧ m.settings.dedup.Refuses records

/-- The service is only to be verified, and there is nothing to verify it with. -/
def LacksInput
    (step : MigrationStep)
    (given : Option VerificationInput) : Prop :=
  step = .verify ∧ given = none

namespace Migration

variable {m : Migration} {target : Target} {c : Circumstances} {step : MigrationStep}
  {records : List SourceRecord} {given : Option VerificationInput}

/-- A run that refuses its records makes no call, and its error names the key and two records that
have it. -/
theorem run_of_refuses
    (hrefuses : m.RefusesRecords step records) :
    ∃ key earlier later,
      RepeatedKey m.settings.dedup.key records key earlier later ∧
      m.run target c step records given =
        ⟨[], [], .error (.error (.duplicateKey key earlier.id later.id))⟩ := by
  obtain ⟨himports, hdedup⟩ := hrefuses
  obtain ⟨key, earlier, later, hrepeated, herror⟩ := deduplicate_of_refuses hdedup
  exact ⟨key, earlier, later, hrepeated, run_of_refused himports herror⟩

theorem run_of_lacks_input
    (hlacks : LacksInput step given) :
    m.run target c step records given =
      ⟨[], [], .error (.error (.config .noVerificationInput))⟩ := by
  obtain ⟨rfl, rfl⟩ := hlacks
  rw [run_of_not_imports rfl, conclude_of_no_input rfl]

theorem exists_report
    (hworkers : m.settings.workers ≤ permitLimit)
    (hcounts : target.Counts)
    (haccepts : ¬ m.RefusesRecords step records)
    (hinput : ¬ LacksInput step given)
    (hfits : ¬ m.RunOverflows target step records) :
    ∃ report, (m.run target c step records given).ending = .ok report := by
  refine exists_run_ok hworkers hfits hcounts ?_ ?_
  · intro himports hdedup
    exact haccepts ⟨himports, hdedup⟩
  · intro hstep hgiven
    exact hinput ⟨hstep, hgiven⟩

/-- A run whose counters overflow breaks down on them. -/
theorem ending_of_runOverflows
    (hworkers : m.settings.workers ≤ permitLimit)
    (hoverflows : m.RunOverflows target step records) :
    (m.run target c step records given).ending = .error (.fault .countersOverflowed) := by
  obtain ⟨himports, outcome, hdedup, hoverflows⟩ := hoverflows
  rw [run_of_overflows himports hdedup hworkers hoverflows]

/-- The three reasons for which a run is stopped. -/
theorem reason_of_stop
    (hworkers : m.settings.workers ≤ permitLimit)
    (hcounts : target.Counts)
    {stop : Stop}
    (hstop : (m.run target c step records given).ending = .error stop) :
    m.RefusesRecords step records ∨ LacksInput step given ∨
      m.RunOverflows target step records := by
  by_contra hreason
  rw [not_or, not_or] at hreason
  obtain ⟨haccepts, hinput, hfits⟩ := hreason
  obtain ⟨report, hok⟩ := exists_report (c := c) hworkers hcounts haccepts hinput hfits
  rw [hstop] at hok
  cases hok

theorem reason_of_error
    (hworkers : m.settings.workers ≤ permitLimit)
    (hcounts : target.Counts)
    {error : MigrationError}
    (herror : (m.run target c step records given).ending = .error (.error error)) :
    m.RefusesRecords step records ∨ LacksInput step given := by
  rcases reason_of_stop hworkers hcounts herror with hrefuses | hlacks | hoverflows
  · exact Or.inl hrefuses
  · exact Or.inr hlacks
  · rw [ending_of_runOverflows hworkers hoverflows] at herror
    cases herror

theorem overflows_of_fault
    (hworkers : m.settings.workers ≤ permitLimit)
    (hcounts : target.Counts)
    {fault : Fault}
    (hfault : (m.run target c step records given).ending = .error (.fault fault)) :
    m.RunOverflows target step records := by
  rcases reason_of_stop hworkers hcounts hfault with hrefuses | hlacks | hoverflows
  · obtain ⟨_, _, _, -, hrun⟩ := run_of_refuses hrefuses
    rw [hrun] at hfault
    cases hfault
  · rw [run_of_lacks_input hlacks] at hfault
    cases hfault
  · exact hoverflows

/-- A live run for which duplicates are an error. -/
def strictMigration : Migration where
  settings := { dryRun := false, dedup := { strategy := .error } }
  valid := by decide

/-- Two spellings of one email address, apart from each other. -/
def repeatedRecords : List SourceRecord :=
  [{ id := "1", email := some "ada@x.org" },
    { id := "2", email := some "eve@x.org" },
    { id := "3", email := some " Ada@X.org" }]

theorem refuses_repeatedRecords :
    strictMigration.RefusesRecords .all repeatedRecords := by
  refine ⟨rfl, rfl, "ada@x.org", { id := "1", email := some "ada@x.org" },
    { id := "3", email := some " Ada@X.org" }, ?_, ?_, ?_⟩
  · decide
  · decide
  · decide

/-- A service that makes one account for each request and says that it made as many as a word can
count. -/
def boastfulTarget : Target where
  reply _ call :=
    match call with
    | .bulkImport _ => .answered { imported := 18446744073709551615 }
    | .countUsers => .answered (0 : UInt64)
    | .countProfiles => .answered (0 : UInt64)
    | .findUser _ => .answered none

theorem boastfulTarget_counts :
    boastfulTarget.Counts := by
  intro calls
  constructor
  · intro h
    cases h
  · intro h
    cases h

/-- A live run with batches of one record, in a build that checks its sums. -/
def checkedMigration : Migration where
  settings := { dryRun := false, batchSize := 1 }
  valid := by decide
  counting := .checked

/-- Two records of different accounts. -/
def pairedRecords : List SourceRecord :=
  [{ id := "1", email := some "ada@x.org" }, { id := "2", email := some "eve@x.org" }]

/-- Two answers with the greatest counter are more than the counters can take. -/
theorem runOverflows_pairedRecords :
    checkedMigration.RunOverflows boastfulTarget .importRecords pairedRecords := by
  have hdedup : deduplicate checkedMigration.settings.dedup pairedRecords =
      .ok ⟨pairedRecords, [], { total := 2, unique := 2 }⟩ := by
    decide
  refine ⟨rfl, _, hdedup, rfl, rfl, ?_⟩
  decide +kernel

end Migration
end AccountMigration
