import AccountMigration.Proofs.Migration.Stages

/-!
# The courses of a run

Whatever the settings, a run takes one of five courses: its records are refused, there are too many
workers to send them, the counters overflow, it comes to its last stage after a delivery, or it has
nothing to deliver and comes there at once.  No course depends on the clock, the order of completion
or the draw.

* `Migration.Overcrowded`: records are to be sent by more workers than there can be permits.
* `Migration.Delivers`: a delivery that comes to its end.
* `Migration.deliver_of_overcrowded`, `Migration.deliver_of_overflows` and
  `Migration.deliver_of_delivers`: the three ways of a delivery.
* `Migration.run_courses`: the five courses of a run, as a principle of proof.
* `Migration.stop_of_imports`: the two reasons for which a run that imports is stopped.
-/

namespace AccountMigration

/-- Records are to be sent by more workers than there can be permits. -/
def Migration.Overcrowded
    (m : Migration)
    (records : List SourceRecord) : Prop :=
  permitLimit < m.settings.workers ∧ m.settings.dryRun = false ∧ records ≠ []

/-- There are permits for those who send the records, and the counters can take what comes of it. -/
structure Migration.Delivers
    (m : Migration)
    (target : Target)
    (records : List SourceRecord) : Prop where
  permits : ¬ m.Overcrowded records
  counters : ¬ m.Overflows target records

namespace Migration

variable {m : Migration} {target : Target} {c : Circumstances} {step : MigrationStep}
  {records : List SourceRecord} {given : Option VerificationInput}

/-- A live delivery of records with more workers than permits breaks down. -/
theorem deliver_of_overcrowded
    (hcrowd : m.Overcrowded records) :
    m.deliver target c records = ([], .error (.tooManyPermits m.settings.workers)) := by
  obtain ⟨hworkers, hlive, hrecords⟩ := hcrowd
  have hfault := m.importer.importAll_of_too_many target []
    records c.batches hworkers hrecords
  simp only [deliver, hlive, Bool.false_eq_true, if_false, hfault]
  rfl

/-- Without too many workers there are permits for all of them, or nothing to send. -/
theorem permits_or_nothing
    (hroom : ¬ m.Overcrowded records) :
    m.settings.workers ≤ permitLimit ∨ m.settings.dryRun = true ∨ records = [] := by
  by_contra hcrowd
  rw [not_or, not_or, not_le, Bool.not_eq_true] at hcrowd
  exact hroom hcrowd

/-- Counters overflow only where records are sent. -/
theorem workers_of_overflows
    (hroom : ¬ m.Overcrowded records)
    (hoverflows : m.Overflows target records) :
    m.settings.workers ≤ permitLimit := by
  rcases permits_or_nothing hroom with hworkers | hdry | rfl
  · exact hworkers
  · rw [hoverflows.1] at hdry
    cases hdry
  · exact absurd hoverflows not_overflows_nil

/-- Any other delivery comes out in closed form. -/
theorem deliver_of_delivers
    (h : m.Delivers target records) :
    m.deliver target c records = (m.sendings records, .ok (m.delivered target records)) := by
  rcases permits_or_nothing h.permits with hworkers | hnothing
  · exact deliver_eq hworkers h.counters
  · exact deliver_of_nothing hnothing

/-- A run with more workers than permits breaks down when it comes to send records. -/
theorem run_of_overcrowded
    (himports : step.imports = true)
    {outcome : DedupOutcome}
    (hdedup : deduplicate m.settings.dedup records = .ok outcome)
    (hcrowd : m.Overcrowded outcome.records) :
    m.run target c step records given =
      ⟨[], passwordWarnings m.settings.entries outcome.records,
        .error (.fault (.tooManyPermits m.settings.workers))⟩ := by
  have hrecords : (m.preparedOf outcome).records = outcome.records := rfl
  simp only [run, himports, if_true, prepare_eq hdedup, hrecords, deliver_of_overcrowded hcrowd]
  rfl

/-- A run whose counters overflow breaks down when it counts what became of the records. -/
theorem run_of_overflows
    (himports : step.imports = true)
    {outcome : DedupOutcome}
    (hdedup : deduplicate m.settings.dedup records = .ok outcome)
    (hworkers : m.settings.workers ≤ permitLimit)
    (hoverflows : m.Overflows target outcome.records) :
    m.run target c step records given =
      ⟨m.sendings outcome.records, passwordWarnings m.settings.entries outcome.records,
        .error (.fault .countersOverflowed)⟩ := by
  have hrecords : (m.preparedOf outcome).records = outcome.records := rfl
  simp only [run, himports, if_true, prepare_eq hdedup, hrecords,
    deliver_of_overflows hworkers hoverflows]
  rfl

/-- The five courses of a run: its records are refused, there are too many workers to send them, the
counters overflow, it comes to its last stage after a delivery, or it comes there at once. -/
@[elab_as_elim]
theorem run_courses
    {motive : Run → Prop}
    (refused : ∀ stop,
      step.imports = true → deduplicate m.settings.dedup records = .error stop →
        motive ⟨[], [], .error stop⟩)
    (overcrowded : ∀ outcome,
      step.imports = true → deduplicate m.settings.dedup records = .ok outcome →
      m.Overcrowded outcome.records →
        motive ⟨[], passwordWarnings m.settings.entries outcome.records,
          .error (.fault (.tooManyPermits m.settings.workers))⟩)
    (overflowed : ∀ outcome,
      step.imports = true → deduplicate m.settings.dedup records = .ok outcome →
      m.settings.workers ≤ permitLimit → m.Overflows target outcome.records →
        motive ⟨m.sendings outcome.records, passwordWarnings m.settings.entries outcome.records,
          .error (.fault .countersOverflowed)⟩)
    (delivered : ∀ outcome,
      step.imports = true → deduplicate m.settings.dedup records = .ok outcome →
      m.Delivers target outcome.records →
        motive (m.concludeWith target c step given outcome))
    (idle : step.imports = false →
      motive (m.conclude target c step [] given none ⟨[], {}⟩)) :
    motive (m.run target c step records given) := by
  cases himports : step.imports with
  | false =>
      rw [run_of_not_imports himports]
      exact idle himports
  | true =>
      rcases hdedup : deduplicate m.settings.dedup records with stop | outcome
      · rw [run_of_refused himports hdedup]
        exact refused stop himports hdedup
      · by_cases hcrowd : m.Overcrowded outcome.records
        · rw [run_of_overcrowded himports hdedup hcrowd]
          exact overcrowded outcome himports hdedup hcrowd
        · by_cases hoverflows : m.Overflows target outcome.records
          · have hworkers := workers_of_overflows hcrowd hoverflows
            rw [run_of_overflows himports hdedup hworkers hoverflows]
            exact overflowed outcome himports hdedup hworkers hoverflows
          · have hdelivers : m.Delivers target outcome.records := ⟨hcrowd, hoverflows⟩
            rw [run_of_delivered himports hdedup (deliver_of_delivers hdelivers)]
            exact delivered outcome himports hdedup hdelivers

/-- The last stage of a run that imports is stopped by a fault only. -/
theorem fault_of_conclude
    {calls : List Call}
    {p : Prepared}
    {done : Delivered}
    {stop : Stop}
    (hstop : (m.conclude target c step calls given (some p) done).ending = .error stop) :
    ∃ fault, stop = .fault fault := by
  obtain ⟨input, hinput⟩ := exists_inputOf_prepared (c := c) given p
  simp only [conclude] at hstop
  cases hverifies : step.verifies with
  | false =>
      rw [check_of_not_verifies hverifies] at hstop
      cases hstop
  | true =>
      rw [check_of_input hverifies hinput] at hstop
      generalize (verify target c.lookups m.settings.workers calls input.sourceCount
        input.sample).ending = ending at hstop
      rcases ending with fault | v
      · exact ⟨fault, (Except.error.inj hstop).symm⟩
      · cases hstop

/-- A run that imports is stopped for a repeated key or by a fault. -/
theorem stop_of_imports
    (himports : step.imports = true)
    {stop : Stop}
    (hstop : (m.run target c step records given).ending = .error stop) :
    (∃ key existingId duplicateId,
      stop = .error (.duplicateKey key existingId duplicateId)) ∨
      ∃ fault, stop = .fault fault := by
  revert hstop
  refine run_courses ?_ ?_ ?_ ?_ ?_
  · intro refusal _ hdedup hstop
    obtain rfl := Except.error.inj hstop
    exact Or.inl (duplicateKey_of_deduplicate hdedup)
  · intro _ _ _ _ hstop
    exact Or.inr ⟨_, (Except.error.inj hstop).symm⟩
  · intro _ _ _ _ _ hstop
    exact Or.inr ⟨_, (Except.error.inj hstop).symm⟩
  · intro _ _ _ _ hstop
    exact Or.inr (fault_of_conclude hstop)
  · intro hidle
    rw [himports] at hidle
    cases hidle

end Migration

end AccountMigration
