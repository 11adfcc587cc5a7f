import AccountMigration.Proofs.Import.Submitted
import AccountMigration.Proofs.Migration.Courses

/-!
# The words about tasks that break down

A task that breaks down is reported in the words of whoever runs the tasks, and these are not for a
service to decide.  They show in the notes beside the records of its batch and nowhere else: a run
makes the same calls, and ends in the same way, whatever is said about such tasks.

* `Target.mute`: a service about whose breakdowns nothing is said.
* `ImportResult.SameButWords`: results that are the same but for these words.
* `Importer.resultsOf_mute` and `Importer.statsOf_mute`: what the words do to an import.
* `Run.SameButWords`: runs that are the same but for these words.
* `Migration.run_mute` and `Migration.run_mute_of_no_crash`: what the words do to a run.
-/

namespace AccountMigration

/-- The same service, and nothing is said about a task that broke down. -/
def Target.mute
    (target : Target) : Target where
  reply := target.reply
  words calls call :=
    match target.reply calls call with
    | .crashed => none
    | _ => target.words calls call

/-- Results that are the same but for the words about a task that broke down. -/
inductive ImportResult.SameButWords
    (r s : ImportResult) : Prop where
  | same :
      r = s → SameButWords r s
  | crashed (id : String) (first second : Option String) :
      r = .failed (Joining.crashNote first) id →
      s = .failed (Joining.crashNote second) id →
        SameButWords r s

namespace ImportResult.SameButWords

@[refl] theorem refl
    (r : ImportResult) :
    r.SameButWords r :=
  .same rfl

/-- Results that are the same as a third are the same. -/
theorem of_common
    {r s t : ImportResult}
    (hr : r.SameButWords t)
    (hs : s.SameButWords t) :
    r.SameButWords s := by
  rcases hr with rfl | ⟨id, first, second, rfl, ht⟩
  · rcases hs with rfl | ⟨id, first, second, hs, ht⟩
    · exact .same rfl
    · exact .crashed id second first ht hs
  · rcases hs with rfl | ⟨other, third, fourth, rfl, hother⟩
    · exact .crashed id first second rfl ht
    · rw [ht] at hother
      have hid : id = other := congrArg ImportResult.sourceId hother
      exact .crashed id first third rfl (by rw [hid])

theorem forall₂_of_common
    {rs ss ts : List ImportResult}
    (hr : List.Forall₂ SameButWords rs ts)
    (hs : List.Forall₂ SameButWords ss ts) :
    List.Forall₂ SameButWords rs ss := by
  induction hr generalizing ss with
  | nil =>
      cases hs
      exact .nil
  | cons h _ ih =>
      cases hs with
      | cons h' hs => exact .cons (h.of_common h') (ih hs)

end ImportResult.SameButWords

/-- The results of a batch, by the ends of two calls that differ in words about a breakdown only. -/
theorem CallEnd.sameButWords_results
    (batch : List SourceRecord)
    {e f : CallEnd ImportResponse}
    (hreply : e.reply = f.reply)
    (hwords : e.reply ≠ .crashed → e.words = f.words) :
    List.Forall₂ ImportResult.SameButWords (e.results batch) (f.results batch) := by
  obtain ⟨reply, words⟩ := e
  obtain ⟨_, others⟩ := f
  cases hreply
  cases reply with
  | answered response =>
      exact List.forall₂_same.mpr fun r _ => .refl r
  | failed error =>
      obtain rfl : words = others := hwords nofun
      exact List.forall₂_same.mpr fun r _ => .refl r
  | crashed =>
      rw [results, results, List.forall₂_map_left_iff, List.forall₂_map_right_iff,
        List.forall₂_same]
      exact fun r _ => .crashed r.id words others rfl rfl

section Mute

variable (target : Target)

theorem Target.words_mute
    {calls : List Call}
    {call : Call}
    (hreply : target.reply calls call ≠ .crashed) :
    target.mute.words calls call = target.words calls call := by
  simp only [mute]

/-- Words do not show in what a verification finds. -/
theorem Target.findings_mute
    (calls : List Call)
    (users : List SampledUser) :
    target.mute.findings calls users = target.findings calls users := by
  induction users generalizing calls with
  | nil =>
      rfl
  | cons user rest ih =>
      rw [findings, findings, ih]
      rfl

theorem verify_mute
    (schedule : Schedule)
    (workers : Nat)
    (calls : List Call)
    (sourceCount : Nat)
    (sample : List SampledUser) :
    verify target.mute schedule workers calls sourceCount sample =
      verify target schedule workers calls sourceCount sample := by
  have hreply : target.mute.reply = target.reply := rfl
  simp only [verify, verifySample, lookupAll_eq, Target.findings_mute, hreply]

namespace Importer

variable (importer : Importer) (records : List SourceRecord)

/-- The results of an import are the same but for the words. -/
theorem resultsOf_mute :
    List.Forall₂ ImportResult.SameButWords
      (importer.resultsOf target [] records) (importer.resultsOf target.mute [] records) := by
  refine List.rel_flatMap (R := Eq) (List.forall₂_same.mpr fun _ _ => rfl) ?_
  rintro k _ rfl
  exact CallEnd.sameButWords_results _ rfl fun hreply => (target.words_mute hreply).symm

/-- Without a breakdown no words show. -/
theorem resultsOf_mute_of_no_crash
    (hreplies : ∀ calls request, target.reply calls (.bulkImport request) ≠ .crashed) :
    importer.resultsOf target.mute [] records = importer.resultsOf target [] records := by
  have hreply : ∀ k, importer.replyTo target.mute [] records k =
      importer.replyTo target [] records k := fun k =>
    congrArg (CallEnd.mk _) (target.words_mute (hreplies _ _))
  simp only [resultsOf, hreply]

theorem statsOf_mute :
    importer.statsOf target.mute [] records = importer.statsOf target [] records := by
  rfl

end Importer

end Mute

/-- Reports that are the same but for the words about tasks that broke down. -/
structure MigrationReport.SameButWords
    (r s : MigrationReport) : Prop where
  fields : s = { r with importResults := s.importResults }
  results : List.Forall₂ ImportResult.SameButWords r.importResults s.importResults

/-- Runs with the same calls that are stopped alike, or end with reports that are the same but for
the words about tasks that broke down. -/
structure Run.SameButWords
    (a b : Run) : Prop where
  calls : a.calls = b.calls
  ending :
    (∃ stop, a.ending = .error stop ∧ b.ending = .error stop) ∨
      ∃ r s, a.ending = .ok r ∧ b.ending = .ok s ∧ r.SameButWords s

namespace Migration

variable (m : Migration) (target : Target) (c : Circumstances)

section Conclude

variable (step : MigrationStep) (calls : List Call) (given : Option VerificationInput)
  (prepared : Option Prepared)

theorem check_mute :
    m.check target.mute c step calls given prepared =
      m.check target c step calls given prepared := by
  simp only [check, verify_mute]

theorem conclude_mute
    {done other : Delivered}
    (hstats : other.stats = done.stats)
    (hresults : List.Forall₂ ImportResult.SameButWords done.results other.results) :
    (m.conclude target c step calls given prepared done).SameButWords
      (m.conclude target.mute c step calls given prepared other) := by
  simp only [conclude, check_mute]
  refine ⟨rfl, ?_⟩
  rcases (m.check target c step calls given prepared).2 with stop | v
  · exact Or.inl ⟨stop, rfl, rfl⟩
  · refine Or.inr ⟨m.report c step prepared done v, m.report c step prepared other v, rfl, rfl, ?_,
      hresults⟩
    simp only [report, hstats]

end Conclude

theorem delivered_mute
    (records : List SourceRecord) :
    (m.delivered target.mute records).stats = (m.delivered target records).stats ∧
      List.Forall₂ ImportResult.SameButWords (m.delivered target records).results
        (m.delivered target.mute records).results := by
  unfold delivered
  split
  · exact ⟨rfl, .nil⟩
  · exact ⟨rfl, m.importer.resultsOf_mute target records⟩

section Run

variable {target : Target} {c : Circumstances} {step : MigrationStep}
  {records : List SourceRecord} {given : Option VerificationInput}

/-- A run and the same run without words about breakdowns are related when their last stages are. -/
theorem run_mute_cases
    {motive : Run → Run → Prop}
    (stopped : ∀ run stop, run.ending = .error stop → motive run run)
    (delivered : ∀ outcome : DedupOutcome,
      motive (m.concludeWith target c step given outcome)
        (m.concludeWith target.mute c step given outcome))
    (idle : motive (m.conclude target c step [] given none ⟨[], {}⟩)
      (m.conclude target.mute c step [] given none ⟨[], {}⟩)) :
    motive (m.run target c step records given) (m.run target.mute c step records given) := by
  refine run_courses ?_ ?_ ?_ ?_ ?_
  · intro stop himports hdedup
    rw [run_of_refused himports hdedup]
    exact stopped _ stop rfl
  · intro outcome himports hdedup hcrowd
    rw [run_of_overcrowded himports hdedup hcrowd]
    exact stopped _ _ rfl
  · intro outcome himports hdedup hworkers hoverflows
    have hmute : m.Overflows target.mute outcome.records := hoverflows
    rw [run_of_overflows himports hdedup hworkers hmute]
    exact stopped _ _ rfl
  · intro outcome himports hdedup hdelivers
    have hmute : m.Delivers target.mute outcome.records := ⟨hdelivers.permits, hdelivers.counters⟩
    rw [run_of_delivered himports hdedup (deliver_of_delivers hmute)]
    exact delivered outcome
  · intro himports
    rw [run_of_not_imports himports]
    exact idle

end Run

variable (step : MigrationStep) (records : List SourceRecord) (given : Option VerificationInput)

/-- What is said about tasks that broke down shows in the results only. -/
theorem run_mute :
    (m.run target c step records given).SameButWords
      (m.run target.mute c step records given) := by
  refine m.run_mute_cases ?_ ?_ ?_
  · intro run stop hstop
    exact ⟨rfl, Or.inl ⟨stop, hstop, hstop⟩⟩
  · intro outcome
    obtain ⟨hstats, hresults⟩ := m.delivered_mute target outcome.records
    exact m.conclude_mute target c step _ given _ hstats hresults
  · exact m.conclude_mute target c step [] given none rfl .nil

/-- Where no import breaks down, nothing that is said shows. -/
theorem run_mute_of_no_crash
    (hreplies : ∀ calls request, target.reply calls (.bulkImport request) ≠ .crashed) :
    m.run target.mute c step records given = m.run target c step records given := by
  refine m.run_mute_cases (motive := fun run muted => muted = run) ?_ ?_ ?_
  · intro _ _ _
    rfl
  · intro outcome
    simp only [concludeWith, conclude, check_mute, delivered, Importer.statsOf_mute,
      Importer.resultsOf_mute_of_no_crash target m.importer _ hreplies]
  · simp only [conclude, check_mute]

end Migration

end AccountMigration
