import AccountMigration.Proofs.Dedup.Respelling
import AccountMigration.Proofs.Migration.Breakdown
import AccountMigration.Proofs.Text.Trim

/-!
# Blanks around fields

The fields of the source may have blanks around them, and a field may be blank instead of absent.
Fields are trimmed on every way to a key or to a request, so a run of trimmed records refuses the
same keys and sends the same requests, and records that differ in such blanks only are sent alike.

* `SourceRecord.trimmed`: a record without blanks around its fields.
* `SourceRecord.toEntry_trimmed`: its entry is that of the record.
* `Run.submission`: what a run sends, and how it ends as far as blanks do not matter.
* `Migration.submission_trimmed`: the submission of trimmed records.
* `Migration.padding_is_not_sent`: runs of records that differ in blanks only.
* `Migration.padded_import_breaks_down`: a run that ends neither with a report nor with an error.
-/

namespace AccountMigration

open Text

/-- The same record without blanks around its fields; fields with nothing else are left out. -/
def SourceRecord.trimmed
    (r : SourceRecord) : SourceRecord :=
  { r with
    id := trim r.id
    email := present? r.email
    username := present? r.username
    phone := present? r.phone
    passwordHash := present? r.passwordHash
    fullName := present? r.fullName }

/-- Trimming keeps keys and times. -/
def Respelling.trimming : Respelling where
  record := SourceRecord.trimmed
  id := trim
  id_record := fun _ => rfl
  key?_record := by
    intro r selector
    cases selector <;> simp [SourceRecord.key?, SourceRecord.trimmed]
  createdAt_record := fun _ => rfl

/-- What a run sends, and how it ends: with the counts of its deduplication, or with the reason for
which it is stopped, where ids are trimmed. -/
structure Submission where
  requests : List ImportRequest
  ending : Except Stop DedupStats

/-- The submission of a run. -/
def Run.submission
    (run : Run) : Submission where
  requests := requestsOf run.calls
  ending := (run.ending.map (·.dedupStats)).mapError Respelling.trimming.stop

/-- How runs end alike: both refuse one key, which they find in records with the same ids but for
blanks, both report the same counts of a deduplication, or both break down in one way. -/
inductive Run.AlikeButBlanks
    (a b : Run) : Prop where
  | refused (key existingId duplicateId existingId' duplicateId' : String) :
      a.ending = .error (.error (.duplicateKey key existingId duplicateId)) →
      b.ending = .error (.error (.duplicateKey key existingId' duplicateId')) →
      trim existingId = trim existingId' →
      trim duplicateId = trim duplicateId' →
        AlikeButBlanks a b
  | reported (r s : MigrationReport) :
      a.ending = .ok r →
      b.ending = .ok s →
      r.dedupStats = s.dedupStats →
        AlikeButBlanks a b
  | brokenDown (fault : Fault) :
      a.ending = .error (.fault fault) →
      b.ending = .error (.fault fault) →
        AlikeButBlanks a b

section Parts

/-- A trimmed record has the entry of the record. -/
theorem SourceRecord.toEntry_trimmed
    (rules : EntryRules)
    (r : SourceRecord) :
    r.trimmed.toEntry rules = r.toEntry rules := by
  have hid : rules.idOf (trim r.id) = rules.idOf r.id := by
    simp only [EntryRules.idOf, trim_trim]
  have hhash : rules.hashOf (present? r.passwordHash) = rules.hashOf r.passwordHash := by
    simp only [EntryRules.hashOf, present?_present?]
  simp only [toEntry, trimmed, present?_present?, hid, hhash]

/-- Trimmed records are submitted by the same request. -/
theorem requestOf_trimmed
    (rules : EntryRules)
    (onConflict : ConflictStrategy)
    (batch : List SourceRecord) :
    requestOf rules onConflict (batch.map SourceRecord.trimmed) =
      requestOf rules onConflict batch := by
  simp [requestOf, SourceRecord.toEntry_trimmed, Function.comp_def]

namespace Importer

variable (importer : Importer) (target : Target) (records : List SourceRecord)

theorem callOf_trimmed
    (batch : List SourceRecord) :
    importer.callOf (batch.map SourceRecord.trimmed) = importer.callOf batch := by
  rw [callOf, requestOf_trimmed, callOf]

theorem map_callOf_trimmed :
    (importer.batchesOf (records.map SourceRecord.trimmed)).map importer.callOf =
      (importer.batchesOf records).map importer.callOf := by
  simp [batchesOf_map, callOf_trimmed, Function.comp_def]

/-- The calls of trimmed batches end as those of the batches do. -/
theorem replyTo_trimmed
    (k : Nat) :
    importer.replyTo target [] (records.map SourceRecord.trimmed) k =
      importer.replyTo target [] records k := by
  -- the reply is to a request, so that its type does not depend on the call
  have hends : ∀ (calls : List Call) (request other : ImportRequest), request = other →
      (target.callEnd calls (.bulkImport request) : CallEnd ImportResponse) =
        target.callEnd calls (.bulkImport other) := by
    rintro calls request _ rfl
    rfl
  have hsent : ∀ j, importer.callOf (importer.batchAt (records.map SourceRecord.trimmed) j) =
      importer.callOf (importer.batchAt records j) := by
    intro j
    rw [batchAt_map, callOf_trimmed]
  simp only [replyTo, hsent]
  exact hends _ _ _ (by rw [batchAt_map, requestOf_trimmed])

/-- Trimmed records add the same to the counters. -/
theorem statsOf_trimmed :
    importer.statsOf target [] (records.map SourceRecord.trimmed) =
      importer.statsOf target [] records := by
  simp only [statsOf, batchCount_map, batchAt_map, replyTo_trimmed, CallEnd.stats_map]

end Importer

theorem Respelling.stop_trimming
    (stop : Stop) :
    Respelling.trimming.stop (Respelling.trimming.stop stop) = Respelling.trimming.stop stop := by
  rcases stop with (cause | ⟨key, existingId, duplicateId⟩) | fault
  · rfl
  · simp [Respelling.stop, Respelling.trimming]
  · rfl

/-- Whether a verification comes to its report depends neither on its input nor on the order in
which its lookups finish. -/
theorem verify_ending_const
    {α : Type}
    (target : Target)
    (schedule other : Schedule)
    (workers : Nat)
    (calls : List Call)
    (input twin : VerificationInput)
    (x : α) :
    (verify target schedule workers calls input.sourceCount input.sample).ending.map (fun _ => x) =
      (verify target other workers calls twin.sourceCount twin.sample).ending.map
        (fun _ => x) := by
  rw [verify_ending, verify_ending]
  rcases countOrZero (target.reply calls .countUsers) with fault | users
  · rfl
  · rcases hprofiles : countOrZero (target.reply (calls ++ [.countUsers]) .countProfiles) with
      fault | profiles
    · simp only [hprofiles]
      rfl
    · simp only [hprofiles]
      rcases grantPermits (max workers 1) with fault | _
      · rfl
      · rfl

end Parts

namespace Migration

variable {m : Migration} {target : Target} {c d : Circumstances} {step : MigrationStep}
  {records others : List SourceRecord} {given : Option VerificationInput}
  {outcome : DedupOutcome}

theorem sendings_trimmed
    (m : Migration)
    (records : List SourceRecord) :
    m.sendings (records.map SourceRecord.trimmed) = m.sendings records := by
  simp only [sendings, Importer.map_callOf_trimmed]

theorem overcrowded_trimmed
    (m : Migration)
    (records : List SourceRecord) :
    m.Overcrowded (records.map SourceRecord.trimmed) ↔ m.Overcrowded records := by
  simp [Overcrowded]

theorem overflows_trimmed
    (m : Migration)
    (target : Target)
    (records : List SourceRecord) :
    m.Overflows target (records.map SourceRecord.trimmed) ↔ m.Overflows target records := by
  simp only [Overflows, Importer.statsOf_trimmed]

/-- Whether the verification of prepared records comes to its report does not depend on them. -/
theorem check_const
    {α : Type}
    (calls : List Call)
    (p q : Prepared)
    (x : α) :
    (m.check target c step calls given (some p)).2.map (fun _ => x) =
      (m.check target d step calls given (some q)).2.map (fun _ => x) := by
  obtain ⟨input, hinput⟩ := exists_inputOf_prepared (c := c) given p
  obtain ⟨twin, htwin⟩ := exists_inputOf_prepared (c := d) given q
  cases hverifies : step.verifies with
  | false =>
      rw [check_of_not_verifies hverifies, check_of_not_verifies hverifies]
  | true =>
      have hverify := verify_ending_const target c.lookups d.lookups m.settings.workers calls
        input twin x
      rw [check_of_input hverifies hinput, check_of_input hverifies htwin]
      generalize (verify target c.lookups m.settings.workers calls input.sourceCount
        input.sample).ending = first at hverify ⊢
      generalize (verify target d.lookups m.settings.workers calls twin.sourceCount
        twin.sample).ending = second at hverify ⊢
      rcases first with fault | v
      · rcases second with fault' | w
        · cases hverify
          rfl
        · cases hverify
      · rcases second with fault' | w
        · cases hverify
        · rfl

/-- The submission of a run that comes to its last stage. -/
theorem submission_conclude
    (calls : List Call)
    (p : Prepared)
    (done : Delivered) :
    (m.conclude target c step calls given (some p) done).submission =
      ⟨requestsOf calls, ((m.check target c step calls given (some p)).2.map
        fun _ => p.stats).mapError Respelling.trimming.stop⟩ := by
  rw [Run.submission, requestsOf_conclude]
  simp only [conclude]
  rcases (m.check target c step calls given (some p)).2 with stop | v
  · rfl
  · rfl

/-- Trimmed records come through the last stage with the submission of the records. -/
theorem submission_concludeWith
    (outcome : DedupOutcome) :
    (m.concludeWith target d step given (Respelling.trimming.outcome outcome)).submission =
      (m.concludeWith target c step given outcome).submission := by
  have hcalls : m.sendings (Respelling.trimming.outcome outcome).records =
      m.sendings outcome.records := m.sendings_trimmed outcome.records
  rw [concludeWith, concludeWith, submission_conclude, submission_conclude, hcalls,
    check_const (c := d) (d := c) _ _ (m.preparedOf outcome)]
  rfl

/-- A run of trimmed records has the submission of the records. -/
theorem submission_trimmed
    (himports : step.imports = true) :
    (m.run target d step (records.map SourceRecord.trimmed) given).submission =
      (m.run target c step records given).submission := by
  have hdedup : deduplicate m.settings.dedup (records.map SourceRecord.trimmed) =
      Respelling.trimming.ending Respelling.trimming.outcome
        (deduplicate m.settings.dedup records) :=
    Respelling.trimming.deduplicate_map m.settings.dedup records
  rcases hcause : deduplicate m.settings.dedup records with stop | outcome
  · rw [hcause] at hdedup
    rw [run_of_refused himports hcause, run_of_refused himports hdedup]
    exact congrArg (fun s => (⟨[], .error s⟩ : Submission)) (Respelling.stop_trimming stop)
  · rw [hcause] at hdedup
    by_cases hcrowd : m.Overcrowded outcome.records
    · have hcrowd' := (m.overcrowded_trimmed outcome.records).mpr hcrowd
      rw [run_of_overcrowded himports hcause hcrowd, run_of_overcrowded himports hdedup hcrowd']
      rfl
    · have hcrowd' := mt (m.overcrowded_trimmed outcome.records).mp hcrowd
      by_cases hmuch : m.Overflows target outcome.records
      · have hmuch' := (m.overflows_trimmed target outcome.records).mpr hmuch
        have hworkers := workers_of_overflows hcrowd hmuch
        rw [run_of_overflows himports hcause hworkers hmuch,
          run_of_overflows himports hdedup hworkers hmuch']
        simp only [Run.submission, Respelling.outcome, Respelling.trimming, sendings_trimmed]
      · have hmuch' := mt (m.overflows_trimmed target outcome.records).mp hmuch
        rw [run_of_delivered himports hcause (deliver_of_delivers ⟨hcrowd, hmuch⟩),
          run_of_delivered himports hdedup (deliver_of_delivers ⟨hcrowd', hmuch'⟩)]
        exact submission_concludeWith outcome

/-- Runs that stop for reasons which are the same but for blanks end alike. -/
theorem alike_of_stops
    {a b : Run}
    {stop other : Stop}
    (ha : a.ending = .error stop)
    (hb : b.ending = .error other)
    (hstop : (∃ key existingId duplicateId,
      stop = .error (.duplicateKey key existingId duplicateId)) ∨ ∃ fault, stop = .fault fault)
    (hsame : Respelling.trimming.stop stop = Respelling.trimming.stop other) :
    a.AlikeButBlanks b := by
  rcases hstop with ⟨key, existingId, duplicateId, rfl⟩ | ⟨fault, rfl⟩
  · rcases other with (cause | ⟨key', existingId', duplicateId'⟩) | fault
    · cases hsame
    · simp only [Respelling.stop, Stop.error.injEq, MigrationError.duplicateKey.injEq] at hsame
      obtain ⟨rfl, hexisting, hduplicate⟩ := hsame
      exact .refused key existingId duplicateId existingId' duplicateId' ha hb hexisting hduplicate
    · cases hsame
  · rcases other with (cause | ⟨key', existingId', duplicateId'⟩) | fault'
    · cases hsame
    · cases hsame
    · cases hsame
      exact .brokenDown fault ha hb

section Pairs

variable (himports : step.imports = true)
  (hrecords : records.map SourceRecord.trimmed = others.map SourceRecord.trimmed)
include himports hrecords

theorem submission_of_trimmed
    (m : Migration)
    (target : Target)
    (c d : Circumstances)
    (given : Option VerificationInput) :
    (m.run target c step records given).submission =
      (m.run target d step others given).submission := by
  rw [← submission_trimmed (d := d) himports, hrecords, submission_trimmed (c := d) himports]

/-- The runs end alike. -/
theorem alike_of_trimmed :
    (m.run target c step records given).AlikeButBlanks (m.run target d step others given) := by
  have hending := congrArg Submission.ending
    (submission_of_trimmed himports hrecords m target c d given)
  simp only [Run.submission] at hending
  rcases hfirst : (m.run target c step records given).ending with stop | r
  · rcases hsecond : (m.run target d step others given).ending with other | s
    · rw [hfirst, hsecond] at hending
      exact alike_of_stops hfirst hsecond (stop_of_imports himports hfirst)
        (Except.error.inj hending)
    · rw [hfirst, hsecond] at hending
      cases hending
  · rcases hsecond : (m.run target d step others given).ending with other | s
    · rw [hfirst, hsecond] at hending
      cases hending
    · rw [hfirst, hsecond] at hending
      exact .reported r s hfirst hsecond (Except.ok.inj hending)

end Pairs

/-- Records with blanks around their fields and with blank fields; two have one email address. -/
def paddedRecords : List SourceRecord :=
  [{ id := " 1", email := some "ada@x.org\t", username := some "  " },
    { id := "2 ", email := some " bob@x.org ", phone := some " 555" },
    { id := "3", email := some " Ada@x.org", fullName := some "\u00a0Eve" }]

/-- The same records without the blanks. -/
def bareRecords : List SourceRecord :=
  [{ id := "1", email := some "ada@x.org" },
    { id := "2", email := some "bob@x.org", phone := some "555" },
    { id := "3", email := some "Ada@x.org", fullName := some "Eve" }]

/-- The lone record with blanks around its fields. -/
def paddedLoneRecord : List SourceRecord :=
  [{ id := " 1 ", email := some " ada@x.org" }]

end Migration

end AccountMigration
