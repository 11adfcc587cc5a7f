import AccountMigration.Proofs.Migration.Stages
import AccountMigration.Proofs.Uuid
import AccountMigration.Proofs.Verification.Samples

/-!
# What a run verifies against a faithful service

An import sends ids in their canonical spelling and email addresses without blanks around
them; a verification looks up ids and compares addresses as they stand in the records.  So
against a service that keeps what it is sent, a verification finds fault with exactly those
sampled records that are not spelled as they are sent.

* `SampledUser.Verbatim`: a user whose id and email address are sent as they are.
* `sentEntries_importing`: an import sends the entries of its records, in whatever batches.
* `found_of_showsSent`: what the lookup of a record shows.
* `VerificationReport.Lists`: a report of the users that are not sent as they are.
* `verifying_reports`: a verification reports these users of its sample and no others.
* `run_all_reports`: the same for whole runs, with the condition for a report without faults.
-/

namespace AccountMigration

open Text

/-- Records whose trimmed ids are spellings of different UUIDs. -/
def HaveDistinctUuids
    (records : List SourceRecord) : Prop :=
  ∃ uuids : List Uuid,
    records.map (fun r => Uuid.ofText? (trim r.id)) = uuids.map some ∧ uuids.Nodup

namespace SampledUser

/-- A user whose id is the canonical spelling of a UUID and whose email address, if there is
one, is not blank and has no blanks around it. -/
def Verbatim
    (user : SampledUser) : Prop :=
  (∃ u : Uuid, u.toText = user.id) ∧ present? user.email = user.email

/-- The missing user that is reported when the id of a user is not in its canonical spelling. -/
def missing?
    (user : SampledUser) : Option MissingUser :=
  if Uuid.isCanonical user.id then none else some ⟨user.id, user.email.getD ""⟩

/-- The mismatch that is reported when only the email address is not sent as it is. -/
def mismatch?
    (user : SampledUser) : Option FieldMismatch :=
  if Uuid.isCanonical user.id then
    if present? user.email = user.email then none
    else some ⟨user.id, "email", user.email.getD "", (present? user.email).getD ""⟩
  else none

/-- A user that is sent verbatim is reported neither way, and any other user is. -/
theorem verbatim_iff
    {user : SampledUser} :
    user.Verbatim ↔ user.missing? = none ∧ user.mismatch? = none := by
  rw [Verbatim, ← Uuid.isCanonical_iff, missing?, mismatch?]
  by_cases hid : Uuid.isCanonical user.id = true
  · simp [hid]
  · simp [hid]

end SampledUser

/-- A report that lists those of the given users who are not sent as they are, in order. -/
structure VerificationReport.Lists
    (v : VerificationReport)
    (users : List SampledUser) : Prop where
  missing : v.missingUsers = users.filterMap SampledUser.missing?
  mismatches : v.mismatches = users.filterMap SampledUser.mismatch?

/-- A report without faults means that all users are sent as they are. -/
theorem VerificationReport.Lists.faultless_iff
    {v : VerificationReport}
    {users : List SampledUser}
    (h : v.Lists users) :
    v.missingUsers = [] ∧ v.mismatches = [] ↔ ∀ user ∈ users, user.Verbatim := by
  rw [h.missing, h.mismatches, List.filterMap_eq_nil_iff, List.filterMap_eq_nil_iff]
  simp only [SampledUser.verbatim_iff]
  constructor
  · rintro ⟨hmissing, hmismatch⟩ user huser
    exact ⟨hmissing user huser, hmismatch user huser⟩
  · intro hall
    exact ⟨fun user huser => (hall user huser).1, fun user huser => (hall user huser).2⟩

section Ids

variable {rules : EntryRules} {records : List SourceRecord} {r : SourceRecord}

/-- Two records with ids of the same UUID are the same record. -/
theorem HaveDistinctUuids.eq_of_ofText?
    (hspelled : HaveDistinctUuids records)
    (hr : r ∈ records)
    {s : SourceRecord}
    (hs : s ∈ records)
    (heq : Uuid.ofText? (trim r.id) = Uuid.ofText? (trim s.id)) :
    r = s := by
  obtain ⟨uuids, hmap, hnodup⟩ := hspelled
  have hids : (records.map fun r => Uuid.ofText? (trim r.id)).Nodup := by
    rw [hmap]
    exact hnodup.map fun u w h => Option.some.inj h
  exact List.inj_on_of_nodup_map hids hr hs heq

/-- An id is sent as another text exactly when this is the canonical spelling of its UUID. -/
theorem EntryRules.idOf_eq_some_iff
    (hids : rules.ids = .preserveUuid)
    {id sent : String} :
    rules.idOf id = some sent ↔ ∃ u, Uuid.ofText? (trim id) = some u ∧ u.toText = sent := by
  rw [idOf, hids]
  exact Option.map_eq_some_iff

theorem EntryRules.idOf_toText
    (hids : rules.ids = .preserveUuid)
    (u : Uuid) :
    rules.idOf u.toText = some u.toText := by
  rw [idOf_eq_some_iff hids]
  exact ⟨u, by rw [u.trim_toText, u.ofText?_toText], rfl⟩

/-- The lookup of a record shows its trimmed email address when its id is spelled canonically,
and nobody otherwise. -/
theorem found_of_showsSent
    (hids : rules.ids = .preserveUuid)
    (hspelled : HaveDistinctUuids records)
    (hr : r ∈ records)
    {found : Option TargetUser}
    (hshows : ShowsSent (records.map (SourceRecord.toEntry rules)) r.id found) :
    found.map (·.email) = if Uuid.isCanonical r.id then some (present? r.email) else none := by
  by_cases hcanonical : Uuid.isCanonical r.id = true
  · obtain ⟨u, hu⟩ := Uuid.isCanonical_iff.mp hcanonical
    have hsent : rules.idOf r.id = some r.id := by
      rw [← hu]
      exact EntryRules.idOf_toText hids u
    rw [if_pos hcanonical]
    cases found with
    | none =>
        exact absurd hsent (hshows (r.toEntry rules) (List.mem_map_of_mem hr))
    | some user =>
        obtain ⟨entry, hentry, hid, hemail⟩ := hshows
        obtain ⟨s, hs, rfl⟩ := List.mem_map.mp hentry
        -- the account that is shown was sent for a record with the same UUID
        obtain ⟨w, hw, hwtext⟩ := (EntryRules.idOf_eq_some_iff hids).mp hid
        have hr' : Uuid.ofText? (trim r.id) = some w := by
          rw [← hwtext, w.trim_toText, w.ofText?_toText]
        have heq : r = s := hspelled.eq_of_ofText? hr hs (hr'.trans hw.symm)
        subst heq
        exact congrArg some hemail
  · rw [if_neg hcanonical]
    cases found with
    | none =>
        rfl
    | some user =>
        obtain ⟨entry, hentry, hid, -⟩ := hshows
        obtain ⟨s, -, rfl⟩ := List.mem_map.mp hentry
        obtain ⟨w, -, hwtext⟩ := (EntryRules.idOf_eq_some_iff hids).mp hid
        exact absurd (Uuid.isCanonical_iff.mpr ⟨w, hwtext⟩) hcanonical

end Ids

section Pairs

variable {user : SampledUser} {found : Option TargetUser}

/-- What a user and its lookup add to a report, when the lookup shows the trimmed email address
of a canonical id and nobody for another id. -/
theorem missingOf?_eq
    (hfound : found.map (·.email) =
      if Uuid.isCanonical user.id then some (present? user.email) else none) :
    missingOf? (user, found) = user.missing? ∧ mismatchOf? (user, found) = user.mismatch? := by
  unfold SampledUser.missing? SampledUser.mismatch?
  by_cases hid : Uuid.isCanonical user.id = true
  · rw [if_pos hid] at hfound
    obtain ⟨other, rfl, hemail⟩ := Option.map_eq_some_iff.mp hfound
    simp [missingOf?, mismatchOf?, hid, hemail]
  · rw [if_neg hid, Option.map_eq_none_iff] at hfound
    subst hfound
    simp [missingOf?, mismatchOf?, hid]

end Pairs

namespace Migration

variable {m : Migration} {target : Target} {c : Circumstances} {records : List SourceRecord}
  {outcome : DedupOutcome}

/-- An import sends the entries of its records in order, in whatever batches. -/
theorem sentEntries_importing
    (hworkers : m.settings.workers ≤ permitLimit) :
    sentEntries (m.importing target c records).calls =
      records.map (SourceRecord.toEntry m.settings.entries) := by
  rw [importing, Importer.importAll_eq _ target m.importer_settled c.batches [] records hworkers,
    List.nil_append, Importer.sentEntries_batchesOf]
  rfl

/-- A verification against a faithful service reports the sampled users that are not sent as
they are: as missing when their ids are not, and otherwise as different. -/
theorem verifying_reports
    (htarget : target.Faithful)
    (hids : m.settings.entries.ids = .preserveUuid)
    (hspelled : HaveDistinctUuids outcome.records)
    {v : VerificationReport}
    (hverify : (m.verifying target c outcome).ending = .ok v) :
    v.Lists (c.draw.sample outcome.records sampleLimit) := by
  obtain ⟨hworkers, hmissing, hmismatches⟩ := verify_ok hverify
  have hpairs : ∀ pair ∈ target.lookedUp (m.importing target c outcome.records).calls
      (c.draw.sample outcome.records sampleLimit),
      missingOf? pair = pair.1.missing? ∧ mismatchOf? pair = pair.1.mismatch? := by
    rintro ⟨user, found⟩ hpair
    obtain ⟨huser, more, hmore, hreply⟩ := mem_lookedUp hpair
    obtain ⟨r, hr, rfl⟩ := Draw.mem_sample huser
    obtain ⟨shown, hshown, hshows⟩ :=
      htarget.finds ((m.importing target c outcome.records).calls ++ more) r.id
    rw [sentEntries_append, sentEntries_of_no_request hmore, List.append_nil,
      sentEntries_importing hworkers] at hshows
    have hfound : found = shown := by
      have hid : (SampledUser.ofRecord r).id = r.id := rfl
      rw [hid, hshown] at hreply
      exact hreply
    subst hfound
    exact missingOf?_eq (found_of_showsSent hids hspelled hr hshows)
  have hlength := c.draw.length_sample_le outcome.records sampleLimit
  constructor
  · rw [hmissing]
    exact filterMap_lookedUp hlength fun pair hpair => (hpairs pair hpair).1
  · rw [hmismatches]
    exact filterMap_lookedUp hlength fun pair hpair => (hpairs pair hpair).2

/-- The verification of a whole run, against a faithful service and for a run that ends with a
report. -/
theorem run_all_verification
    (htarget : target.Faithful)
    (hlive : m.settings.dryRun = false)
    (hids : m.settings.entries.ids = .preserveUuid)
    (hdedup : deduplicate m.settings.dedup records = .ok outcome)
    (hspelled : HaveDistinctUuids outcome.records)
    {report : MigrationReport}
    (hrun : (m.run target c .all records none).ending = .ok report) :
    ∃ v, report.verification = some v ∧
      v.Lists (c.draw.sample outcome.records sampleLimit) := by
  obtain ⟨v, hv, hverify⟩ := run_all_ok hlive hdedup hrun
  exact ⟨v, hv, verifying_reports htarget hids hspelled hverify⟩

/-- A whole run ends with a report, when there are not too many workers, the counters do not
overflow and the counts of the service do not break down. -/
theorem exists_run_all_report
    (hlive : m.settings.dryRun = false)
    (hdedup : deduplicate m.settings.dedup records = .ok outcome)
    (hworkers : m.settings.workers ≤ permitLimit)
    (hfits : ¬ m.Overflows target outcome.records)
    (hcounts : target.Counts) :
    ∃ report, (m.run target c .all records none).ending = .ok report := by
  have himport := (congrArg Importing.ending (m.importer.importAll_eq target m.importer_settled
    c.batches [] outcome.records hworkers)).trans (settled_of_not_overflows hlive hfits)
  obtain ⟨v, hverify⟩ := exists_verify_ok hworkers (hcounts _).1 (hcounts _).2
  exact exists_run_all_ok hlive hdedup himport hverify

/--
What a whole run verifies against a faithful service, for records whose ids are spellings of
different UUIDs.  The run ends with a report when there are not too many workers, the counters do
not overflow, as they never do when they are unbounded, and the counts do not break down.  Its
verification reports the sampled users that are not sent as they are.
When all records are sent as they are, no draw finds fault with them; and with a record that is
not, some draw does. -/
theorem run_all_reports
    (htarget : target.Faithful)
    (hlive : m.settings.dryRun = false)
    (hids : m.settings.entries.ids = .preserveUuid)
    (hdedup : deduplicate m.settings.dedup records = .ok outcome)
    (hspelled : HaveDistinctUuids outcome.records) :
    (m.settings.workers ≤ permitLimit → ¬ m.Overflows target outcome.records → target.Counts →
      ∀ c, ∃ report, (m.run target c .all records none).ending = .ok report) ∧
    (∀ c report, (m.run target c .all records none).ending = .ok report →
      ∃ v, report.verification = some v ∧
        v.Lists (c.draw.sample outcome.records sampleLimit)) ∧
    ((∀ r ∈ outcome.records, (SampledUser.ofRecord r).Verbatim) →
      ∀ c report, (m.run target c .all records none).ending = .ok report →
        ∃ v, report.verification = some v ∧ v.missingUsers = [] ∧ v.mismatches = []) ∧
    ∀ r ∈ outcome.records, ¬ (SampledUser.ofRecord r).Verbatim →
      ∃ draw : Draw, ∀ c report, c.draw = draw →
        (m.run target c .all records none).ending = .ok report →
          ∃ v, report.verification = some v ∧ ¬ (v.missingUsers = [] ∧ v.mismatches = []) := by
  have hreports : ∀ c report, (m.run target c .all records none).ending = .ok report →
      ∃ v, report.verification = some v ∧
        v.Lists (c.draw.sample outcome.records sampleLimit) :=
    fun c report => run_all_verification htarget hlive hids hdedup hspelled
  refine ⟨fun hworkers hfits hcounts c =>
      exists_run_all_report hlive hdedup hworkers hfits hcounts,
    hreports, ?_, ?_⟩
  · intro hverbatim c report hrun
    obtain ⟨v, hv, hlists⟩ := hreports c report hrun
    have hall : ∀ user ∈ c.draw.sample outcome.records sampleLimit, user.Verbatim := by
      intro user huser
      obtain ⟨r, hr, rfl⟩ := Draw.mem_sample huser
      exact hverbatim r hr
    exact ⟨v, hv, hlists.faultless_iff.mpr hall⟩
  · intro r hr hother
    obtain ⟨draw, hdrawn⟩ := Draw.exists_sample hr
    refine ⟨draw, ?_⟩
    rintro c report rfl hrun
    obtain ⟨v, hv, hlists⟩ := hreports c report hrun
    refine ⟨v, hv, ?_⟩
    rw [hlists.faultless_iff]
    exact fun hall => hother (hall _ hdrawn)

/-- Two records that are sent as they are. -/
def plainRecords : List SourceRecord :=
  [{ id := "00000000-0000-4000-8000-000000000001", email := some "ada@x.org" },
    { id := "00000000-0000-4000-8000-000000000002", email := some "eve@x.org" }]

/-- Records that are sent as they are verify without fault. -/
theorem run_all_plainRecords :
    storingTarget.Faithful ∧
    plainMigration.settings.dryRun = false ∧
    plainMigration.settings.entries.ids = .preserveUuid ∧
    ∃ outcome,
      deduplicate plainMigration.settings.dedup plainRecords = .ok outcome ∧
      HaveDistinctUuids outcome.records ∧
      ∃ report v,
        (plainMigration.run storingTarget plainCircumstances .all plainRecords none).ending =
          .ok report ∧
        report.verification = some v ∧ v.missingUsers = [] ∧ v.mismatches = [] := by
  have hdedup : deduplicate plainMigration.settings.dedup plainRecords =
      .ok ⟨plainRecords, [], { total := 2, unique := 2 }⟩ := by
    decide
  have hspelled : HaveDistinctUuids plainRecords :=
    ⟨plainRecords.filterMap fun r => Uuid.ofText? (trim r.id), by decide, by decide⟩
  have hverbatim : ∀ r ∈ plainRecords, (SampledUser.ofRecord r).Verbatim := by
    simp only [SampledUser.verbatim_iff]
    decide
  obtain ⟨hends, -, hclean, -⟩ :=
    run_all_reports storingTarget_faithful rfl rfl hdedup hspelled
  obtain ⟨report, hrun⟩ := hends (by decide) (not_overflows_of_unchecked (by decide))
    storingTarget_counts plainCircumstances
  obtain ⟨v, hv, hmissing, hmismatches⟩ := hclean hverbatim plainCircumstances report hrun
  exact ⟨storingTarget_faithful, rfl, rfl, _, hdedup, hspelled, report, v, hrun, hv, hmissing,
    hmismatches⟩

/-- A record that is sent as it is, one whose id is in upper case, and one with a blank in front
of its email address. -/
def spelledRecords : List SourceRecord :=
  [{ id := "00000000-0000-4000-8000-000000000001", email := some "ada@x.org" },
    { id := "AAAAAAAA-AAAA-4AAA-8AAA-AAAAAAAAAAAA", email := some "bob@x.org" },
    { id := "00000000-0000-4000-8000-000000000003", email := some " cyd@x.org" }]

/-- Not every run against a faithful service verifies without fault: ids of different UUIDs are
not enough. -/
theorem run_all_spelledRecords :
    storingTarget.Faithful ∧
    plainMigration.settings.dryRun = false ∧
    plainMigration.settings.entries.ids = .preserveUuid ∧
    ∃ outcome,
      deduplicate plainMigration.settings.dedup spelledRecords = .ok outcome ∧
      HaveDistinctUuids outcome.records ∧
      ∃ report v,
        (plainMigration.run storingTarget plainCircumstances .all spelledRecords none).ending =
          .ok report ∧
        report.verification = some v ∧
        v.missingUsers = [⟨"AAAAAAAA-AAAA-4AAA-8AAA-AAAAAAAAAAAA", "bob@x.org"⟩] ∧
        v.mismatches =
          [⟨"00000000-0000-4000-8000-000000000003", "email", " cyd@x.org", "cyd@x.org"⟩] := by
  have hdedup : deduplicate plainMigration.settings.dedup spelledRecords =
      .ok ⟨spelledRecords, [], { total := 3, unique := 3 }⟩ := by
    decide
  have hspelled : HaveDistinctUuids spelledRecords :=
    ⟨spelledRecords.filterMap fun r => Uuid.ofText? (trim r.id), by decide, by decide⟩
  obtain ⟨report, hrun⟩ := exists_run_all_report (m := plainMigration) (c := plainCircumstances)
    rfl hdedup (by decide) (not_overflows_of_unchecked (by decide)) storingTarget_counts
  obtain ⟨v, hv, hlists⟩ :=
    run_all_verification storingTarget_faithful rfl rfl hdedup hspelled hrun
  exact ⟨storingTarget_faithful, rfl, rfl, _, hdedup, hspelled, report, v, hrun, hv,
    hlists.missing.trans (by decide), hlists.mismatches.trans (by decide)⟩

end Migration
end AccountMigration
