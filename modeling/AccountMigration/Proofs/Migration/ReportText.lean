import AccountMigration.Migration.Report
import AccountMigration.Proofs.Json.Texts
import AccountMigration.Proofs.WrittenForms

/-!
# The text of a report

The indented text of a report is the text of one object with a member for each field.  What the
fields hold, whatever it is, stays inside of the values of these members: each of them is read back,
so a report is determined by its text.

* `Json.nat?` and `Json.named?`: readers for counters and for names.
* `MigrationReport.ofJson?` and `MigrationReport.readsBack`: a report is read back from its JSON.
* `MigrationReport.Shows` and `MigrationReport.text_determines_report`: what the text of a report
  shows, and reports with the same text.
-/

namespace AccountMigration

open Text

namespace Json

/-- A number that is not negative. -/
def nat? : Json → Option Nat
  | .int i => if 0 ≤ i then some i.toNat else none
  | _ => none

/-- One of a set of named values by its name. -/
def named?
    {α : Type}
    [Named α]
    (v : Json) : Option α :=
  (text? v).bind Named.ofName?

namespace ReadsBack

theorem nat :
    ReadsBack Json.nat nat? where
  exact n := .int n
  read_write n := by
    rw [Json.nat, nat?, if_pos (Int.natCast_nonneg n), Int.toNat_natCast]

/-- A value is read back by its name when the name finds it. -/
theorem named
    {α : Type}
    [Named α]
    (h : ∀ a : α, Named.ofName? (Named.name a) = some a) :
    ReadsBack (fun a : α => Json.text (Named.name a)) named? where
  exact a := .str (some (Named.name a))
  read_write a := by
    rw [named?, text.read_write, Option.bind_some, h]

end ReadsBack

end Json

open Json

/-! ## The parts of a report -/

instance : Named HashAlgorithm where
  all := HashAlgorithm.all
  name := HashAlgorithm.name

theorem MigrationStep.readsBack :
    ReadsBack (fun s : MigrationStep => .text s.name) named? :=
  .named fun s => by cases s <;> rfl

theorem HashAlgorithm.readsBack :
    ReadsBack (fun a : HashAlgorithm => .text a.name) named? :=
  .named fun a => by cases a <;> rfl

theorem ImportStatus.readsBack :
    ReadsBack (fun s : ImportStatus => .text s.name) named? :=
  .named fun s => by cases s <;> rfl

/-- Read the counts of a deduplication. -/
def DedupStats.ofJson?
    (v : Json) : Option DedupStats := do
  let field ← v.fields? ["total", "unique", "duplicates", "skipped_no_key"]
  let total ← (field "total").required nat?
  let unique ← (field "unique").required nat?
  let duplicates ← (field "duplicates").required nat?
  let skippedNoKey ← (field "skipped_no_key").required nat?
  return ⟨total, unique, duplicates, skippedNoKey⟩

theorem DedupStats.readsBack :
    ReadsBack toJson ofJson? where
  exact s := exact_record (by simp [ReadsBack.nat.exact])
  read_write s := by
    rw [toJson, ofJson?, fields?_record (by simp)]
    simp [ReadsBack.nat.read_write]

/-- Read the summary of a conflict. -/
def ConflictSummary.ofJson?
    (v : Json) : Option ConflictSummary := do
  let field ← v.fields? ["key", "existing_id", "duplicate_id"]
  let key ← (field "key").required text?
  let existingId ← (field "existing_id").required text?
  let duplicateId ← (field "duplicate_id").required text?
  return ⟨key, existingId, duplicateId⟩

theorem ConflictSummary.readsBack :
    ReadsBack toJson ofJson? where
  exact c := exact_record (by simp [ReadsBack.text.exact])
  read_write c := by
    rw [toJson, ofJson?, fields?_record (by simp)]
    simp [ReadsBack.text.read_write]

/-- Read the counters of an import. -/
def ImportStats.ofJson?
    (v : Json) : Option ImportStats := do
  let field ← v.fields? ["total", "created", "existing", "skipped", "updated", "errors"]
  let total ← (field "total").required nat?
  let created ← (field "created").required nat?
  let existing ← (field "existing").required nat?
  let skipped ← (field "skipped").required nat?
  let updated ← (field "updated").required nat?
  let errors ← (field "errors").required nat?
  return ⟨total, created, existing, skipped, updated, errors⟩

theorem ImportStats.readsBack :
    ReadsBack toJson ofJson? where
  exact s := exact_record (by simp [ReadsBack.nat.exact])
  read_write s := by
    rw [toJson, ofJson?, fields?_record (by simp)]
    simp [ReadsBack.nat.read_write]

/-- Read the result of a record. -/
def ImportResult.ofJson?
    (v : Json) : Option ImportResult := do
  let field ← v.fields? ["source_id", "target_id", "status", "note"]
  let sourceId ← (field "source_id").required text?
  let targetId ← (field "target_id").required (nullable text?)
  let status ← (field "status").required named?
  let note ← (field "note").required text?
  return ⟨sourceId, targetId, status, note⟩

theorem ImportResult.readsBack :
    ReadsBack toJson ofJson? where
  exact r := exact_record (by
    simp [ReadsBack.text.exact, (ReadsBack.text.ofOption rfl).exact])
  read_write r := by
    rw [toJson, ofJson?, fields?_record (by simp)]
    simp [ReadsBack.text.read_write, (ReadsBack.text.ofOption rfl).read_write,
      ImportStatus.readsBack.read_write]

/-! ## Verifications -/

/-- Read the check of two counts. -/
def CountCheck.ofJson?
    (v : Json) : Option CountCheck := do
  let field ← v.fields? ["name", "expected", "actual", "passed"]
  let name ← (field "name").required text?
  let expected ← (field "expected").required nat?
  let actual ← (field "actual").required nat?
  let passed ← (field "passed").required bool?
  return ⟨name, expected, actual, passed⟩

/-- Read a missing user. -/
def MissingUser.ofJson?
    (v : Json) : Option MissingUser := do
  let field ← v.fields? ["user_id", "email"]
  let userId ← (field "user_id").required text?
  let email ← (field "email").required text?
  return ⟨userId, email⟩

/-- Read a field that differs. -/
def FieldMismatch.ofJson?
    (v : Json) : Option FieldMismatch := do
  let field ← v.fields? ["user_id", "field", "expected", "actual"]
  let userId ← (field "user_id").required text?
  let name ← (field "field").required text?
  let expected ← (field "expected").required text?
  let actual ← (field "actual").required text?
  return ⟨userId, name, expected, actual⟩

/-- Read the report of a verification. -/
def VerificationReport.ofJson?
    (v : Json) : Option VerificationReport := do
  let field ← v.fields? ["checks", "missing_users", "mismatches"]
  let checks ← (field "checks").required (list? CountCheck.ofJson?)
  let missingUsers ← (field "missing_users").required (list? MissingUser.ofJson?)
  let mismatches ← (field "mismatches").required (list? FieldMismatch.ofJson?)
  return ⟨checks, missingUsers, mismatches⟩

theorem CountCheck.readsBack :
    ReadsBack
      (fun c : CountCheck => .record
        [("name", .text c.name),
          ("expected", .nat c.expected),
          ("actual", .nat c.actual),
          ("passed", .bool c.passed)])
      ofJson? where
  exact c := exact_record (by
    simp [ReadsBack.text.exact, ReadsBack.nat.exact, ReadsBack.bool.exact])
  read_write c := by
    rw [ofJson?, fields?_record (by simp)]
    simp [ReadsBack.text.read_write, ReadsBack.nat.read_write, ReadsBack.bool.read_write]

theorem MissingUser.readsBack :
    ReadsBack
      (fun m : MissingUser => .record [("user_id", .text m.userId), ("email", .text m.email)])
      ofJson? where
  exact m := exact_record (by simp [ReadsBack.text.exact])
  read_write m := by
    rw [ofJson?, fields?_record (by simp)]
    simp [ReadsBack.text.read_write]

theorem FieldMismatch.readsBack :
    ReadsBack
      (fun m : FieldMismatch => .record
        [("user_id", .text m.userId),
          ("field", .text m.field),
          ("expected", .text m.expected),
          ("actual", .text m.actual)])
      ofJson? where
  exact m := exact_record (by simp [ReadsBack.text.exact])
  read_write m := by
    rw [ofJson?, fields?_record (by simp)]
    simp [ReadsBack.text.read_write]

theorem VerificationReport.readsBack :
    ReadsBack toJson ofJson? where
  exact r := exact_record (by
    simp [CountCheck.readsBack.list.exact, MissingUser.readsBack.list.exact,
      FieldMismatch.readsBack.list.exact])
  read_write r := by
    rw [toJson, ofJson?, fields?_record (by simp)]
    simp [CountCheck.readsBack.list.read_write, MissingUser.readsBack.list.read_write,
      FieldMismatch.readsBack.list.read_write]

/-! ## The report -/

namespace MigrationReport

/-- The fields of a report in the order of their declaration. -/
def fieldNames : List String :=
  ["step", "dry_run", "started_at", "finished_at", "dedup_stats", "conflicts",
    "password_algorithm", "import_stats", "import_results", "verification",
    "verification_passed"]

/-- Read a report, which has all of its fields. -/
def ofJson?
    (v : Json) : Option MigrationReport := do
  let field ← v.fields? fieldNames
  let step ← (field "step").required named?
  let dryRun ← (field "dry_run").required bool?
  let startedAt ← (field "started_at").required Timestamp.ofJson?
  let finishedAt ← (field "finished_at").required (nullable Timestamp.ofJson?)
  let dedupStats ← (field "dedup_stats").required DedupStats.ofJson?
  let conflicts ← (field "conflicts").required (list? ConflictSummary.ofJson?)
  let passwordAlgorithm ← (field "password_algorithm").required (nullable named?)
  let importStats ← (field "import_stats").required ImportStats.ofJson?
  let importResults ← (field "import_results").required (list? ImportResult.ofJson?)
  let verification ← (field "verification").required (nullable VerificationReport.ofJson?)
  let verificationPassed ← (field "verification_passed").required (nullable bool?)
  return { step, dryRun, startedAt, finishedAt, dedupStats, conflicts, passwordAlgorithm,
           importStats, importResults, verification, verificationPassed }

theorem readsBack :
    ReadsBack toJson ofJson? where
  exact r := exact_record (by
    simp [ReadsBack.text.exact, ReadsBack.bool.exact, Timestamp.readsBack.exact,
      (Timestamp.readsBack.ofOption rfl).exact, DedupStats.readsBack.exact,
      ConflictSummary.readsBack.list.exact, (HashAlgorithm.readsBack.ofOption rfl).exact,
      ImportStats.readsBack.exact, ImportResult.readsBack.list.exact,
      (VerificationReport.readsBack.ofOption rfl).exact, (ReadsBack.bool.ofOption rfl).exact])
  read_write r := by
    rw [toJson, ofJson?, fields?_record (by simp)]
    simp [MigrationStep.readsBack.read_write, ReadsBack.bool.read_write,
      Timestamp.readsBack.read_write, (Timestamp.readsBack.ofOption rfl).read_write,
      DedupStats.readsBack.read_write, ConflictSummary.readsBack.list.read_write,
      (HashAlgorithm.readsBack.ofOption rfl).read_write, ImportStats.readsBack.read_write,
      ImportResult.readsBack.list.read_write,
      (VerificationReport.readsBack.ofOption rfl).read_write,
      (ReadsBack.bool.ofOption rfl).read_write]

/-- A text shows a report: it is the text of one object with a member for each field, in whatever
way it is cut into members, and the report is read back from it and from its bytes. -/
structure Shows
    (r : MigrationReport)
    (text : String) : Prop where
  reads : ∃ members, ReadsAs text (.obj members) ∧ members.map Prod.fst = fieldNames.map some
  has_members : ∃ t : ObjectText, t.text = Utf8.symbolsOfText text
  names : ∀ t : ObjectText, t.text = Utf8.symbolsOfText text →
    t.members.map (·.name) = fieldNames.map some
  ofText : (Json.ofText? text).bind ofJson? = some r
  ofBytes : (Json.ofBytes? (Utf8.bytes text)).bind ofJson? = some r

theorem shows_toText
    (r : MigrationReport) :
    r.Shows r.toText := by
  have hreads : ReadsAs r.toText r.toJson := readsAs_toPrettyText (readsBack.exact r)
  have hback := readsBack.read_write r
  constructor
  case reads => exact ⟨_, hreads, rfl⟩
  case has_members =>
    obtain ⟨t, ht, -⟩ := ofSymbols?_obj_iff.mp hreads.ofText
    exact ⟨t, ht⟩
  case names =>
    intro t ht
    have hvalue : t.value = r.toJson := by
      have htext := t.reads
      rw [ht, ← Json.ofText?, hreads.ofText] at htext
      exact (Option.some.inj htext).symm
    have hmembers := congrArg (List.map Prod.fst) (Json.obj.inj hvalue)
    rw [List.map_map] at hmembers
    exact hmembers
  case ofText => rw [hreads.ofText, Option.bind_some, hback]
  case ofBytes => rw [hreads.ofBytes, Option.bind_some, hback]

/-- The text of a report shows it, whatever its strings hold, and reports with the same text are
equal. -/
theorem text_determines_report :
    (∀ r : MigrationReport, r.Shows r.toText) ∧
      ∀ r s : MigrationReport, r.toText = s.toText ↔ r = s := by
  refine ⟨shows_toText, fun r s => ⟨fun h => ?_, congrArg toText⟩⟩
  have hr := (shows_toText r).ofText
  rw [h, (shows_toText s).ofText] at hr
  exact (Option.some.inj hr).symm

end MigrationReport

end AccountMigration
