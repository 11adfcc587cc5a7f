import AccountMigration.Dedup.Pass

/-!
# Records that are spelled differently

A deduplication looks at the keys and the times of records and at nothing else.  Records that are
changed in other ways, for instance by other blanks around their fields, are deduplicated as
before: the same ones are kept, now in their changed form.

* `Respelling`: a change of records that keeps their keys and their times.
* `Respelling.step_pass` is the step, `Respelling.run_pass` the run.
* `Respelling.deduplicate_map`: the deduplication of changed records.
-/

namespace AccountMigration

/-- A change of records that keeps their keys and their times; it may change their ids. -/
structure Respelling where
  record : SourceRecord → SourceRecord
  id : String → String
  id_record : ∀ r, (record r).id = id r.id
  key?_record : ∀ r selector, (record r).key? selector = r.key? selector
  createdAt_record : ∀ r, (record r).createdAt = r.createdAt

namespace Respelling

variable (f : Respelling)

/-- The change of a conflict. -/
def conflict
    (c : Conflict) : Conflict :=
  ⟨c.key, f.record c.existing, f.record c.duplicate⟩

/-- The change of what is known after a part of the records. -/
def pass
    (p : Pass) : Pass :=
  { p with
    records := p.records.map f.record
    conflicts := p.conflicts.map f.conflict }

/-- The change of an outcome. -/
def outcome
    (o : DedupOutcome) : DedupOutcome :=
  { o with
    records := o.records.map f.record
    conflicts := o.conflicts.map f.conflict }

/-- The change of the reason for which a run is stopped: it may name ids. -/
def stop : Stop → Stop
  | .error (.duplicateKey key existingId duplicateId) =>
      .error (.duplicateKey key (f.id existingId) (f.id duplicateId))
  | other => other

/-- The change of an ending. -/
def ending
    {α : Type}
    (change : α → α) : Except Stop α → Except Stop α
  | .ok a => .ok (change a)
  | .error cause => .error (f.stop cause)

theorem supersedes_record
    (r s : SourceRecord) :
    (f.record r).supersedes (f.record s) = r.supersedes s := by
  simp only [SourceRecord.supersedes, f.createdAt_record]

theorem pass_enter
    (p : Pass)
    (key : String)
    (r : SourceRecord) :
    (f.pass p).enter key (f.record r) = f.pass (p.enter key r) := by
  simp [pass, Pass.enter]

theorem pass_collide
    (p : Pass)
    (key : String)
    (slot : Nat)
    (existing r : SourceRecord)
    (wins : Bool) :
    (f.pass p).collide key slot (f.record existing) (f.record r) wins =
      f.pass (p.collide key slot existing r wins) := by
  cases wins <;> simp [pass, Pass.collide, conflict, List.map_set]

/-- A changed record is taken as the record was, and refused as the record was. -/
theorem step_pass
    (rules : DedupRules)
    (p : Pass)
    (r : SourceRecord) :
    (f.pass p).step rules (f.record r) = f.ending f.pass (p.step rules r) := by
  have hslots : (f.pass p).slots = p.slots := rfl
  have hrecords : (f.pass p).records = p.records.map f.record := rfl
  simp only [Pass.step, f.key?_record, hslots, hrecords]
  cases r.key? rules.key with
  | none =>
      rfl
  | some key =>
      simp only
      cases p.slots.lookup key with
      | none =>
          exact congrArg Except.ok (f.pass_enter p key r)
      | some slot =>
          simp only [List.getElem?_map]
          cases p.records[slot]? with
          | none =>
              rfl
          | some existing =>
              simp only [Option.map_some, f.id_record, f.supersedes_record, f.pass_collide]
              cases rules.strategy <;> rfl

/-- Changed records are taken as the records were. -/
theorem run_pass
    (rules : DedupRules)
    (p : Pass)
    (records : List SourceRecord) :
    (f.pass p).run rules (records.map f.record) = f.ending f.pass (p.run rules records) := by
  induction records generalizing p with
  | nil =>
      rfl
  | cons r rest ih =>
      rw [List.map_cons, Pass.run_cons, Pass.run_cons, step_pass]
      cases p.step rules r with
      | error cause =>
          rfl
      | ok next =>
          exact ih next

/-- Changed records are deduplicated as the records were. -/
theorem deduplicate_map
    (rules : DedupRules)
    (records : List SourceRecord) :
    deduplicate rules (records.map f.record) = f.ending f.outcome (deduplicate rules records) := by
  have hrun := f.run_pass rules {} records
  have hstart : f.pass {} = {} := rfl
  rw [hstart] at hrun
  unfold deduplicate
  cases rules.strategy with
  | none =>
      simp [passThrough, ending, outcome]
  | keepFirst | keepLatest | error =>
      simp only [hrun]
      cases Pass.run rules {} records <;> rfl

end Respelling

end AccountMigration
