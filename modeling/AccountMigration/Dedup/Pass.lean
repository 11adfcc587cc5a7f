import AccountMigration.Dedup.Key
import AccountMigration.Fault
import AccountMigration.Settings.Basic

/-!
# Deduplication

Records are looked at one by one.  The first record of a key gets a slot of the output, and
every later record of the key is a duplicate: it may take over the slot, be dropped, or end
the run.  Records without a key are dropped.

* `Pass` is what is known after a part of the records; `Pass.step` takes one record.
* `deduplicate` takes all records and gives the output, the log of conflicts and the counts.

The output is in the order in which the keys appeared first.
-/

namespace AccountMigration

/-- How many records there were, and what became of them. -/
structure DedupStats where
  total : Nat := 0
  unique : Nat := 0
  duplicates : Nat := 0
  skippedNoKey : Nat := 0
  deriving DecidableEq

/-- Two records of one key: the one in the slot at that time, and the one that came later. -/
structure Conflict where
  key : String
  existing : SourceRecord
  duplicate : SourceRecord
  deriving DecidableEq

/-- The result of a deduplication. -/
structure DedupOutcome where
  records : List SourceRecord
  conflicts : List Conflict
  stats : DedupStats
  deriving DecidableEq

/-- Whether a record replaces the one in the slot: it has a time, and the other an earlier
one or none. -/
def SourceRecord.supersedes
    (candidate existing : SourceRecord) : Bool :=
  match candidate.createdAt, existing.createdAt with
  | none, _ => false
  | some _, none => true
  | some new, some old => new.isAfter old

/-- What is known after a part of the records. -/
structure Pass where
  /-- The slot of each key, in the order of first appearance. -/
  slots : List (String × Nat) := []
  /-- The record in each slot. -/
  records : List SourceRecord := []
  conflicts : List Conflict := []
  stats : DedupStats := {}
  deriving DecidableEq

namespace Pass

/-- A record without a key. -/
def skip
    (p : Pass) : Pass :=
  { p with
    stats := { p.stats with
      total := p.stats.total + 1
      skippedNoKey := p.stats.skippedNoKey + 1 } }

/-- The first record of a key. -/
def enter
    (p : Pass)
    (key : String)
    (r : SourceRecord) : Pass :=
  { slots := p.slots ++ [(key, p.records.length)]
    records := p.records ++ [r]
    conflicts := p.conflicts
    stats := { p.stats with
      total := p.stats.total + 1
      unique := p.stats.unique + 1 } }

/-- A later record of a key, which takes over the slot if it wins. -/
def collide
    (p : Pass)
    (key : String)
    (slot : Nat)
    (existing r : SourceRecord)
    (wins : Bool) : Pass :=
  { slots := p.slots
    records := if wins then p.records.set slot r else p.records
    conflicts := p.conflicts ++ [⟨key, existing, r⟩]
    stats := { p.stats with
      total := p.stats.total + 1
      duplicates := p.stats.duplicates + 1 } }

/-- Take one record. -/
def step
    (rules : DedupRules)
    (p : Pass)
    (r : SourceRecord) : Except Stop Pass :=
  match r.key? rules.key with
  | none => .ok p.skip
  | some key =>
      match p.slots.lookup key with
      | none => .ok (p.enter key r)
      | some slot =>
          match p.records[slot]? with
          | none => .error (.fault (.slotOutOfRange slot))
          | some existing =>
              match rules.strategy with
              | .error => .error (.error (.duplicateKey key existing.id r.id))
              | .keepLatest =>
                  .ok (p.collide key slot existing r (r.supersedes existing))
              | _ => .ok (p.collide key slot existing r false)

/-- Take records one by one. -/
def run
    (rules : DedupRules) :
    Pass → List SourceRecord → Except Stop Pass
  | p, [] => .ok p
  | p, r :: rest =>
      match p.step rules r with
      | .error stop => .error stop
      | .ok next => run rules next rest

@[simp] theorem run_nil
    (rules : DedupRules)
    (p : Pass) :
    p.run rules [] = .ok p := by
  rfl

theorem run_cons
    (rules : DedupRules)
    (p : Pass)
    (r : SourceRecord)
    (rest : List SourceRecord) :
    p.run rules (r :: rest) = (p.step rules r).bind fun next => next.run rules rest := by
  simp only [run]
  cases p.step rules r <;> rfl

/-- Records can be taken in two parts. -/
theorem run_append
    (rules : DedupRules)
    (p : Pass)
    (rs more : List SourceRecord) :
    p.run rules (rs ++ more) = (p.run rules rs).bind fun next => next.run rules more := by
  induction rs generalizing p with
  | nil =>
      rfl
  | cons r rs ih =>
      rw [List.cons_append, run_cons, run_cons]
      cases p.step rules r with
      | error stop =>
          rfl
      | ok next =>
          exact ih next

end Pass

/-- The outcome when keys are not compared. -/
def passThrough
    (records : List SourceRecord) : DedupOutcome where
  records := records
  conflicts := []
  stats := { total := records.length, unique := records.length }

/-- Deduplicate records. -/
def deduplicate
    (rules : DedupRules)
    (records : List SourceRecord) : Except Stop DedupOutcome :=
  match rules.strategy with
  | .none => .ok (passThrough records)
  | _ =>
      match Pass.run rules {} records with
      | .error stop => .error stop
      | .ok p => .ok ⟨p.records, p.conflicts, p.stats⟩

end AccountMigration
