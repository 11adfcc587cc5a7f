import AccountMigration.Service.Wire

/-!
# Results and counters of an import

Every submitted record has a result, and counters sum up what became of the records.  There
are two ways to count: `ImportStats.ofResponse` takes the counters of a response, and
`ImportStats.ofResults` counts results.
-/

namespace AccountMigration

/-- What became of a record. -/
inductive ImportStatus where
  | created
  | existing
  | skipped
  | updated
  | error
  deriving DecidableEq

namespace ImportStatus

/-- The name of a status. -/
def name : ImportStatus → String
  | .created => "created"
  | .existing => "existing"
  | .skipped => "skipped"
  | .updated => "updated"
  | .error => "error"

instance : Named ImportStatus where
  all := [.created, .existing, .skipped, .updated, .error]
  name := ImportStatus.name

/-- The status that the service reports by a word; an unknown word means created. -/
def ofWord
    (s : String) : ImportStatus :=
  (Named.ofName? s).getD .created

end ImportStatus

/-- The result of a record. -/
structure ImportResult where
  /-- The id of the record in the source. -/
  sourceId : String
  /-- The id that the service gave, when it reported one. -/
  targetId : Option String
  status : ImportStatus
  /-- What the service had to say, or why the batch failed. -/
  note : String
  deriving DecidableEq

namespace ImportResult

/-- The result of a record whose batch failed. -/
def failed
    (note sourceId : String) : ImportResult :=
  ⟨sourceId, none, .error, note⟩

/-- A result with all of its fields. -/
def toJson
    (r : ImportResult) : Json :=
  .record
    [("source_id", .text r.sourceId),
      ("target_id", .ofOption .text r.targetId),
      ("status", .text r.status.name),
      ("note", .text r.note)]

end ImportResult

/-- The counters of an import. -/
structure ImportStats where
  total : Nat := 0
  created : Nat := 0
  existing : Nat := 0
  skipped : Nat := 0
  updated : Nat := 0
  errors : Nat := 0
  deriving DecidableEq

namespace ImportStats

/-- Counters add up one by one. -/
def add
    (a b : ImportStats) : ImportStats where
  total := a.total + b.total
  created := a.created + b.created
  existing := a.existing + b.existing
  skipped := a.skipped + b.skipped
  updated := a.updated + b.updated
  errors := a.errors + b.errors

instance : Add ImportStats :=
  ⟨add⟩

/-- What a batch of a given size adds when the service accepted it. -/
def ofResponse
    (size : Nat)
    (response : ImportResponse) : ImportStats where
  total := size
  created := response.imported.toNat
  skipped := response.skipped.toNat
  updated := response.updated.toNat
  errors := response.errors.toNat

/-- What a batch of a given size adds when its request failed. -/
def ofFailure
    (size : Nat) : ImportStats where
  total := size
  errors := size

/-- What one result adds. -/
def ofStatus : ImportStatus → ImportStats
  | .created => { total := 1, created := 1 }
  | .existing => { total := 1, existing := 1 }
  | .skipped => { total := 1, skipped := 1 }
  | .updated => { total := 1, updated := 1 }
  | .error => { total := 1, errors := 1 }

/-- The counters of a list of results. -/
def ofResults
    (results : List ImportResult) : ImportStats :=
  results.foldl (fun stats r => stats + ofStatus r.status) {}

/-- Counters with all of their fields. -/
def toJson
    (s : ImportStats) : Json :=
  .record
    [("total", .nat s.total),
      ("created", .nat s.created),
      ("existing", .nat s.existing),
      ("skipped", .nat s.skipped),
      ("updated", .nat s.updated),
      ("errors", .nat s.errors)]

theorem add_def
    (a b : ImportStats) :
    a + b = a.add b := by
  rfl

theorem add_assoc
    (a b c : ImportStats) :
    a + b + c = a + (b + c) := by
  simp [add_def, add, Nat.add_assoc]

theorem add_comm
    (a b : ImportStats) :
    a + b = b + a := by
  simp [add_def, add, Nat.add_comm]

@[simp] theorem zero_add
    (a : ImportStats) :
    ({} : ImportStats) + a = a := by
  simp [add_def, add]

end ImportStats

end AccountMigration
