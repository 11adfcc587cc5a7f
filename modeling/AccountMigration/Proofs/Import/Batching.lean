import AccountMigration.Proofs.Import.Successive

/-!
# Services to which batches do not matter

A service that answers each account on its own says the same about the accounts in whatever batches
they come.  So neither the size of the batches nor a break between two imports can be told from the
results and the counters.  Such answers count no more accounts than there are records, so a new
importer can hold them.

* `ImportResponse.tallying` and `Target.AnswersEach`: a response that counts its own details, and
  services that answer in this way.
* `CallEnd.results_of_answersEach` and `CallEnd.stats_of_answersEach`: what such a response means
  for a batch.
* `FilledUpTo` and `Importer.filledUpTo_requests`: how many accounts the requests carry.
* `Importer.batches_do_not_show`: results and counters are the same for every size of batches, and
  for two imports in place of one.
-/

namespace AccountMigration

/-- The response that gives the details, and counts those of each kind. -/
def ImportResponse.tallying
    (kind : ImportDetail → ImportStatus)
    (details : List ImportDetail) : ImportResponse where
  imported := .ofNat (details.countP fun d => kind d = .created)
  skipped := .ofNat (details.countP fun d => kind d = .skipped)
  updated := .ofNat (details.countP fun d => kind d = .updated)
  errors := .ofNat (details.countP fun d => kind d = .error)
  details

/-- A service that answers each account on its own, whatever comes with it and whatever came before,
and counts its answers by their kind. -/
def Target.AnswersEach
    (target : Target)
    (answer : ImportEntry → ImportDetail)
    (kind : ImportDetail → ImportStatus) : Prop :=
  ∀ calls request,
    target.reply calls (.bulkImport request) =
      .answered (.tallying kind (request.users.map answer))

/-- What a detail of a kind adds to the counters of a response; those have none for accounts that
exist already. -/
def ImportStats.ofKind : ImportStatus → ImportStats
  | .existing => { total := 1 }
  | status => .ofStatus status

/-- No request is empty, none carries more accounts than the size, and only the last one may carry
fewer. -/
structure FilledUpTo
    (size : Nat)
    (requests : List ImportRequest) : Prop where
  nonempty : ∀ r ∈ requests, 1 ≤ r.users.length
  bounded : ∀ r ∈ requests, r.users.length ≤ size
  full : ∀ r ∈ requests.dropLast, r.users.length = size

/-- Each record is paired with the detail in its place, as many as there are. -/
theorem reconcile_map
    (batch : List SourceRecord)
    (detail : SourceRecord → ImportDetail) :
    reconcile batch (batch.map detail) = batch.map fun r => resultOf r (some (detail r)) := by
  induction batch with
  | nil =>
      rfl
  | cons r rs ih =>
      rw [List.map_cons, reconcile, ih, List.map_cons]

/-- A response that counts its details adds what each of them adds, as long as a word can count
them. -/
theorem ofResponse_tallying
    (kind : ImportDetail → ImportStatus)
    (details : List ImportDetail)
    (hword : details.length ≤ Numeral.maxWord) :
    .ofResponse details.length (.tallying kind details) =
      (details.map fun d => ImportStats.ofKind (kind d)).sum := by
  have hcount : ∀ p : ImportDetail → Bool,
      (UInt64.ofNat (details.countP p)).toNat = details.countP p := by
    intro p
    have hle : details.countP p ≤ details.length := List.countP_le_length
    have hmax : Numeral.maxWord < UInt64.size := by decide
    exact UInt64.toNat_ofNat_of_lt' (by omega)
  simp only [ImportStats.ofResponse, ImportResponse.tallying, hcount]
  clear hcount hword
  induction details with
  | nil =>
      rfl
  | cons d ds ih =>
      rw [List.map_cons, List.sum_cons, ← ih]
      cases hkind : kind d <;>
        simp [ImportStats.add_def, ImportStats.add, ImportStats.ofKind, ImportStats.ofStatus,
          hkind, Nat.add_comm]

/-- What details add to the counters is a word, as long as a word can count them. -/
theorem fits_sum_ofKind
    {kinds : List ImportStatus}
    (hword : kinds.length ≤ Numeral.maxWord) :
    (kinds.map ImportStats.ofKind).sum.Fits := by
  have hmost : ∀ kinds : List ImportStatus, (kinds.map ImportStats.ofKind).sum ≤
      ⟨kinds.length, kinds.length, kinds.length, kinds.length, kinds.length, kinds.length⟩ := by
    intro kinds
    induction kinds with
    | nil =>
        exact le_refl _
    | cons kind kinds ih =>
        rw [List.map_cons, List.sum_cons, List.length_cons, add_comm]
        cases kind <;>
          exact ⟨Nat.add_le_add ih.total (by decide), Nat.add_le_add ih.created (by decide),
            Nat.add_le_add ih.existing (by decide), Nat.add_le_add ih.skipped (by decide),
            Nat.add_le_add ih.updated (by decide), Nat.add_le_add ih.errors (by decide)⟩
  exact ImportStats.Fits.of_le ⟨hword, hword, hword, hword, hword⟩ (hmost kinds)

section Replies

variable {target : Target} {answer : ImportEntry → ImportDetail}
  {kind : ImportDetail → ImportStatus} (htarget : target.AnswersEach answer kind)
include htarget

theorem reply_of_answersEach
    (importer : Importer)
    (calls : List Call)
    (batch : List SourceRecord) :
    target.reply calls (importer.callOf batch) =
      .answered (.tallying kind (batch.map fun r => answer (r.toEntry importer.rules))) := by
  have hdetails : (requestOf importer.rules importer.onConflict batch).users.map answer =
      batch.map fun r => answer (r.toEntry importer.rules) := List.map_map
  have hreply := htarget calls (requestOf importer.rules importer.onConflict batch)
  rw [hdetails] at hreply
  exact hreply

/-- The results of a batch are those of its records, each on its own. -/
theorem CallEnd.results_of_answersEach
    (importer : Importer)
    (calls : List Call)
    (batch : List SourceRecord) :
    (target.callEnd calls (importer.callOf batch)).results batch =
      batch.map fun r => resultOf r (some (answer (r.toEntry importer.rules))) := by
  rw [Target.callEnd, reply_of_answersEach htarget]
  exact reconcile_map batch _

/-- What a batch adds to the counters is what its records add, each on its own. -/
theorem CallEnd.stats_of_answersEach
    (importer : Importer)
    (calls : List Call)
    {batch : List SourceRecord}
    (hword : batch.length ≤ Numeral.maxWord) :
    (target.callEnd calls (importer.callOf batch)).stats batch =
      (batch.map fun r =>
        ImportStats.ofKind (kind (answer (r.toEntry importer.rules)))).sum := by
  have htally := ofResponse_tallying kind
    (batch.map fun r => answer (r.toEntry importer.rules)) (by simpa using hword)
  rw [List.length_map, List.map_map] at htally
  rw [Target.callEnd, reply_of_answersEach htarget]
  exact htally

end Replies

namespace Importer

variable (importer : Importer) {target : Target} {answer : ImportEntry → ImportDetail}
  {kind : ImportDetail → ImportStatus}

/-- The requests of an import are filled up to the size of its batches. -/
theorem filledUpTo_requests
    (records : List SourceRecord) :
    FilledUpTo importer.size (requestsOf ((importer.batchesOf records).map importer.callOf)) := by
  obtain ⟨n, hn⟩ := importer.exists_size_eq_succ
  have hrequests : requestsOf ((importer.batchesOf records).map importer.callOf) =
      (chunks n records).map (requestOf importer.rules importer.onConflict) := by
    rw [batchesOf_eq_chunks importer hn]
    simp [requestsOf, callOf, Call.request?, Function.comp_def]
  have husers : ∀ batch,
      (requestOf importer.rules importer.onConflict batch).users.length = batch.length :=
    fun batch => List.length_map _
  rw [hrequests, hn]
  constructor
  · rintro _ hrequest
    obtain ⟨batch, hbatch, rfl⟩ := List.mem_map.mp hrequest
    rw [husers]
    exact (length_of_mem_chunks hbatch).1
  · rintro _ hrequest
    obtain ⟨batch, hbatch, rfl⟩ := List.mem_map.mp hrequest
    rw [husers]
    exact (length_of_mem_chunks hbatch).2
  · rintro _ hrequest
    rw [← List.map_dropLast] at hrequest
    obtain ⟨batch, hbatch, rfl⟩ := List.mem_map.mp hrequest
    rw [husers]
    exact length_of_mem_dropLast_chunks hbatch

/-- All batches together are the records. -/
theorem flatMap_batchAt
    (records : List SourceRecord) :
    (List.range (importer.batchCount records)).flatMap (importer.batchAt records) = records := by
  rw [List.flatMap_def]
  exact importer.flatten_batchesOf records

section AnswersEach

variable (htarget : target.AnswersEach answer kind)
include htarget

/-- The results of an import are those of its records, each on its own. -/
theorem resultsOf_of_answersEach
    (calls : List Call)
    (records : List SourceRecord) :
    importer.resultsOf target calls records =
      records.map fun r => resultOf r (some (answer (r.toEntry importer.rules))) := by
  have hbatch : ∀ k, (importer.replyTo target calls records k).results
      (importer.batchAt records k) = (importer.batchAt records k).map fun r =>
        resultOf r (some (answer (r.toEntry importer.rules))) :=
    fun k => CallEnd.results_of_answersEach htarget importer _ _
  simp only [resultsOf, hbatch]
  rw [← List.map_flatMap, flatMap_batchAt]

/-- What an import adds to the counters is what its records add, each on its own. -/
theorem statsOf_of_answersEach
    (calls : List Call)
    {records : List SourceRecord}
    (hword : records.length ≤ Numeral.maxWord) :
    importer.statsOf target calls records =
      (records.map fun r =>
        ImportStats.ofKind (kind (answer (r.toEntry importer.rules)))).sum := by
  have hbatch : ∀ k, (importer.replyTo target calls records k).stats
      (importer.batchAt records k) = ((importer.batchAt records k).map fun r =>
        ImportStats.ofKind (kind (answer (r.toEntry importer.rules)))).sum := by
    intro k
    refine CallEnd.stats_of_answersEach htarget importer _ (Nat.le_trans ?_ hword)
    have hsub : (importer.batchAt records k).Sublist records :=
      (List.take_sublist _ _).trans (List.drop_sublist _ _)
    exact hsub.length_le
  let weight : SourceRecord → ImportStats := fun r =>
    .ofKind (kind (answer (r.toEntry importer.rules)))
  calc importer.statsOf target calls records
      = ((List.range (importer.batchCount records)).map fun k =>
          ((importer.batchAt records k).map weight).sum).sum := by
        simp only [statsOf, hbatch, weight]
    _ = ((importer.batchesOf records).map (List.map weight)).flatten.sum := by
        rw [List.sum_flatten, batchesOf, List.map_map, List.map_map]
        rfl
    _ = (records.map weight).sum := by
        rw [← List.map_flatten, flatten_batchesOf]

/--
To a service that answers each account on its own the batches do not matter. Whatever their size and
however many workers there are, an import has the same results, leaves the same counters and sends
the same accounts in the same order, in requests that are filled up to the size; and when the
records are imported in two parts, wherever they are divided, the results of both parts together and
the counters behind them are those of one import. The counters of a new importer can hold what such
an import adds. (The counters of a response are words, and a list in memory never has more records
than a word can count.) -/
theorem batches_do_not_show
    (hsettled : importer.Settled)
    (calls : List Call)
    {records : List SourceRecord}
    (hword : records.length ≤ Numeral.maxWord) :
    ∃ results stats,
      results = records.map (fun r => resultOf r (some (answer (r.toEntry importer.rules)))) ∧
      (importer.counting = .unbounded ∨ importer.stats = {} →
        importer.counting.settle stats = .ok stats) ∧
      ∀ size workers, workers ≤ permitLimit →
        (∀ schedule, ∃ sent,
          importAll { importer with batchSize := size, workers := workers } target schedule calls
              records =
            ⟨calls ++ sent,
              (importer.counting.settle stats).map fun kept => (results,
                { importer with batchSize := size, workers := workers, stats := kept })⟩ ∧
          sentEntries sent = records.map (SourceRecord.toEntry importer.rules) ∧
          FilledUpTo (max size 1) (requestsOf sent)) ∧
        ∀ front back, front ++ back = records → ∀ first second : Schedule,
          (importEach target { importer with batchSize := size, workers := workers } calls
              [⟨first, front⟩, ⟨second, back⟩]).ending =
            (importer.counting.settle stats).map fun kept => (results,
              { importer with batchSize := size, workers := workers, stats := kept }) := by
  refine ⟨_, importer.stats + (records.map fun r =>
    ImportStats.ofKind (kind (answer (r.toEntry importer.rules)))).sum, rfl, ?_, ?_⟩
  · rintro (hunbounded | hnew)
    · exact Counting.settle_of_unbounded hunbounded _
    · have hkinds : (records.map fun r => kind (answer (r.toEntry importer.rules))).length ≤
          Numeral.maxWord := by
        simpa using hword
      have hfits := fits_sum_ofKind hkinds
      rw [List.map_map] at hfits
      rw [hnew]
      exact importer.counting.settle_of_fits ((zero_add (M := ImportStats) _).symm ▸ hfits)
  intro size workers hworkers
  let sized : Importer := { importer with batchSize := size, workers := workers }
  constructor
  · intro schedule
    refine ⟨(sized.batchesOf records).map sized.callOf, ?_, sized.sentEntries_batchesOf records,
      sized.filledUpTo_requests records⟩
    have himport := sized.importAll_eq target hsettled schedule calls records hworkers
    rw [settled, resultsOf_of_answersEach sized htarget,
      statsOf_of_answersEach sized htarget calls hword] at himport
    exact himport
  · rintro front back rfl first second
    rw [List.length_append] at hword
    have heach := importEach_ending target calls sized hsettled
      [⟨first, front⟩, ⟨second, back⟩] hworkers
    simp only [deliveriesEach, List.append_nil, List.flatMap_append, List.map_append,
      List.sum_append, ← resultsOf_eq_flatMap, ← statsOf_eq_sum] at heach
    rw [resultsOf_of_answersEach sized htarget, resultsOf_of_answersEach sized htarget,
      statsOf_of_answersEach sized htarget _ (by omega),
      statsOf_of_answersEach sized htarget _ (by omega)] at heach
    rw [heach, List.map_append, List.map_append, List.sum_append]

end AnswersEach

/-- A service that skips accounts without an email address and makes all others. -/
def choosyTarget : Target where
  reply := fun _ call =>
    match call with
    | .bulkImport request =>
        .answered (.tallying (fun d => .ofWord d.status) (request.users.map fun entry =>
          if entry.email = none then { status := "skipped" } else { status := "imported" }))
    | .countUsers => .answered (0 : UInt64)
    | .countProfiles => .answered (0 : UInt64)
    | .findUser _ => .answered none

/-- A new importer that checks its sums. -/
def checkedImporter : Importer where
  batchSize := 2
  workers := 1
  onConflict := .skip
  rules := {}
  counting := .checked

/-- Three records, of which the second has no email address. -/
def threeRecords : List SourceRecord :=
  [{ id := "1", email := some "ada@x.org" }, { id := "2" }, { id := "3", email := some "eve@x.org" }]

/-- Batches of one record and of two, and two imports in place of one, come out alike. -/
theorem batches_of_threeRecords :
    choosyTarget.AnswersEach
      (fun entry => if entry.email = none then { status := "skipped" } else { status := "imported" })
      (fun d => .ofWord d.status) ∧
    checkedImporter.Settled ∧
    threeRecords.length ≤ Numeral.maxWord ∧
    ∃ stats,
      (importAll { checkedImporter with batchSize := 1, workers := 4 } choosyTarget .backwards []
          threeRecords).ending =
        .ok ([⟨"1", none, .created, ""⟩, ⟨"2", none, .skipped, ""⟩, ⟨"3", none, .created, ""⟩],
          { checkedImporter with batchSize := 1, workers := 4, stats := stats }) ∧
      (importAll { checkedImporter with batchSize := 2, workers := 1 } choosyTarget .inOrder []
          threeRecords).ending =
        .ok ([⟨"1", none, .created, ""⟩, ⟨"2", none, .skipped, ""⟩, ⟨"3", none, .created, ""⟩],
          { checkedImporter with batchSize := 2, workers := 1, stats := stats }) ∧
      (importEach choosyTarget { checkedImporter with batchSize := 2, workers := 1 } []
          [⟨.inOrder, threeRecords.take 1⟩, ⟨.inOrder, threeRecords.drop 1⟩]).ending =
        .ok ([⟨"1", none, .created, ""⟩, ⟨"2", none, .skipped, ""⟩, ⟨"3", none, .created, ""⟩],
          { checkedImporter with batchSize := 2, workers := 1, stats := stats }) := by
  have htarget : choosyTarget.AnswersEach
      (fun entry => if entry.email = none then { status := "skipped" } else { status := "imported" })
      (fun d => .ofWord d.status) := fun _ _ => rfl
  have hsettled : checkedImporter.Settled := Counting.settle_zero .checked
  have hword : threeRecords.length ≤ Numeral.maxWord := by decide
  obtain ⟨results, stats, hresults, hkept, hsizes⟩ :=
    batches_do_not_show checkedImporter htarget hsettled [] hword
  have hstats := hkept (Or.inr rfl)
  have hshown : results =
      [⟨"1", none, .created, ""⟩, ⟨"2", none, .skipped, ""⟩, ⟨"3", none, .created, ""⟩] := by
    rw [hresults]
    decide +kernel
  rw [hshown, hstats] at hsizes
  obtain ⟨honeByOne, -⟩ := hsizes 1 4 (by decide)
  obtain ⟨hinPairs, hdivided⟩ := hsizes 2 1 (by decide)
  obtain ⟨_, hone, -⟩ := honeByOne .backwards
  obtain ⟨_, hpairs, -⟩ := hinPairs .inOrder
  exact ⟨htarget, hsettled, hword, stats, by rw [hone]; rfl, by rw [hpairs]; rfl,
    hdivided _ _ (List.take_append_drop 1 threeRecords) .inOrder .inOrder⟩

end Importer

end AccountMigration
