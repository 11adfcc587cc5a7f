import AccountMigration.Import.Batch

/-!
# Records and the details in their places

The details of a response are paired with the records of a batch by their places alone.  A record
has the result that its own detail tells, and details behind the last record tell nothing.

* `ImportResult.Tells`: what a result has to be by the record and the detail in its place.
* `Reconciles`: the results of a batch, record by record.
* `reconciles_iff`: pairing records with details gives these results, and there are no others.
-/

namespace AccountMigration

/-- A result of a record by the detail in its place.  Without a detail, or with a status that has no
known name, the record counts as created. -/
structure ImportResult.Tells
    (r : SourceRecord)
    (detail : Option ImportDetail)
    (result : ImportResult) : Prop where
  sourceId : result.sourceId = r.id
  targetId : result.targetId = detail.bind (·.userId)
  known : ∀ d status, detail = some d → d.status = status.name → result.status = status
  unknown : (∀ d status, detail = some d → d.status ≠ ImportStatus.name status) →
    result.status = .created
  note : result.note = (detail.bind (·.reason)).getD ""

/-- The results of a batch by the details of the response to it, record by record. -/
structure Reconciles
    (batch : List SourceRecord)
    (details : List ImportDetail)
    (results : List ImportResult) : Prop where
  length : results.length = batch.length
  tells : ∀ (i : Nat) (r : SourceRecord) (result : ImportResult),
    batch[i]? = some r → results[i]? = some result → result.Tells r details[i]?

namespace ImportStatus

theorem ofWord_name
    (status : ImportStatus) :
    ofWord status.name = status := by
  cases status <;> rfl

/-- A word that is no name means created. -/
theorem ofWord_of_unknown
    {s : String}
    (hunknown : ∀ status, s ≠ name status) :
    ofWord s = .created := by
  have hnone : (Named.ofName? s : Option ImportStatus) = none := by
    rw [Named.ofName?, List.find?_eq_none]
    intro status _ hname
    exact hunknown status (beq_iff_eq.mp hname).symm
  rw [ofWord, hnone]
  rfl

end ImportStatus

theorem resultOf_tells
    (r : SourceRecord)
    (detail : Option ImportDetail) :
    (resultOf r detail).Tells r detail := by
  cases detail with
  | none =>
      exact ⟨rfl, rfl, nofun, fun _ => rfl, rfl⟩
  | some d =>
      refine ⟨rfl, rfl, ?_, ?_, rfl⟩
      · rintro _ status ⟨⟩ hname
        exact (congrArg ImportStatus.ofWord hname).trans status.ofWord_name
      · intro hunknown
        exact ImportStatus.ofWord_of_unknown fun status => hunknown d status rfl

/-- Each record is paired with the detail in its place. -/
theorem getElem?_reconcile
    (batch : List SourceRecord)
    (details : List ImportDetail)
    (i : Nat) :
    (reconcile batch details)[i]? = batch[i]?.map fun r => resultOf r details[i]? := by
  induction batch generalizing details i with
  | nil =>
      rfl
  | cons r rs ih =>
      cases details <;> cases i <;> simp [reconcile, ih]

/-- Pairing records with details gives each record the result that its detail tells. -/
theorem reconcile_reconciles
    (batch : List SourceRecord)
    (details : List ImportDetail) :
    Reconciles batch details (reconcile batch details) := by
  refine ⟨length_reconcile batch details, fun i r result hr hresult => ?_⟩
  rw [getElem?_reconcile, hr, Option.map_some] at hresult
  obtain rfl := Option.some.inj hresult
  exact resultOf_tells r details[i]?

/-- A record and the detail in its place leave no choice of a result. -/
theorem ImportResult.Tells.unique
    {r : SourceRecord}
    {detail : Option ImportDetail}
    {result other : ImportResult}
    (h : result.Tells r detail)
    (hother : other.Tells r detail) :
    result = other := by
  have hstatus : result.status = other.status := by
    by_cases hknown : ∃ d status, detail = some d ∧ d.status = ImportStatus.name status
    · obtain ⟨d, status, hd, hname⟩ := hknown
      rw [h.known d status hd hname, hother.known d status hd hname]
    · have hunknown : ∀ d status, detail = some d → d.status ≠ ImportStatus.name status :=
        fun d status hd hname => hknown ⟨d, status, hd, hname⟩
      rw [h.unknown hunknown, hother.unknown hunknown]
  rw [ImportResult.mk.injEq]
  exact ⟨h.sourceId.trans hother.sourceId.symm, h.targetId.trans hother.targetId.symm, hstatus,
    h.note.trans hother.note.symm⟩

/-- The results of a batch are settled by its records and the details of the response. -/
theorem reconciles_unique
    {batch : List SourceRecord}
    {details : List ImportDetail}
    {results others : List ImportResult}
    (h : Reconciles batch details results)
    (hother : Reconciles batch details others) :
    results = others := by
  refine List.ext_getElem (h.length.trans hother.length.symm) fun i hi hj => ?_
  have hbatch : i < batch.length := h.length ▸ hi
  have hr : batch[i]? = some batch[i] := List.getElem?_eq_getElem hbatch
  exact (h.tells i _ _ hr (List.getElem?_eq_getElem hi)).unique
    (hother.tells i _ _ hr (List.getElem?_eq_getElem hj))

/-- Pairing records with details gives the results that the details tell, and nothing else does. -/
theorem reconciles_iff
    {batch : List SourceRecord}
    {details : List ImportDetail}
    {results : List ImportResult} :
    Reconciles batch details results ↔ results = reconcile batch details := by
  constructor
  · exact fun h => reconciles_unique h (reconcile_reconciles batch details)
  · rintro rfl
    exact reconcile_reconciles batch details

end AccountMigration
