import AccountMigration.Verification.Sample
import Mathlib.Data.List.Rotate

/-!
# What a sample can hold

A sample holds users of the records, not more than a verification looks up, and every record
can be drawn.

* `Draw.length_sample_le` and `Draw.mem_sample`: what every draw keeps to.
* `Draw.startingAt` and `Draw.exists_sample`: each record is drawn by some draw.
-/

namespace AccountMigration
namespace Draw

theorem length_sample_le
    (draw : Draw)
    (records : List SourceRecord)
    (size : Nat) :
    (draw.sample records size).length ≤ sampleLimit := by
  have hpicks := draw.length_picks records.length (min size sampleLimit)
  have hfilter : (draw.sample records size).length ≤
      (draw.picks records.length (min size sampleLimit)).length :=
    List.length_filterMap_le _ _
  omega

theorem mem_sample
    {draw : Draw}
    {records : List SourceRecord}
    {size : Nat}
    {user : SampledUser}
    (huser : user ∈ draw.sample records size) :
    ∃ r ∈ records, user = .ofRecord r := by
  obtain ⟨i, -, hi⟩ := List.mem_filterMap.mp huser
  obtain ⟨r, hr, hof⟩ := Option.map_eq_some_iff.mp hi
  exact ⟨r, List.mem_of_getElem? hr, hof.symm⟩

/-- The draw that begins at an offset and goes on in front when it has reached the end. -/
def startingAt
    (offset : Nat) : Draw where
  picks := fun population size => ((List.range population).rotate offset).take size
  length_picks := by
    intro population size
    simp
  nodup_picks := by
    intro population size
    exact (List.nodup_rotate.mpr List.nodup_range).sublist (List.take_sublist _ _)
  lt_of_mem_picks := by
    intro population size i hi
    exact List.mem_range.mp (List.mem_rotate.mp (List.mem_of_mem_take hi))

/-- Every record is drawn by some draw. -/
theorem exists_sample
    {records : List SourceRecord}
    {r : SourceRecord}
    (hr : r ∈ records) :
    ∃ draw : Draw, SampledUser.ofRecord r ∈ draw.sample records sampleLimit := by
  obtain ⟨i, hi⟩ := List.mem_iff_getElem?.mp hr
  obtain ⟨hlt, -⟩ := List.getElem?_eq_some_iff.mp hi
  have hpick : i ∈ (startingAt i).picks records.length (min sampleLimit sampleLimit) := by
    have hfirst : ((List.range records.length).rotate i)[0]? = some i := by
      rw [List.getElem?_rotate (by simpa using Nat.zero_lt_of_lt hlt)]
      simp [Nat.mod_eq_of_lt hlt, hlt]
    refine List.mem_of_getElem? (i := 0) ?_
    rw [startingAt, List.getElem?_take_of_lt (by decide)]
    exact hfirst
  refine ⟨startingAt i, List.mem_filterMap.mpr ⟨i, hpick, ?_⟩⟩
  rw [hi]
  rfl

end Draw
end AccountMigration
