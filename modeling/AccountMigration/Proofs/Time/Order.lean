import AccountMigration.Time.Timestamp
import Mathlib.Data.Int.Order.Basic
import Mathlib.Order.MinMax

/-!
# The order of timestamps

Timestamps are ordered by their positions on the line of time.  The latest of a list of
timestamps is found from the front to the back, and does not depend on their order.
-/

namespace AccountMigration
namespace Timestamp

instance : LinearOrder Timestamp where
  le t u := t.position ≤ u.position
  lt t u := t.position < u.position
  le_refl t := le_refl t.position
  le_trans _ _ _ := le_trans
  lt_iff_le_not_ge _ _ := lt_iff_le_not_ge
  le_antisymm _ _ h h' := position_injective (le_antisymm h h')
  le_total t u := le_total t.position u.position
  toDecidableLE t u := inferInstanceAs (Decidable (t.position ≤ u.position))
  toDecidableEq := inferInstance

theorem isAfter_iff
    (t u : Timestamp) :
    t.isAfter u = true ↔ u < t := by
  rw [isAfter, decide_eq_true_iff]
  rfl

instance : Std.LawfulOrderMax Timestamp :=
  .of_max_le_iff (fun _ _ _ => max_le_iff) max_choice

/-- One more timestamp is the latest, or leaves the latest as it is. -/
theorem max?_concat
    (ts : List Timestamp)
    (t : Timestamp) :
    (ts ++ [t]).max? = some (ts.max?.elim t (max · t)) := by
  cases ts with
  | nil =>
      rfl
  | cons u ts =>
      rw [List.cons_append, List.max?_cons', List.max?_cons', List.foldl_append]
      rfl

/-- The latest timestamp does not depend on the order. -/
theorem max?_perm
    {ts us : List Timestamp}
    (h : ts.Perm us) :
    ts.max? = us.max? := by
  refine Option.ext fun t => ?_
  rw [List.max?_eq_some_iff, List.max?_eq_some_iff]
  simp only [h.mem_iff]

end Timestamp
end AccountMigration
