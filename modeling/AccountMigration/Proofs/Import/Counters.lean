import AccountMigration.Import.Counting
import Mathlib.Algebra.BigOperators.Group.List.Basic
import Mathlib.Order.Basic

/-!
# Sums of counters

Counters form a commutative monoid, so what batches add to them can be summed up in any
order.  One reading of the counters is below another when no counter has gone down in between.

* `ImportStats.ofResults_eq_sum`: counting results sums up what each of them adds.
* `ImportStats.ofResults_append`: results can be counted in parts.
* `ImportStats.le_add`: adding to counters takes nothing away.
* `Counting.settle_bind_add`: sums can be settled in parts, however a build counts.
* `Counting.settle_of_fits`: counters that are words are kept as they are.
-/

namespace AccountMigration

instance : Zero ImportStats :=
  ⟨{}⟩

instance : AddCommMonoid ImportStats where
  add_assoc := ImportStats.add_assoc
  zero_add := ImportStats.zero_add
  add_zero a := by rw [ImportStats.add_comm]; exact ImportStats.zero_add a
  add_comm := ImportStats.add_comm
  nsmul := nsmulRec

namespace ImportStats

/-- No counter of the first is above that of the second. -/
structure AtMost
    (a b : ImportStats) : Prop where
  total : a.total ≤ b.total
  created : a.created ≤ b.created
  existing : a.existing ≤ b.existing
  skipped : a.skipped ≤ b.skipped
  updated : a.updated ≤ b.updated
  errors : a.errors ≤ b.errors

instance : Preorder ImportStats where
  le := AtMost
  le_refl a := by
    constructor <;> exact Nat.le_refl _
  le_trans _ _ _ hab hbc :=
    ⟨Nat.le_trans hab.total hbc.total, Nat.le_trans hab.created hbc.created,
      Nat.le_trans hab.existing hbc.existing, Nat.le_trans hab.skipped hbc.skipped,
      Nat.le_trans hab.updated hbc.updated, Nat.le_trans hab.errors hbc.errors⟩

/-- Adding to counters takes nothing away. -/
theorem le_add
    (a b : ImportStats) :
    a ≤ a + b := by
  refine AtMost.mk ?_ ?_ ?_ ?_ ?_ ?_ <;> exact Nat.le_add_right _ _

instance : IsRightCancelAdd ImportStats where
  add_right_cancel c a b h := by
    obtain ⟨ht, hc, he, hs, hu, hr⟩ := (ImportStats.mk.injEq ..).mp h
    obtain ⟨⟩ := a
    obtain ⟨⟩ := b
    simp only [Nat.add_right_cancel_iff] at ht hc he hs hu hr
    subst_vars
    rfl

/-- Counting results sums up what each of them adds. -/
theorem ofResults_eq_sum
    (results : List ImportResult) :
    ofResults results = (results.map fun r => ofStatus r.status).sum := by
  have hfold : ∀ start : ImportStats,
      results.foldl (fun stats r => stats + ofStatus r.status) start =
        start + (results.map fun r => ofStatus r.status).sum := by
    induction results with
    | nil =>
        intro start
        exact (add_zero start).symm
    | cons r rs ih =>
        intro start
        rw [List.foldl_cons, ih, List.map_cons, List.sum_cons, AddSemigroup.add_assoc]
  rw [ofResults, hfold]
  exact zero_add _

/-- Results can be counted in parts. -/
theorem ofResults_append
    (xs ys : List ImportResult) :
    ofResults (xs ++ ys) = ofResults xs + ofResults ys := by
  rw [ofResults_eq_sum, List.map_append, List.sum_append, ← ofResults_eq_sum, ← ofResults_eq_sum]

/-- Results that all have one status count for that status only. -/
theorem ofResults_of_status
    {results : List ImportResult}
    {status : ImportStatus}
    (hstatus : ∀ r ∈ results, r.status = status) :
    ofResults results = (List.replicate results.length (ofStatus status)).sum := by
  rw [ofResults_eq_sum, List.map_congr_left fun r hr => congrArg ofStatus (hstatus r hr),
    List.map_const']

theorem Fits.of_le
    {a b : ImportStats}
    (hfits : b.Fits)
    (hle : a ≤ b) :
    a.Fits where
  created := Nat.le_trans hle.created hfits.created
  existing := Nat.le_trans hle.existing hfits.existing
  skipped := Nat.le_trans hle.skipped hfits.skipped
  updated := Nat.le_trans hle.updated hfits.updated
  errors := Nat.le_trans hle.errors hfits.errors

theorem wrapped_of_fits
    {s : ImportStats}
    (hfits : s.Fits) :
    s.wrapped = s := by
  have hword : ∀ n, n ≤ Numeral.maxWord → n % (Numeral.maxWord + 1) = n :=
    fun n hn => Nat.mod_eq_of_lt (Nat.lt_succ_of_le hn)
  simp only [wrapped, hword _ hfits.created, hword _ hfits.existing, hword _ hfits.skipped,
    hword _ hfits.updated, hword _ hfits.errors]

/-- Cutting down a summand does not show once the sum is cut down. -/
theorem wrapped_wrapped_add
    (a b : ImportStats) :
    (a.wrapped + b).wrapped = (a + b).wrapped := by
  simp only [add_def, add, wrapped, Nat.mod_add_mod]

theorem wrapped_wrapped
    (s : ImportStats) :
    s.wrapped.wrapped = s.wrapped := by
  simp only [wrapped, Nat.mod_mod]

end ImportStats

namespace Counting

variable (counting : Counting) {s sum : ImportStats}

theorem settle_of_unbounded
    {counting : Counting}
    (hcounting : counting = .unbounded)
    (sum : ImportStats) :
    counting.settle sum = .ok sum := by
  subst hcounting
  rfl

theorem settle_eq_ok_iff :
    counting.settle sum = .ok s ↔ ¬ counting.Overflows sum ∧ counting.kept sum = s := by
  unfold settle
  split <;> simp [*]

theorem settle_of_overflows
    {counting : Counting}
    (hoverflows : counting.Overflows sum) :
    counting.settle sum = .error .countersOverflowed := by
  exact if_pos hoverflows

theorem settle_of_not_overflows
    {counting : Counting}
    (hfits : ¬ counting.Overflows sum) :
    counting.settle sum = .ok (counting.kept sum) := by
  exact if_neg hfits

/-- The total is never cut down. -/
@[simp] theorem total_kept
    (sum : ImportStats) :
    (counting.kept sum).total = sum.total := by
  cases counting <;> rfl

/-- Counters that are words are kept as they are. -/
theorem settle_of_fits
    (hfits : s.Fits) :
    counting.settle s = .ok s := by
  rw [settle_eq_ok_iff]
  refine ⟨fun hoverflows => hoverflows.2 hfits, ?_⟩
  cases counting with
  | unbounded => rfl
  | wrapping => exact ImportStats.wrapped_of_fits hfits
  | checked => rfl

theorem fits_zero :
    ImportStats.Fits {} := by
  constructor <;> exact Nat.zero_le _

@[simp] theorem settle_zero :
    counting.settle {} = .ok {} := by
  exact counting.settle_of_fits fits_zero

/-- Sums can be settled in parts: what counters make of the first part does not change what they
make of the whole sum. -/
theorem settle_bind_add
    (a b : ImportStats) :
    ((counting.settle a).bind fun s => counting.settle (s + b)) = counting.settle (a + b) := by
  cases counting with
  | unbounded =>
      rfl
  | wrapping =>
      exact congrArg Except.ok (ImportStats.wrapped_wrapped_add a b)
  | checked =>
      by_cases hfits : a.Fits
      · rw [settle_of_fits .checked hfits]
        rfl
      · -- what is added does not make the first part smaller
        have hsum : ¬ (a + b).Fits := fun h => hfits (h.of_le (ImportStats.le_add a b))
        rw [settle_of_overflows ⟨rfl, hfits⟩, settle_of_overflows ⟨rfl, hsum⟩]
        rfl

/-- What counters hold is kept as it is. -/
theorem settle_of_settle
    (hs : counting.settle sum = .ok s) :
    counting.settle s = .ok s := by
  obtain ⟨hfits, rfl⟩ := (counting.settle_eq_ok_iff).mp hs
  cases counting with
  | unbounded => rfl
  | wrapping => exact congrArg Except.ok (ImportStats.wrapped_wrapped sum)
  | checked => exact settle_of_not_overflows hfits

end Counting

end AccountMigration
