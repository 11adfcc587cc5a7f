/-!
# Checks one after the other

When values are checked one after the other, the first error ends it all.  What is left when the
results of the checks are forgotten is whether there was an error, and which.

* `forM_eq_ok_iff` and `forM_eq_error_iff`: no check fails, or the first that fails decides.
* `verdict_bind` and `mapM_verdict`: the same for checks that have results.
* `exists_of_mem_of_mapM`: each result belongs to a value.
-/

namespace AccountMigration

variable {ε α β : Type}

/-- Whether there is an error, and which. -/
def verdict
    (result : Except ε α) : Except ε Unit :=
  result.map fun _ => ()

@[simp] theorem verdict_ok
    (a : α) :
    verdict (.ok a : Except ε α) = .ok () := by
  rfl

@[simp] theorem verdict_error
    (cause : ε) :
    verdict (.error cause : Except ε α) = .error cause := by
  rfl

theorem verdict_eq_ok_iff
    {result : Except ε α} :
    verdict result = .ok () ↔ ∃ a, result = .ok a := by
  cases result <;> simp

theorem verdict_eq_error_iff
    {result : Except ε α}
    {cause : ε} :
    verdict result = .error cause ↔ result = .error cause := by
  cases result <;> simp

/-- A computation in two steps succeeds when both of them do. -/
theorem bind_eq_ok_iff
    {x : Except ε α}
    {f : α → Except ε β}
    {b : β} :
    (x >>= f) = .ok b ↔ ∃ a, x = .ok a ∧ f a = .ok b := by
  cases x <;> simp [bind, Except.bind]

section Run

variable {check : α → Except ε Unit} {xs : List α}

theorem forM_cons_of_ok
    {x : α}
    (hx : check x = .ok ()) :
    (x :: xs).forM check = xs.forM check := by
  rw [show (x :: xs).forM check = (check x >>= fun _ => xs.forM check) from rfl, hx]
  rfl

theorem forM_cons_of_error
    {x : α}
    {cause : ε}
    (hx : check x = .error cause) :
    (x :: xs).forM check = .error cause := by
  rw [show (x :: xs).forM check = (check x >>= fun _ => xs.forM check) from rfl, hx]
  rfl

/-- A computation is checked step by step. -/
theorem verdict_bind
    {x : α}
    {result : Except ε β}
    {γ : Type}
    {f : β → Except ε γ}
    (hx : check x = verdict result)
    (hf : ∀ b, verdict (f b) = xs.forM check) :
    verdict (result >>= f) = (x :: xs).forM check := by
  cases result with
  | error cause =>
      rw [forM_cons_of_error hx]
      rfl
  | ok b =>
      rw [forM_cons_of_ok hx]
      exact hf b

/-- A run of checks ends well when each of them does. -/
theorem forM_eq_ok_iff :
    xs.forM check = .ok () ↔ ∀ x ∈ xs, check x = .ok () := by
  induction xs with
  | nil =>
      simp [List.forM, pure, Except.pure]
  | cons x xs ih =>
      cases hx : check x with
      | error cause =>
          rw [forM_cons_of_error hx, List.forall_mem_cons, hx]
          simp
      | ok _ =>
          rw [forM_cons_of_ok hx, List.forall_mem_cons, ih]
          exact (and_iff_right hx).symm

/-- The first check that fails decides the error. -/
theorem forM_eq_error_iff
    {cause : ε} :
    xs.forM check = .error cause ↔
      ∃ before x after, xs = before ++ x :: after ∧
        (∀ y ∈ before, check y = .ok ()) ∧ check x = .error cause := by
  constructor
  · intro hrun
    induction xs with
    | nil =>
        cases hrun
    | cons x xs ih =>
        cases hx : check x with
        | error other =>
            rw [forM_cons_of_error hx] at hrun
            cases hrun
            exact ⟨[], x, xs, rfl, by simp, hx⟩
        | ok _ =>
            rw [forM_cons_of_ok hx] at hrun
            obtain ⟨before, y, after, rfl, hbefore, hy⟩ := ih hrun
            exact ⟨x :: before, y, after, rfl, List.forall_mem_cons.mpr ⟨hx, hbefore⟩, hy⟩
  · rintro ⟨before, x, after, rfl, hbefore, hx⟩
    induction before with
    | nil =>
        exact forM_cons_of_error hx
    | cons y before ih =>
        rw [List.forall_mem_cons] at hbefore
        rw [List.cons_append, forM_cons_of_ok hbefore.1, ih hbefore.2]

end Run

section Results

variable {f : α → Except ε β} {xs : List α}

/-- Checks with results fail as those without. -/
theorem mapM_verdict :
    verdict (xs.mapM f) = xs.forM (verdict ∘ f) := by
  induction xs with
  | nil =>
      rfl
  | cons x xs ih =>
      rw [List.mapM_cons]
      cases hx : f x with
      | error cause =>
          have hcheck : (verdict ∘ f) x = .error cause := congrArg verdict hx
          rw [forM_cons_of_error hcheck]
          rfl
      | ok b =>
          have hcheck : (verdict ∘ f) x = .ok () := congrArg verdict hx
          rw [forM_cons_of_ok hcheck, ← ih]
          cases xs.mapM f <;> rfl

/-- Each result belongs to a value. -/
theorem exists_of_mem_of_mapM
    {results : List β}
    {b : β}
    (hrun : xs.mapM f = .ok results)
    (hb : b ∈ results) :
    ∃ x ∈ xs, f x = .ok b := by
  induction xs generalizing results with
  | nil =>
      cases hrun
      exact absurd hb List.not_mem_nil
  | cons x xs ih =>
      rw [List.mapM_cons] at hrun
      cases hx : f x with
      | error cause =>
          rw [hx] at hrun
          cases hrun
      | ok first =>
          cases hxs : xs.mapM f with
          | error cause =>
              rw [hx, hxs] at hrun
              cases hrun
          | ok rest =>
              rw [hx, hxs] at hrun
              cases hrun
              rcases List.mem_cons.mp hb with rfl | hrest
              · exact ⟨x, List.mem_cons_self, hx⟩
              · obtain ⟨y, hy, hresult⟩ := ih hxs hrest
                exact ⟨y, List.mem_cons_of_mem x hy, hresult⟩

end Results

end AccountMigration
