/-!
# The order in which tasks finish

Tasks that run side by side finish in any order.  A `Schedule` is such an order: for every
number of tasks, a permutation of their positions.  `Schedule.arrange` puts finished tasks
into that order.
-/

namespace AccountMigration

/-- An order of completion for any number of tasks. -/
structure Schedule where
  order : Nat → List Nat
  perm : ∀ n, (order n).Perm (List.range n)

namespace Schedule

/-- Tasks finish in the order in which they were started. -/
def inOrder : Schedule :=
  ⟨List.range, fun _ => .refl _⟩

/-- Tasks by the order in which they finish. -/
def arrange
    {α : Type}
    (s : Schedule)
    (tasks : List α) : List α :=
  (s.order tasks.length).filterMap fun i => tasks[i]?

/-- Every position of a list, looked up in order, gives back the list. -/
theorem filterMap_range
    {α : Type}
    (xs : List α) :
    (List.range xs.length).filterMap (fun i => xs[i]?) = xs := by
  induction xs with
  | nil =>
      rfl
  | cons x xs ih =>
      rw [List.length_cons, List.range_succ_eq_map, List.filterMap_cons]
      simpa [List.filterMap_map, Function.comp_def] using ih

/-- No task is lost and none finishes twice. -/
theorem arrange_perm
    {α : Type}
    (s : Schedule)
    (tasks : List α) :
    (s.arrange tasks).Perm tasks := by
  have h := (s.perm tasks.length).filterMap fun i => tasks[i]?
  rwa [filterMap_range] at h

@[simp] theorem arrange_inOrder
    {α : Type}
    (tasks : List α) :
    inOrder.arrange tasks = tasks := by
  exact filterMap_range tasks

end Schedule

end AccountMigration
