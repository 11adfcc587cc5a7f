import AccountMigration.Schedule
import Mathlib.Data.List.Nodup

/-!
# Places that are filled in any order

Tasks that run side by side report values for places of a list.  As long as no place is
reported twice, the order of the reports does not show in the list.

* `writeAll` writes values into their places, one after the other.
* `getElem?_writeAll_of_mem`: a place holds the value that was reported for it.
* `getElem?_writeAll_of_not_mem`: a place that nobody reported is left as it was.
* `writeAll_perm`: values can be reported in any order.
* `lookup_map_of_mem`: in a table with different keys, each key leads to its own value.
* `Schedule.arrange_map`: the order of completion does not look at the tasks.
-/

namespace AccountMigration

variable {α β : Type}

/-- Write values into their places, one after the other. -/
def writeAll
    (places : List α)
    (writes : List (Nat × α)) : List α :=
  writes.foldl (fun filled write => filled.set write.1 write.2) places

@[simp] theorem writeAll_cons
    (places : List α)
    (write : Nat × α)
    (writes : List (Nat × α)) :
    writeAll places (write :: writes) =
      writeAll (places.set write.1 write.2) writes := by
  rfl

@[simp] theorem length_writeAll
    (places : List α)
    (writes : List (Nat × α)) :
    (writeAll places writes).length = places.length := by
  induction writes generalizing places with
  | nil =>
      rfl
  | cons write writes ih =>
      rw [writeAll_cons, ih, List.length_set]

theorem set_length_append
    (filled rest : List α)
    (old new : α) :
    (filled ++ old :: rest).set filled.length new = filled ++ new :: rest := by
  rw [List.set_append_right _ _ (Nat.le_refl _), Nat.sub_self, List.set_cons_zero]

/-- A place that nobody reported is left as it was. -/
theorem getElem?_writeAll_of_not_mem
    {places : List α}
    {writes : List (Nat × α)}
    {i : Nat}
    (hi : i ∉ writes.map Prod.fst) :
    (writeAll places writes)[i]? = places[i]? := by
  induction writes generalizing places with
  | nil =>
      rfl
  | cons write writes ih =>
      rw [List.map_cons, List.mem_cons, not_or] at hi
      rw [writeAll_cons, ih hi.2]
      exact List.getElem?_set_ne fun h => hi.1 h.symm

/-- A place holds the value that was reported for it. -/
theorem getElem?_writeAll_of_mem
    {places : List α}
    {writes : List (Nat × α)}
    {write : Nat × α}
    (hnodup : (writes.map Prod.fst).Nodup)
    (hmem : write ∈ writes)
    (hlt : write.1 < places.length) :
    (writeAll places writes)[write.1]? = some write.2 := by
  induction writes generalizing places with
  | nil =>
      exact absurd hmem List.not_mem_nil
  | cons first writes ih =>
      rw [List.map_cons, List.nodup_cons] at hnodup
      rw [writeAll_cons]
      rcases List.mem_cons.mp hmem with rfl | hrest
      · rw [getElem?_writeAll_of_not_mem hnodup.1]
        exact List.getElem?_set_self hlt
      · exact ih hnodup.2 hrest (by rwa [List.length_set])

/-- The order in which values are reported does not show. -/
theorem writeAll_perm
    {places : List α}
    {writes others : List (Nat × α)}
    (hperm : writes.Perm others)
    (hnodup : (others.map Prod.fst).Nodup) :
    writeAll places writes = writeAll places others := by
  have hfirsts := hperm.map Prod.fst
  refine List.ext_getElem? fun i => ?_
  by_cases hi : i ∈ others.map Prod.fst
  · obtain ⟨write, hmem, rfl⟩ := List.mem_map.mp hi
    rcases Nat.lt_or_ge write.1 places.length with hlt | hge
    · rw [getElem?_writeAll_of_mem (hfirsts.nodup_iff.mpr hnodup) (hperm.mem_iff.mpr hmem) hlt,
        getElem?_writeAll_of_mem hnodup hmem hlt]
    · rw [List.getElem?_eq_none (by simpa using hge), List.getElem?_eq_none (by simpa using hge)]
  · rw [getElem?_writeAll_of_not_mem hi,
      getElem?_writeAll_of_not_mem fun h => hi (hfirsts.mem_iff.mp h)]

/-- In a table with different keys, the key of an entry leads to its value. -/
theorem lookup_map_of_mem
    {γ : Type}
    [DecidableEq β]
    (key : α → β)
    (value : α → γ)
    {xs : List α}
    (hnodup : (xs.map key).Nodup)
    {x : α}
    (hx : x ∈ xs) :
    (xs.map fun y => (key y, value y)).lookup (key x) = some (value x) := by
  induction xs with
  | nil =>
      exact absurd hx List.not_mem_nil
  | cons y ys ih =>
      rw [List.map_cons, List.nodup_cons] at hnodup
      rw [List.map_cons, List.lookup_cons]
      rcases List.mem_cons.mp hx with rfl | hrest
      · rw [beq_self_eq_true]
      · have hne : (key x == key y) = false := by
          rw [beq_eq_false_iff_ne]
          intro heq
          exact hnodup.1 (heq ▸ List.mem_map_of_mem hrest)
        rw [hne]
        exact ih hnodup.2 hrest

/-- The order of completion does not look at the tasks. -/
theorem Schedule.arrange_map
    (s : Schedule)
    (f : α → β)
    (tasks : List α) :
    s.arrange (tasks.map f) = (s.arrange tasks).map f := by
  simp [Schedule.arrange, List.map_filterMap]

/-- Tasks finish in the opposite of the order in which they were started. -/
def Schedule.backwards : Schedule where
  order n := (List.range n).reverse
  perm n := List.reverse_perm (List.range n)

end AccountMigration
