import AccountMigration.Import.Importer
import Mathlib.Data.List.Basic

/-!
# Lists in parts

A list that is cut into parts of one size is made up of its slices: the part with number `k`
starts at `k` times the size, and only the last part may be shorter.

* `sliceAt` and `sliceCount`: the slices of a list, and how many there are.
* `chunks_eq`: cutting a list gives its slices in order.
* `flatten_chunks`: put together again, the parts are the list.
* `length_of_mem_chunks` and `length_of_mem_dropLast_chunks`: how long the parts are.
* `sliceAt_flatten`: lists as long as the parts are the slices of what they make up.
-/

namespace AccountMigration

variable {α β : Type}

/-- The elements in the place of a part. -/
def sliceAt
    (size : Nat)
    (xs : List α)
    (k : Nat) : List α :=
  (xs.drop (k * size)).take size

/-- The number of parts of a size, where the last part may be shorter. -/
def sliceCount
    (size : Nat)
    (xs : List α) : Nat :=
  (xs.length + size - 1) / size

theorem chunks_nil
    (n : Nat) :
    chunks n ([] : List α) = [] := by
  rw [chunks, dif_pos rfl]

theorem chunks_of_ne_nil
    (n : Nat)
    {xs : List α}
    (h : xs ≠ []) :
    chunks n xs = xs.take (n + 1) :: chunks n (xs.drop (n + 1)) := by
  rw [chunks, dif_neg h]

/-- The number of parts goes down by one with each part. -/
theorem sliceCount_drop
    (n : Nat)
    {xs : List α}
    (h : xs ≠ []) :
    sliceCount (n + 1) xs = sliceCount (n + 1) (xs.drop (n + 1)) + 1 := by
  have hpos := List.length_pos_iff.mpr h
  rw [sliceCount, sliceCount, List.length_drop]
  rcases Nat.lt_or_ge xs.length (n + 1) with hlt | hge
  · have hrest : xs.length - (n + 1) + (n + 1) - 1 = n := by omega
    have hall : xs.length + (n + 1) - 1 = xs.length - 1 + (n + 1) := by omega
    rw [hrest, hall, Nat.add_div_right _ n.succ_pos,
      Nat.div_eq_of_lt (by omega), Nat.div_eq_of_lt n.lt_succ_self]
  · have hall : xs.length + (n + 1) - 1 = xs.length - (n + 1) + (n + 1) - 1 + (n + 1) := by
      omega
    rw [hall, Nat.add_div_right _ n.succ_pos]

/-- A list without elements has no parts. -/
theorem sliceCount_nil
    (n : Nat) :
    sliceCount (n + 1) ([] : List α) = 0 := by
  rw [sliceCount, List.length_nil, Nat.zero_add]
  exact Nat.div_eq_of_lt n.lt_succ_self

theorem sliceAt_zero
    (size : Nat)
    (xs : List α) :
    sliceAt size xs 0 = xs.take size := by
  rw [sliceAt, Nat.zero_mul, List.drop_zero]

theorem sliceAt_succ
    (size : Nat)
    (xs : List α)
    (k : Nat) :
    sliceAt size xs (k + 1) = sliceAt size (xs.drop size) k := by
  rw [sliceAt, sliceAt, List.drop_drop, Nat.succ_mul, Nat.add_comm]

theorem sliceCount_map
    (f : α → β)
    (size : Nat)
    (xs : List α) :
    sliceCount size (xs.map f) = sliceCount size xs := by
  rw [sliceCount, List.length_map, sliceCount]

theorem sliceAt_map
    (f : α → β)
    (size : Nat)
    (xs : List α)
    (k : Nat) :
    sliceAt size (xs.map f) k = (sliceAt size xs k).map f := by
  rw [sliceAt, ← List.map_drop, ← List.map_take, sliceAt]

/-- Cutting a list gives its slices in order. -/
theorem chunks_eq
    (n : Nat)
    (xs : List α) :
    chunks n xs = (List.range (sliceCount (n + 1) xs)).map (sliceAt (n + 1) xs) := by
  induction xs using chunks.induct n with
  | case1 =>
      rw [chunks_nil, sliceCount_nil]
      rfl
  | case2 xs h ih =>
      rw [chunks_of_ne_nil n h, ih, sliceCount_drop n h, List.range_succ_eq_map,
        List.map_cons, List.map_map, sliceAt_zero]
      congr 1
      refine List.map_congr_left fun k _ => ?_
      exact (sliceAt_succ (n + 1) xs k).symm

/-- Put together again, the parts are the list. -/
theorem flatten_chunks
    (n : Nat)
    (xs : List α) :
    (chunks n xs).flatten = xs := by
  induction xs using chunks.induct n with
  | case1 =>
      rw [chunks_nil]
      rfl
  | case2 xs h ih =>
      rw [chunks_of_ne_nil n h, List.flatten_cons, ih]
      exact List.take_append_drop (n + 1) xs

/-- No part is empty, and none is longer than the size. -/
theorem length_of_mem_chunks
    {n : Nat}
    {xs part : List α}
    (hpart : part ∈ chunks n xs) :
    1 ≤ part.length ∧ part.length ≤ n + 1 := by
  induction xs using chunks.induct n with
  | case1 =>
      rw [chunks_nil] at hpart
      exact absurd hpart List.not_mem_nil
  | case2 xs h ih =>
      rw [chunks_of_ne_nil n h] at hpart
      rcases List.mem_cons.mp hpart with rfl | hrest
      · have hpos := List.length_pos_iff.mpr h
        rw [List.length_take]
        omega
      · exact ih hrest

/-- Every part in front of another one is as long as the size. -/
theorem length_of_mem_dropLast_chunks
    {n : Nat}
    {xs part : List α}
    (hpart : part ∈ (chunks n xs).dropLast) :
    part.length = n + 1 := by
  induction xs using chunks.induct n with
  | case1 =>
      rw [chunks_nil] at hpart
      exact absurd hpart List.not_mem_nil
  | case2 xs h ih =>
      rw [chunks_of_ne_nil n h] at hpart
      by_cases hlast : xs.drop (n + 1) = []
      · rw [hlast, chunks_nil] at hpart
        exact absurd hpart List.not_mem_nil
      · have hrest : chunks n (xs.drop (n + 1)) ≠ [] := by
          rw [chunks_of_ne_nil n hlast]
          exact List.cons_ne_nil _ _
        rw [List.dropLast_cons_of_ne_nil hrest] at hpart
        rcases List.mem_cons.mp hpart with rfl | hlater
        · -- something is left behind this part, so the list is longer than the part
          have hlong : n + 1 < xs.length := by
            by_contra hshort
            exact hlast (List.drop_of_length_le (Nat.le_of_not_lt hshort))
          rw [List.length_take]
          omega
        · exact ih hlater

/-- Lists that are as long as the parts of a list are the parts of what they make up. -/
theorem chunks_flatten
    {n : Nat}
    {xs : List α}
    {pieces : List (List β)}
    (hlength : pieces.map List.length = (chunks n xs).map List.length) :
    chunks n pieces.flatten = pieces := by
  induction xs using chunks.induct n generalizing pieces with
  | case1 =>
      rw [chunks_nil, List.map_nil, List.map_eq_nil_iff] at hlength
      rw [hlength]
      exact chunks_nil n
  | case2 xs h ih =>
      have hpos := List.length_pos_iff.mpr h
      rw [chunks_of_ne_nil n h, List.map_cons, List.length_take] at hlength
      obtain ⟨piece, rest, rfl, hpiece, hrest⟩ := List.map_eq_cons_iff.mp hlength
      have hne : piece ++ rest.flatten ≠ [] := by
        intro hnil
        have : piece = [] := (List.append_eq_nil_iff.mp hnil).1
        rw [this, List.length_nil] at hpiece
        omega
      rw [List.flatten_cons, chunks_of_ne_nil n hne]
      rcases Nat.lt_or_ge xs.length (n + 1) with hlt | hge
      · -- a part that is too short is the last one, so nothing is left for the others
        have hlast : rest = [] := by
          rw [List.drop_of_length_le (Nat.le_of_lt hlt), chunks_nil, List.map_nil,
            List.map_eq_nil_iff] at hrest
          exact hrest
        have hle : piece.length ≤ n + 1 := by omega
        rw [hlast, List.flatten_nil, List.append_nil, List.take_of_length_le hle,
          List.drop_of_length_le hle, chunks_nil]
      · have hfull : piece.length = n + 1 := by omega
        rw [List.take_left' hfull, List.drop_left' hfull, ih hrest]

/-- A slice of what lists make up that are as long as the parts of another list. -/
theorem sliceAt_flatten
    {n : Nat}
    {xs : List α}
    {pieces : List (List β)}
    (hlength : pieces.map List.length = (chunks n xs).map List.length)
    {k : Nat}
    {piece : List β}
    (hk : pieces[k]? = some piece) :
    sliceAt (n + 1) pieces.flatten k = piece := by
  rw [← chunks_flatten hlength, chunks_eq, List.getElem?_map] at hk
  obtain ⟨i, hi, hslice⟩ := Option.map_eq_some_iff.mp hk
  have hik : i = k := by
    have := List.getElem?_eq_some_iff.mp hi
    simpa using this.2.symm
  rw [← hslice, hik]

end AccountMigration
