import AccountMigration.Proofs.Places

/-!
# Slots of keys

A list of different keys gives each key a slot, and a table over the keys has one value for
each slot.

* `getElem?_filterMap_of_total` and `length_filterMap_of_total`: the value of a key stands in
  the slot of the key.
* `filterMap_eq_set`: when the value of one key changes, one slot changes.
* `filterMap_eq_toList`: a table with a value for one key only.
* `lookup_zipIdx`: the slot of a key is found by looking the key up.
-/

namespace AccountMigration

variable {κ ρ : Type} {keys : List κ} {value : κ → Option ρ}

/-- A table that has a value for each key has the value of a key in the place of the key. -/
theorem getElem?_filterMap_of_total
    (htotal : ∀ key ∈ keys, ∃ v, value key = some v)
    (i : Nat) :
    (keys.filterMap value)[i]? = keys[i]?.bind value := by
  induction keys generalizing i with
  | nil =>
      rfl
  | cons key keys ih =>
      obtain ⟨v, hv⟩ := htotal key List.mem_cons_self
      rw [List.filterMap_cons_some hv]
      cases i with
      | zero =>
          exact hv.symm
      | succ i =>
          exact ih (fun k hk => htotal k (List.mem_cons_of_mem key hk)) i

theorem length_filterMap_of_total
    (htotal : ∀ key ∈ keys, ∃ v, value key = some v) :
    (keys.filterMap value).length = keys.length := by
  rw [List.length_filterMap_eq_countP, List.countP_eq_length]
  intro key hkey
  obtain ⟨v, hv⟩ := htotal key hkey
  simp [hv]

/-- A table in which the value of one key changes, changes in the place of that key only. -/
theorem filterMap_eq_set
    (hnodup : keys.Nodup)
    (htotal : ∀ key ∈ keys, ∃ v, value key = some v)
    {changed : κ → Option ρ}
    {i : Nat}
    {key : κ}
    {v : ρ}
    (hi : keys[i]? = some key)
    (hsame : ∀ k ∈ keys, k ≠ key → changed k = value k)
    (hkey : changed key = some v) :
    keys.filterMap changed = (keys.filterMap value).set i v := by
  have hchanged : ∀ k ∈ keys, ∃ w, changed k = some w := by
    intro k hk
    by_cases heq : k = key
    · exact ⟨v, heq ▸ hkey⟩
    · exact hsame k hk heq ▸ htotal k hk
  refine List.ext_getElem? fun j => ?_
  rw [getElem?_filterMap_of_total hchanged, List.getElem?_set,
    getElem?_filterMap_of_total htotal, length_filterMap_of_total htotal]
  obtain ⟨hlt, hget⟩ := List.getElem?_eq_some_iff.mp hi
  by_cases hij : i = j
  · subst hij
    rw [if_pos rfl, if_pos hlt, hi, Option.bind_some, hkey]
  · rw [if_neg hij]
    cases hj : keys[j]? with
    | none =>
        rfl
    | some k =>
        have hk : k ≠ key := by
          intro heq
          exact hij ((List.getElem?_inj hlt hnodup).mp (hi.trans (heq ▸ hj.symm)))
        exact hsame k (List.mem_of_getElem? hj) hk

/-- A table that has a value for one key only holds that value. -/
theorem filterMap_eq_toList
    (key : κ)
    (hnodup : keys.Nodup)
    (hother : ∀ k, k ≠ key → value k = none)
    (hmissing : key ∉ keys → value key = none) :
    keys.filterMap value = (value key).toList := by
  induction keys with
  | nil =>
      rw [hmissing List.not_mem_nil]
      rfl
  | cons k keys ih =>
      obtain ⟨hnew, hnodup⟩ := List.nodup_cons.mp hnodup
      by_cases heq : k = key
      · subst heq
        have hrest : keys.filterMap value = [] :=
          List.filterMap_eq_nil_iff.mpr fun a ha => hother a fun h => hnew (h ▸ ha)
        rw [List.filterMap_cons, hrest]
        cases value k <;> rfl
      · rw [List.filterMap_cons_none (hother k heq)]
        refine ih hnodup fun hmem => hmissing ?_
        simpa [Ne.symm heq] using hmem

variable [DecidableEq κ]

/-- The slot of a key is its place among the keys. -/
theorem lookup_zipIdx
    (hnodup : keys.Nodup)
    {i : Nat}
    {key : κ}
    (hi : keys[i]? = some key) :
    keys.zipIdx.lookup key = some i := by
  have hmem : (key, i) ∈ keys.zipIdx := List.mem_zipIdx_iff_getElem?.mpr hi
  have hkeys : (keys.zipIdx.map Prod.fst).Nodup := by
    rwa [List.zipIdx_map_fst]
  simpa using lookup_map_of_mem Prod.fst Prod.snd hkeys hmem

/-- A key that is not among the keys has no slot. -/
theorem lookup_zipIdx_eq_none
    {key : κ}
    (hkey : key ∉ keys) :
    keys.zipIdx.lookup key = none := by
  rw [List.lookup_eq_none_iff]
  intro p hp
  have hmem := List.mem_of_getElem? (List.mem_zipIdx_iff_getElem?.mp hp)
  have hne : key ≠ p.1 := by
    rintro rfl
    exact hkey hmem
  simpa using hne

end AccountMigration
