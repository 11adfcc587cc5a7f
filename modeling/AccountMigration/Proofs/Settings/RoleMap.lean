import AccountMigration.Proofs.Places
import AccountMigration.Settings.RoleMap
import Mathlib.Data.List.Induction

/-!
# Role mappings as finite maps

A mapping is determined by the names that it finds.  When it is made of a list of pairs, the last
pair of an id decides, so the order of pairs with different ids does not matter, and a list that is
appended overrides what was there before.

* `RoleMap.find?_ofPairs`: the last pair of an id decides.
* `RoleMap.eq_of_find?`: mappings that find the same names are equal.
* `RoleMap.ofPairs_of_perm`: the pairs of a mapping make the mapping in any order.
* `RoleMap.override`: one mapping on top of another.
-/

namespace AccountMigration

section Table

variable {α β : Type} [DecidableEq α]

theorem lookup_cons_eq_ite
    (key : α)
    (entry : α × β)
    (rest : List (α × β)) :
    (entry :: rest).lookup key = if key = entry.1 then some entry.2 else rest.lookup key := by
  rw [List.lookup_cons]
  split
  · next hkey =>
    rw [if_pos (eq_of_beq hkey)]
  · next hkey =>
    rw [if_neg (ne_of_beq_false hkey)]

/-- In a table with different keys, a key leads to the values that are listed with it. -/
theorem lookup_eq_some_iff_mem
    {entries : List (α × β)}
    (hnodup : (entries.map Prod.fst).Nodup)
    {key : α}
    {value : β} :
    entries.lookup key = some value ↔ (key, value) ∈ entries := by
  constructor
  · intro hlookup
    obtain ⟨before, after, rfl, -⟩ := List.lookup_eq_some_iff.mp hlookup
    exact List.mem_append_cons_self
  · intro hmem
    have hlookup := lookup_map_of_mem Prod.fst Prod.snd hnodup hmem
    rwa [List.map_id'] at hlookup

end Table

namespace RoleMap

theorem lookup_insertEntry
    (id other : Int32)
    (name : String)
    (entries : List (Int32 × String)) :
    (insertEntry id name entries).lookup other =
      if other = id then some name else entries.lookup other := by
  induction entries with
  | nil =>
      exact lookup_cons_eq_ite other (id, name) []
  | cons first rest ih =>
      unfold insertEntry
      split
      · exact lookup_cons_eq_ite other (id, name) (first :: rest)
      · split
        · next hfirst =>
          rw [lookup_cons_eq_ite, lookup_cons_eq_ite, ← hfirst]
          split <;> rfl
        · next hne =>
          rw [lookup_cons_eq_ite, ih, lookup_cons_eq_ite]
          by_cases hother : other = first.1
          · simp [hother, Ne.symm hne]
          · simp [hother]

/-- After an insertion the new name is found, and every other id has the name that it had. -/
theorem find?_insert
    (roles : RoleMap)
    (id other : Int32)
    (name : String) :
    (roles.insert id name).find? other = if other = id then some name else roles.find? other :=
  lookup_insertEntry id other name roles.entries

/-- Among pairs, the last one of an id decides. -/
theorem find?_ofPairs
    (pairs : List (Int32 × String))
    (id : Int32) :
    (ofPairs pairs).find? id = pairs.reverse.lookup id := by
  induction pairs using List.reverseRecOn with
  | nil =>
      rfl
  | append_singleton pairs pair ih =>
      rw [ofPairs, List.foldl_append, ← ofPairs, List.foldl_cons, List.foldl_nil, find?_insert, ih,
        List.reverse_append, List.reverse_singleton, List.singleton_append, lookup_cons_eq_ite]

section Entries

variable (roles : RoleMap)

theorem nodup_ids :
    (roles.entries.map Prod.fst).Nodup := by
  refine List.pairwise_map.mpr (roles.ascending.imp ?_)
  rintro a b hlt heq
  rw [heq] at hlt
  exact Int.lt_irrefl _ hlt

/-- The entries of a mapping are what it finds. -/
theorem mem_entries_iff
    {id : Int32}
    {name : String} :
    (id, name) ∈ roles.entries ↔ roles.find? id = some name :=
  (lookup_eq_some_iff_mem roles.nodup_ids).symm

end Entries

/-- Mappings that find the same names are equal. -/
theorem eq_of_find?
    {roles others : RoleMap}
    (hfind : ∀ id, roles.find? id = others.find? id) :
    roles = others := by
  have hmem : ∀ entry, entry ∈ roles.entries ↔ entry ∈ others.entries := by
    intro entry
    rw [mem_entries_iff, mem_entries_iff, hfind]
  have hperm : roles.entries.Perm others.entries :=
    (List.perm_ext_iff_of_nodup (List.Nodup.of_map _ roles.nodup_ids)
      (List.Nodup.of_map _ others.nodup_ids)).mpr hmem
  have hentries : roles.entries = others.entries := by
    refine hperm.eq_of_pairwise ?_ roles.ascending others.ascending
    intro a b _ _ hlt hgt
    exact absurd (Int.lt_trans hlt hgt) (Int.lt_irrefl _)
  cases roles
  cases others
  simpa using hentries

/-- A mapping has no other entries than the pairs that it is made of. -/
theorem mem_of_mem_entries_ofPairs
    {pairs : List (Int32 × String)}
    {entry : Int32 × String}
    (hentry : entry ∈ (ofPairs pairs).entries) :
    entry ∈ pairs := by
  rw [mem_entries_iff, find?_ofPairs] at hentry
  obtain ⟨before, after, hpairs, -⟩ := List.lookup_eq_some_iff.mp hentry
  rw [← List.mem_reverse, hpairs]
  exact List.mem_append_cons_self

/-- The entries of a mapping make the mapping in any order. -/
theorem ofPairs_of_perm
    {pairs : List (Int32 × String)}
    {roles : RoleMap}
    (hperm : pairs.Perm roles.entries) :
    ofPairs pairs = roles := by
  have hreverse : pairs.reverse.Perm roles.entries := (List.reverse_perm pairs).trans hperm
  have hnodup : (pairs.reverse.map Prod.fst).Nodup :=
    (hreverse.map Prod.fst).nodup_iff.mpr roles.nodup_ids
  refine eq_of_find? fun id => Option.ext fun name => ?_
  rw [find?_ofPairs, lookup_eq_some_iff_mem hnodup, hreverse.mem_iff, mem_entries_iff]

/-- The names of the second mapping, and those of the first for other ids. -/
def override
    (first second : RoleMap) : RoleMap :=
  ofPairs (first.entries ++ second.entries)

/-- The mapping on top decides for the ids that it has a name for. -/
theorem find?_override
    (first second : RoleMap)
    (id : Int32) :
    (first.override second).find? id = (second.find? id).or (first.find? id) := by
  have hsecond := find?_ofPairs second.entries id
  have hfirst := find?_ofPairs first.entries id
  rw [ofPairs_of_perm (List.Perm.refl _)] at hsecond hfirst
  rw [override, find?_ofPairs, List.reverse_append, List.lookup_append, ← hsecond, ← hfirst]

/-- Pairs that come later override those in front. -/
theorem ofPairs_append
    (pairs more : List (Int32 × String)) :
    ofPairs (pairs ++ more) = (ofPairs pairs).override (ofPairs more) := by
  refine eq_of_find? fun id => ?_
  rw [find?_override, find?_ofPairs, find?_ofPairs, find?_ofPairs, List.reverse_append,
    List.lookup_append]

end RoleMap
end AccountMigration
