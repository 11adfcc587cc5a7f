import AccountMigration.Json.Fields
import Mathlib.Data.List.Nodup

/-!
# Members of a record

A record reads the values of its declared names and nothing else.  So it does not show in which
order the members of an object stand, which other members it has, and whether a member is left out
that has the default of its field.

* `Json.valueOf`: the value of a field, which is a default when the field is missing.
* `Json.areMembers_iff`: the members that the fields of a record can be read from.
* `Json.SameFields`: members that a record reads in the same way, and the ways in which members
  may differ.
-/

namespace AccountMigration
namespace Json

/-- The value of a field: that of the first member with its name, or a default. -/
def valueOf
    (ms : List (Option String × Json))
    (name : String)
    (default : Json) : Json :=
  (ms.lookup (some name)).getD default

section Members

variable {names : List String} {ms ms' front back : List (Option String × Json)}
  {k : Option String} {v w default : Json} {name : String}

theorem orElse_memberField
    {α : Type}
    {read : Json → Option α}
    {a : α}
    (hdefault : read default = some a) :
    (memberField ms name).orElse a read = read (valueOf ms name default) := by
  unfold memberField valueOf
  cases ms.lookup (some name) with
  | none => exact hdefault.symm
  | some v => rfl

theorem areMembers_iff :
    areMembers names ms = true ↔
      (∀ m ∈ ms, m.1.isSome = true) ∧
        ∀ name ∈ names, (ms.map Prod.fst).count (some name) ≤ 1 := by
  simp [areMembers]

/-- The value of a member does not show in the names. -/
theorem areMembers_append_cons :
    areMembers names (front ++ (k, v) :: back) = areMembers names (front ++ (k, w) :: back) := by
  simp [areMembers]

/-- The members in front decide first, then the member between, then those behind. -/
theorem lookup_append_cons
    (key : Option String) :
    (front ++ (k, v) :: back).lookup key =
      (front.lookup key).or (if key = k then some v else back.lookup key) := by
  rw [List.lookup_append, List.lookup_cons]
  by_cases hkey : key = k
  · simp [hkey]
  · have hother : (key == k) = false := beq_eq_false_iff_ne.mpr hkey
    simp [hkey, hother]

theorem lookup_eq_none_of_count
    {key : Option String}
    (hcount : (ms.map Prod.fst).count key = 0) :
    ms.lookup key = none := by
  rw [List.lookup_eq_none_iff]
  intro m hm
  rw [bne_iff_ne]
  rintro rfl
  exact List.count_eq_zero.mp hcount (List.mem_map_of_mem hm)

/-- A name that occurs once at most is found in any order of the members. -/
theorem lookup_of_perm
    (hperm : ms.Perm ms')
    {key : Option String}
    (hcount : (ms.map Prod.fst).count key ≤ 1) :
    ms.lookup key = ms'.lookup key := by
  induction hperm with
  | nil => rfl
  | cons m hrest ih =>
      rw [List.map_cons, List.count_cons] at hcount
      rw [List.lookup_cons, List.lookup_cons, ih (by omega)]
  | swap m n rest =>
      obtain ⟨j, v⟩ := m
      obtain ⟨k, w⟩ := n
      have hjk : ¬ (key = j ∧ key = k) := by
        rintro ⟨rfl, rfl⟩
        simp at hcount
      by_cases hj : key = j
      · have hk : (key == k) = false := beq_eq_false_iff_ne.mpr fun hk => hjk ⟨hj, hk⟩
        simp [List.lookup_cons, hj ▸ hk, hj]
      · have hj' : (key == j) = false := beq_eq_false_iff_ne.mpr hj
        simp [List.lookup_cons, hj']
  | trans hfirst _ ih₁ ih₂ =>
      rw [ih₁ hcount, ih₂ ((hfirst.map Prod.fst).count_eq key ▸ hcount)]

theorem valueOf_append_cons_of_ne
    (hname : k ≠ some name) :
    valueOf (front ++ (k, v) :: back) name default = valueOf (front ++ back) name default := by
  rw [valueOf, valueOf, lookup_append_cons, if_neg hname.symm, List.lookup_append]

section Declared

variable (hms : areMembers names (front ++ (some name, v) :: back) = true) (hname : name ∈ names)
include hms hname

/-- A declared name occurs once at most, so there is no other member with the name of a member. -/
theorem count_around_member :
    (front.map Prod.fst).count (some name) = 0 ∧ (back.map Prod.fst).count (some name) = 0 := by
  have hcount := (areMembers_iff.mp hms).2 name hname
  rw [List.map_append, List.map_cons, List.count_append, List.count_cons_self] at hcount
  omega

/-- The value of a member with a declared name is that of the field. -/
theorem valueOf_member :
    valueOf (front ++ (some name, v) :: back) name default = v := by
  have hfront := lookup_eq_none_of_count (count_around_member hms hname).1
  rw [valueOf, lookup_append_cons, hfront, if_pos rfl, Option.none_or, Option.getD_some]

/-- Without a member with a declared name, the field has its default. -/
theorem valueOf_without_member :
    valueOf (front ++ back) name default = default := by
  obtain ⟨hfront, hback⟩ := count_around_member hms hname
  rw [valueOf, List.lookup_append, lookup_eq_none_of_count hfront, lookup_eq_none_of_count hback]
  rfl

end Declared

/-! ## Members that a record reads in the same way -/

/-- Members from which the fields can be read, with the values that they have in other members. -/
structure SameFields
    (fields : List (String × Json))
    (ms ms' : List (Option String × Json)) : Prop where
  areMembers : areMembers (fields.map Prod.fst) ms' = true
  value : ∀ field ∈ fields, valueOf ms' field.1 field.2 = valueOf ms field.1 field.2

namespace SameFields

variable {fields : List (String × Json)}

/-- Members in another order. -/
theorem of_perm
    (hms : Json.areMembers (fields.map Prod.fst) ms = true)
    (hperm : ms.Perm ms') :
    SameFields fields ms ms' := by
  obtain ⟨hnames, hcount⟩ := areMembers_iff.mp hms
  refine ⟨areMembers_iff.mpr ⟨?_, ?_⟩, ?_⟩
  · exact fun m hm => hnames m (hperm.mem_iff.mpr hm)
  · intro name hname
    rw [← (hperm.map Prod.fst).count_eq]
    exact hcount name hname
  · intro field hfield
    rw [valueOf, valueOf, lookup_of_perm hperm (hcount _ (List.mem_map_of_mem hfield))]

/-- One more member, with a name that the record does not declare. -/
theorem of_insert
    (hms : Json.areMembers (fields.map Prod.fst) (front ++ back) = true)
    (hname : name ∉ fields.map Prod.fst)
    (v : Json) :
    SameFields fields (front ++ back) (front ++ (some name, v) :: back) := by
  obtain ⟨hnames, hcount⟩ := areMembers_iff.mp hms
  have hother : ∀ n ∈ fields.map Prod.fst, some name ≠ some n := by
    intro n hn heq
    obtain rfl := Option.some.inj heq
    exact hname hn
  refine ⟨areMembers_iff.mpr ⟨?_, ?_⟩, ?_⟩
  · rw [List.forall_mem_append] at hnames
    rw [List.forall_mem_append, List.forall_mem_cons]
    exact ⟨hnames.1, rfl, hnames.2⟩
  · intro n hn
    have hn' := hcount n hn
    rw [List.map_append, List.count_append] at hn'
    rwa [List.map_append, List.map_cons, List.count_append, List.count_cons_of_ne (hother n hn)]
  · intro field hfield
    exact valueOf_append_cons_of_ne (hother _ (List.mem_map_of_mem hfield))

/-- One member less, which had the default of its field. -/
theorem of_drop
    (hms : Json.areMembers (fields.map Prod.fst) (front ++ (some name, default) :: back) = true)
    (hnodup : (fields.map Prod.fst).Nodup)
    (hfield : (name, default) ∈ fields) :
    SameFields fields (front ++ (some name, default) :: back) (front ++ back) := by
  obtain ⟨hnames, hcount⟩ := areMembers_iff.mp hms
  have hname : name ∈ fields.map Prod.fst := List.mem_map_of_mem hfield
  refine ⟨areMembers_iff.mpr ⟨?_, ?_⟩, ?_⟩
  · rw [List.forall_mem_append, List.forall_mem_cons] at hnames
    rw [List.forall_mem_append]
    exact ⟨hnames.1, hnames.2.2⟩
  · intro n hn
    have hn' := hcount n hn
    rw [List.map_append, List.map_cons, List.count_append, List.count_cons] at hn'
    rw [List.map_append, List.count_append]
    omega
  · intro other hother
    by_cases heq : other.1 = name
    · obtain rfl : other = (name, default) := List.inj_on_of_nodup_map hnodup hother hfield heq
      rw [valueOf_member hms hname, valueOf_without_member hms hname]
    · exact (valueOf_append_cons_of_ne (by simpa using Ne.symm heq)).symm

end SameFields

/-! ## Members that no record is read from -/

/-- A declared name that occurs twice. -/
theorem areMembers_of_repeated
    (hname : name ∈ names)
    {between : List (Option String × Json)} :
    areMembers names (front ++ (some name, v) :: (between ++ (some name, w) :: back)) = false := by
  rw [Bool.eq_false_iff]
  intro hms
  have hback := (count_around_member hms hname).2
  rw [List.map_append, List.map_cons, List.count_append, List.count_cons_self] at hback
  omega

/-- A name that is not Unicode text. -/
theorem areMembers_of_nameless :
    areMembers names (front ++ (none, v) :: back) = false := by
  rw [Bool.eq_false_iff]
  intro hms
  have hnames := (areMembers_iff.mp hms).1 (none, v) List.mem_append_cons_self
  cases hnames

end Members

end Json
end AccountMigration
