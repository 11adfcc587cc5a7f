import AccountMigration.Json.Fields
import AccountMigration.Proofs.Json.RoundTrip
import Mathlib.Data.List.Nodup

/-!
# Records read back

A way of reading that undoes a way of writing, for the values that the fields of a record hold, and
the fields of a record that are found by their names.

* `Json.ReadsBack`: what is written is read back.  Texts, truth values and numbers have it, and it
  passes to optional values and to lists.
* `Json.Decodes` and `Json.ReadsBack.decodes`: what is written is read back from its texts, too.
* `Json.fields?_record`: the members of a record are found when their names differ.
-/

namespace AccountMigration
namespace Json

/-- What is written is read back, and has no numbers other than integers. -/
structure ReadsBack
    {α : Type}
    (write : α → Json)
    (read : Json → Option α) : Prop where
  exact (a : α) : (write a).Exact
  read_write (a : α) : read (write a) = some a

/-- Both texts of a value decode to the given result, from their characters and from their bytes. -/
def Decodes
    {α : Type}
    (v : Json)
    (read : Json → Option α)
    (a : α) : Prop :=
  ∀ text ∈ [v.toText, v.toPrettyText],
    (ofText? text).bind read = some a ∧ (ofBytes? (Utf8.bytes text)).bind read = some a

theorem Exact.decodes
    {α : Type}
    {v : Json}
    {read : Json → Option α}
    {a : α}
    (h : v.Exact)
    (hread : read v = some a) :
    v.Decodes read a := by
  have hdecodes : ∀ text, ReadsAs text v →
      (ofText? text).bind read = some a ∧ (ofBytes? (Utf8.bytes text)).bind read = some a :=
    fun text htext => ⟨by rw [htext.ofText, Option.bind_some, hread],
      by rw [htext.ofBytes, Option.bind_some, hread]⟩
  intro text htext
  rcases List.mem_pair.mp htext with rfl | rfl
  · exact hdecodes _ (readsAs_toText h)
  · exact hdecodes _ (readsAs_toPrettyText h)

theorem nullable_of_ne_null
    {α : Type}
    {v : Json}
    (read : Json → Option α)
    (hv : v ≠ .null) :
    nullable read v = (read v).map some := by
  cases v with
  | null => exact absurd rfl hv
  | _ => rfl

namespace ReadsBack

theorem text :
    ReadsBack Json.text text? where
  exact s := .str (some s)
  read_write _ := rfl

theorem bool :
    ReadsBack Json.bool bool? where
  exact := .bool
  read_write _ := rfl

/-- A number of 64 bits is not too great to be read. -/
theorem word :
    ReadsBack (fun n : UInt64 => .nat n.toNat) word? where
  exact n := .int n.toNat
  read_write n := by
    have hn : n.toNat ≤ Numeral.maxWord := Nat.le_sub_one_of_lt n.toNat_lt
    rw [Json.nat, word?, Numeral.toWord?, if_pos (by omega)]
    simp

/-- A number of 32 bits is within the bounds of what is read. -/
theorem int32 :
    ReadsBack (fun i : Int32 => .int i.toInt) int32? where
  exact i := .int i.toInt
  read_write i := by
    have hbounds : Int32.minValue.toInt ≤ i.toInt ∧ i.toInt ≤ Int32.maxValue.toInt :=
      ⟨Int32.minValue_le_toInt i, Int32.toInt_le i⟩
    rw [int32?, Numeral.toInt32?, if_pos hbounds, Int32.ofInt_toInt]

section

variable {α : Type} {write : α → Json} {read : Json → Option α} (h : ReadsBack write read)
include h

/-- An absent value is told from a value that is present when nothing present is `null`. -/
theorem ofOption
    (hnull : read .null = none) :
    ReadsBack (Json.ofOption write) (nullable read) where
  exact o := by
    cases o with
    | none => exact .null
    | some a => exact h.exact a
  read_write o := by
    cases o with
    | none =>
        rfl
    | some a =>
        have hread := h.read_write a
        have hpresent : write a ≠ .null := by
          intro hwrite
          rw [hwrite, hnull] at hread
          cases hread
        rw [Json.ofOption, nullable_of_ne_null read hpresent, hread, Option.map_some]

theorem list :
    ReadsBack (Json.list write) (list? read) where
  exact as := by
    refine .arr fun v hv => ?_
    obtain ⟨a, _, rfl⟩ := List.mem_map.mp hv
    exact h.exact a
  read_write as := by
    rw [Json.list, list?]
    induction as with
    | nil => rfl
    | cons a as ih => simp [h.read_write, ih]

theorem decodes
    (a : α) :
    (write a).Decodes read a :=
  (h.exact a).decodes (h.read_write a)

end

end ReadsBack

/-! ## The fields of a record -/

theorem exact_record
    {ms : List (String × Json)}
    (h : ∀ m ∈ ms, m.2.Exact) :
    (record ms).Exact := by
  refine .obj fun m hm => ?_
  obtain ⟨m, hmem, rfl⟩ := List.mem_map.mp hm
  exact h m hmem

/-- The field of a name among the members of a record. -/
def fieldOf
    (ms : List (String × Json))
    (name : String) : Field :=
  (ms.lookup name).elim .missing .given

section

variable (ms : List (String × Json)) (name key : String) (v : Json)

@[simp] theorem fieldOf_nil :
    fieldOf [] key = .missing := by
  rfl

@[simp] theorem fieldOf_cons :
    fieldOf ((name, v) :: ms) key = if key = name then .given v else fieldOf ms key := by
  by_cases hkey : key = name
  · simp [fieldOf, hkey]
  · have hother : (key == name) = false := beq_eq_false_iff_ne.mpr hkey
    simp [fieldOf, List.lookup_cons, hkey, hother]

end

section

variable {α : Type} (read : Json → Option α) (default : α) (v : Json)

@[simp] theorem required_given :
    (Field.given v).required read = read v := by
  rfl

@[simp] theorem optional_given :
    (Field.given v).optional read = nullable read v := by
  rfl

@[simp] theorem orElse_given :
    (Field.given v).orElse default read = read v := by
  rfl

end

theorem lookup_some
    (ms : List (String × Json))
    (name : String) :
    (ms.map fun m => (some m.1, m.2)).lookup (some name) = ms.lookup name := by
  induction ms with
  | nil =>
      rfl
  | cons m ms ih =>
      obtain ⟨n, v⟩ := m
      simp [List.lookup_cons, ih]

/-- The fields of a record are found by their names when these differ. -/
theorem fields?_record
    {names : List String}
    {ms : List (String × Json)}
    (h : (ms.map Prod.fst).Nodup) :
    fields? names (record ms) = some (fieldOf ms) := by
  have hnodup : ((ms.map Prod.fst).map some).Nodup := h.map fun _ _ => Option.some.inj
  have hkeys : (ms.map fun m => (some m.1, m.2)).map (·.1) = (ms.map Prod.fst).map some := by
    simp only [List.map_map]
    rfl
  have hmembers : areMembers names (ms.map fun m => (some m.1, m.2)) = true := by
    rw [areMembers, hkeys, Bool.and_eq_true, List.all_eq_true, List.all_eq_true]
    constructor
    · intro key hkey
      obtain ⟨name, _, rfl⟩ := List.mem_map.mp hkey
      rfl
    · intro name _
      rw [decide_eq_true_iff]
      exact List.nodup_iff_count_le_one.mp hnodup (some name)
  rw [record, fields?, if_pos hmembers]
  congr 1
  funext name
  rw [memberField, lookup_some, fieldOf]
  cases ms.lookup name <;> rfl

end Json
end AccountMigration
