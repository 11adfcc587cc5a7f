import AccountMigration.Proofs.Settings.RoleText

/-!
# Ways to write a role mapping

The pairs of a mapping may be written in any order, with any numeral for an id, with blanks around
ids and names, and with parts between them that are blank.  All of this reads back as the mapping.

* `WrittenPair` and `WrittenPair.readPair_core`: a pair as it may be written.
* `RolePart` and `RoleMap.ofText_join`: what may stand between commas, and the text of such parts.
* `RoleMap.role_texts_are_read`: texts and their halves, written mappings, and the names of what is
  read.
-/

namespace AccountMigration

open Text

/-- Text of blanks only. -/
structure Blanks where
  chars : List Char
  blank : chars.all isBlank = true

/-- A pair as it may be written: any numeral of the id, and blanks around the id and the name. -/
structure WrittenPair where
  id : Int32
  name : String
  numeral : List Char
  denotes : Numeral.Denotes numeral id.toInt
  beforeId : Blanks
  afterId : Blanks
  beforeName : Blanks
  afterName : Blanks

/-- What may stand between two commas. -/
inductive RolePart where
  | blank (blanks : Blanks)
  | pair (written : WrittenPair)

namespace WrittenPair

/-- The pair without the blanks at its ends. -/
def core
    (p : WrittenPair) : List Char :=
  p.numeral ++ p.afterId.chars ++ ':' :: (p.beforeName.chars ++ p.name.toList)

/-- The text of a pair. -/
def chars
    (p : WrittenPair) : List Char :=
  p.beforeId.chars ++ p.core ++ p.afterName.chars

/-- An id in its shortest numeral and a name, without blanks. -/
def plain
    (id : Int32)
    (name : String) : WrittenPair where
  id
  name
  numeral := Numeral.signed id.toInt
  denotes := Numeral.denotes_signed id.toInt
  beforeId := ⟨[], rfl⟩
  afterId := ⟨[], rfl⟩
  beforeName := ⟨[], rfl⟩
  afterName := ⟨[], rfl⟩

end WrittenPair

namespace RolePart

/-- The text of a part. -/
def chars : RolePart → List Char
  | .blank blanks => blanks.chars
  | .pair p => p.chars

/-- The pair of a part. -/
def pair? : RolePart → Option (Int32 × String)
  | .blank _ => none
  | .pair p => some (p.id, p.name)

/-- The text of parts with commas between them. -/
def join
    (parts : List RolePart) : String :=
  String.ofList ([','].intercalate (parts.map chars))

end RolePart

/-! ## A written pair -/

theorem Blanks.not_mem
    {c : Char}
    (hc : isBlank c = false)
    (blanks : Blanks) :
    c ∉ blanks.chars := by
  intro hmem
  rw [List.all_eq_true.mp blanks.blank c hmem] at hc
  cases hc

theorem Numeral.Denotes.not_mem
    {numeral : List Char}
    {i : Int}
    (hdenotes : Numeral.Denotes numeral i)
    {c : Char}
    (hc : c ≠ '+' ∧ c ≠ '-' ∧ isAsciiDigit c = false) :
    c ∉ numeral := by
  intro hmem
  rcases hdenotes.mem hmem with hplus | hminus | hdigit
  · exact hc.1 hplus
  · exact hc.2.1 hminus
  · rw [hdigit] at hc
    exact Bool.noConfusion hc.2.2

namespace WrittenPair

variable {p : WrittenPair} (hname : IsRoleName p.name)
include hname

/-- The text of a pair begins with its numeral and ends with its name. -/
theorem trimChars_chars :
    trimChars p.chars = p.core := by
  rw [chars, trimChars_padded p.beforeId.blank p.afterName.blank, trimChars_eq_self_iff]
  have hne : p.name.toList ≠ [] := fun h => hname.ne_empty (String.toList_eq_nil_iff.mp h)
  refine ⟨?_, ?_⟩
  · intro c hc
    rw [core, List.append_assoc, List.head?_append_of_ne_nil _ p.denotes.ne_nil] at hc
    exact p.denotes.not_isBlank c (List.mem_of_mem_head? hc)
  · intro c hc
    rw [core, List.getLast?_append_of_ne_nil _ (List.cons_ne_nil _ _), List.getLast?_cons_of_ne_nil,
      List.getLast?_append_of_ne_nil _ hne] at hc
    · exact hname.trimmed.last c hc
    · exact List.append_ne_nil_of_right_ne_nil _ hne

/-- There is no comma in a pair. -/
theorem comma_not_mem_chars :
    ',' ∉ p.chars := by
  have hcomma : isBlank ',' = false := by
    decide
  simp only [chars, core, List.mem_append, List.mem_cons, not_or]
  exact ⟨⟨p.beforeId.not_mem hcomma,
    ⟨p.denotes.not_mem (by decide), p.afterId.not_mem hcomma⟩, by decide,
    p.beforeName.not_mem hcomma, hname.no_comma⟩, p.afterName.not_mem hcomma⟩

/-- A written pair reads back. -/
theorem readPair_core :
    RoleMap.readPair p.core = .ok (p.id, p.name) := by
  have hcolon : ':' ∉ p.numeral ++ p.afterId.chars := by
    rw [List.mem_append, not_or]
    exact ⟨p.denotes.not_mem (by decide), p.afterId.not_mem (by decide)⟩
  have hid : trimChars (p.numeral ++ p.afterId.chars) = p.numeral := by
    have hpadded : trimChars ([] ++ p.numeral ++ p.afterId.chars) = trimChars p.numeral :=
      trimChars_padded rfl p.afterId.blank p.numeral
    rwa [List.nil_append, trimChars_of_no_blank p.denotes.not_isBlank] at hpadded
  have hnameText : trimChars (p.beforeName.chars ++ p.name.toList) = p.name.toList := by
    have hpadded : trimChars (p.beforeName.chars ++ p.name.toList ++ []) =
        trimChars p.name.toList :=
      trimChars_padded p.beforeName.blank rfl p.name.toList
    rwa [List.append_nil, trimChars_eq_self_iff.mpr hname.trimmed] at hpadded
  have hblank : ¬ (p.beforeName.chars ++ p.name.toList).all isBlank = true := by
    rw [← trimChars_nil_iff, hnameText, String.toList_eq_nil_iff]
    exact hname.ne_empty
  have hdenotes : Numeral.Denotes (trimChars (p.numeral ++ p.afterId.chars)) p.id.toInt :=
    hid.symm ▸ p.denotes
  rw [core, RoleMap.readPair_of_denotes hcolon hdenotes, if_neg hblank, hnameText,
    String.ofList_toList]

end WrittenPair

/-! ## Written mappings -/

namespace RoleMap

section Join

variable {parts : List RolePart}
  (hnames : ∀ part ∈ parts, ∀ pair ∈ part.pair?, IsRoleName pair.2)
include hnames

theorem mapM_readPair_parts :
    (((parts.map RolePart.chars).map trimChars).filter fun entry => !entry.isEmpty).mapM readPair =
      .ok (parts.filterMap RolePart.pair?) := by
  induction parts with
  | nil =>
      rfl
  | cons part parts ih =>
      rw [List.forall_mem_cons] at hnames
      have hrest := ih hnames.2
      cases part with
      | blank blanks =>
          have hnone : trimChars blanks.chars = [] := (trimChars_nil_iff _).mpr blanks.blank
          simpa [RolePart.chars, RolePart.pair?, List.filterMap_cons, hnone] using hrest
      | pair p =>
          have hname : IsRoleName p.name := hnames.1 _ rfl
          have hne : p.core ≠ [] := by
            simp [WrittenPair.core]
          simp only [List.map_cons, RolePart.chars, WrittenPair.trimChars_chars hname,
            List.filter_cons, List.isEmpty_eq_false_iff.mpr hne, Bool.not_false, if_true,
            List.mapM_cons, WrittenPair.readPair_core hname, hrest]
          rfl

/-- The parts of a written mapping are found again. -/
theorem split_join
    (hne : parts ≠ []) :
    split ',' (RolePart.join parts).toList = parts.map RolePart.chars := by
  rw [RolePart.join, String.toList_ofList, split_intercalate (by simpa using hne)]
  intro chars hchars
  obtain ⟨part, hpart, rfl⟩ := List.mem_map.mp hchars
  cases part with
  | blank blanks => exact blanks.not_mem (by decide)
  | pair p => exact WrittenPair.comma_not_mem_chars (hnames _ hpart _ rfl)

/-- Written parts are read as the mapping of their pairs. -/
theorem ofText_join :
    ofText (RolePart.join parts) = .ok (ofPairs (parts.filterMap RolePart.pair?)) := by
  cases parts with
  | nil =>
      rfl
  | cons part parts =>
      rw [ofText_eq, entryTexts, split_join hnames (List.cons_ne_nil part parts),
        mapM_readPair_parts hnames]
      rfl

end Join

/-- A text that goes on behind a comma has the error of its first half, else that of its second
half, else the mapping of the first half with that of the second on top.  A mapping whose names are
not empty, not padded and without commas is read from every text that has its pairs in any order,
and only such names are ever read. -/
theorem role_texts_are_read :
    (∀ first second : String,
      ofText (first ++ "," ++ second) = (do
        let roles ← ofText first
        let others ← ofText second
        return roles.override others)) ∧
    (∀ (roles others : RoleMap) (id : Int32),
      (roles.override others).find? id = (others.find? id).or (roles.find? id)) ∧
    (∀ (roles : RoleMap) (parts : List RolePart),
      (∀ entry ∈ roles.entries, IsRoleName entry.2) →
      (parts.filterMap RolePart.pair?).Perm roles.entries →
      ofText (RolePart.join parts) = .ok roles) ∧
    ∀ (s : String) (roles : RoleMap), ofText s = .ok roles →
      ∀ entry ∈ roles.entries, IsRoleName entry.2 := by
  refine ⟨ofText_append_comma, find?_override, ?_, fun _ _ hread _ => isRoleName_of_ofText hread⟩
  intro roles parts hroles hperm
  have hnames : ∀ part ∈ parts, ∀ pair ∈ part.pair?, IsRoleName pair.2 := by
    intro part hpart pair hpair
    exact hroles pair (hperm.subset (List.mem_filterMap.mpr ⟨part, hpart, hpair⟩))
  rw [ofText_join hnames, ofPairs_of_perm hperm]

/-- The least id of all, and one in the middle; one name has a colon in it. -/
def extremeRoles : RoleMap where
  entries := [(-2147483648, "a:b"), (7, "owner")]
  ascending := by
    decide

/-- The pairs of the mapping in the opposite order, with blank parts. -/
def extremeParts : List RolePart :=
  [.blank ⟨[], rfl⟩,
    .pair
      { id := 7
        name := "owner"
        numeral := "+007".toList
        denotes := .plus ⟨by decide, by decide⟩
        beforeId := ⟨[' '], by decide⟩
        afterId := ⟨['\t'], by decide⟩
        beforeName := ⟨[], rfl⟩
        afterName := ⟨[' '], by decide⟩ },
    .pair (.plain (-2147483648) "a:b"),
    .blank ⟨[' '], by decide⟩]

/-- A text with blanks, empty parts, a numeral with zeros and a sign, and the least id. -/
theorem role_texts_are_read_extremeParts :
    RolePart.join extremeParts = ", +007\t:owner ,-2147483648:a:b, " ∧
    (∀ entry ∈ extremeRoles.entries, IsRoleName entry.2) ∧
    (extremeParts.filterMap RolePart.pair?).Perm extremeRoles.entries ∧
    ofText (RolePart.join extremeParts) = .ok extremeRoles := by
  have hnames : ∀ entry ∈ extremeRoles.entries, IsRoleName entry.2 := by
    intro entry hentry
    rcases List.mem_pair.mp hentry with rfl | rfl
    · exact ⟨by decide, trimChars_eq_self_iff.mp (by decide), by decide⟩
    · exact ⟨by decide, trimChars_eq_self_iff.mp (by decide), by decide⟩
  have hperm : (extremeParts.filterMap RolePart.pair?).Perm extremeRoles.entries :=
    List.Perm.swap _ _ []
  exact ⟨by decide, hnames, hperm, role_texts_are_read.2.2.1 extremeRoles extremeParts hnames hperm⟩

end RoleMap

end AccountMigration
