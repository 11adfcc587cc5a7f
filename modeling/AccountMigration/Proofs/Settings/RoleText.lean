import AccountMigration.Proofs.Checks
import AccountMigration.Proofs.Settings.RoleMap
import AccountMigration.Proofs.Text.SignedNumeral
import AccountMigration.Proofs.Text.Split
import AccountMigration.Proofs.Text.Trim

/-!
# Written role mappings

A role mapping is written as pairs of an id and a name.  Pairs are read one after the other and the
first that cannot be read decides the error, so a text that goes on behind a comma is read as its
two halves, the second on top of the first.

* `PairReading` and `RoleMap.readPair_eq_iff`: what the text of a pair comes to.
* `RoleMap.ofText_append_comma`: a text and its halves.
* `RoleMap.IsWritten` and `RoleMap.exists_ofText_iff`: the texts that are read.
* `RoleMap.IsRefused` and `RoleMap.ofText_eq_error_iff`: the others, with the error.
* `IsRoleName` and `RoleMap.isRoleName_of_ofText`: the names of what is read.
-/

namespace AccountMigration

open Text

/-- What the text of a pair comes to.  An id and a name stand in front of and behind the first
colon, and the blanks around them do not count. -/
inductive PairReading : List Char → Except ConfigError (Int32 × String) → Prop
  | noColon
      {entry : List Char}
      (hcolon : ':' ∉ entry) :
      PairReading entry (.error (.malformedRole (String.ofList entry)))
  | noId
      {idText nameText : List Char}
      (hcolon : ':' ∉ idText)
      (hid : ∀ id : Int32, ¬ Numeral.Denotes (trimChars idText) id.toInt) :
      PairReading (idText ++ ':' :: nameText)
        (.error (.invalidRoleId (String.ofList (trimChars idText))))
  | noName
      {idText nameText : List Char}
      {id : Int32}
      (hcolon : ':' ∉ idText)
      (hid : Numeral.Denotes (trimChars idText) id.toInt)
      (hname : nameText.all isBlank = true) :
      PairReading (idText ++ ':' :: nameText) (.error (.emptyRoleName id))
  | pair
      {idText nameText : List Char}
      {id : Int32}
      (hcolon : ':' ∉ idText)
      (hid : Numeral.Denotes (trimChars idText) id.toInt)
      (hname : nameText.all isBlank = false) :
      PairReading (idText ++ ':' :: nameText) (.ok (id, String.ofList (trimChars nameText)))

/-- Names of roles: not empty, without blanks at the ends and without commas. -/
structure IsRoleName
    (name : String) : Prop where
  ne_empty : name ≠ ""
  trimmed : HasNoBlankEnds name.toList
  no_comma : ',' ∉ name.toList

/-! ## Reading a pair -/

section Pair

variable {idText nameText : List Char}

theorem readsId_iff
    {cs : List Char}
    {id : Int32} :
    (Numeral.int? cs).bind Numeral.toInt32? = some id ↔ Numeral.Denotes cs id.toInt := by
  rw [Option.bind_eq_some_iff]
  constructor
  · rintro ⟨i, hread, hrange⟩
    rw [Numeral.toInt32?_eq_some_iff] at hrange
    exact hrange ▸ Numeral.int?_eq_some_iff.mp hread
  · intro hdenotes
    exact ⟨id.toInt, Numeral.int?_eq_some_iff.mpr hdenotes, Numeral.toInt32?_eq_some_iff.mpr rfl⟩

namespace RoleMap

/-- A pair with a colon is cut there. -/
theorem readPair_of_colon
    (hcolon : ':' ∉ idText) :
    readPair (idText ++ ':' :: nameText) =
      match (Numeral.int? (trimChars idText)).bind Numeral.toInt32? with
      | none => .error (.invalidRoleId (String.ofList (trimChars idText)))
      | some id =>
          if trimChars nameText = [] then .error (.emptyRoleName id)
          else .ok (id, String.ofList (trimChars nameText)) := by
  rewrite [readPair, splitOnce?_eq_some_iff.mpr ⟨rfl, hcolon⟩]
  rfl

theorem readPair_of_denotes
    {id : Int32}
    (hcolon : ':' ∉ idText)
    (hid : Numeral.Denotes (trimChars idText) id.toInt) :
    readPair (idText ++ ':' :: nameText) =
      if nameText.all isBlank = true then .error (.emptyRoleName id)
      else .ok (id, String.ofList (trimChars nameText)) := by
  rw [readPair_of_colon hcolon, readsId_iff.mpr hid]
  simp only [trimChars_nil_iff]

theorem pairReading_readPair
    (entry : List Char) :
    PairReading entry (readPair entry) := by
  cases hsplit : splitOnce? ':' entry with
  | none =>
      rw [readPair, hsplit]
      exact .noColon (splitOnce?_eq_none_iff.mp hsplit)
  | some halves =>
      obtain ⟨rfl, hcolon⟩ := splitOnce?_eq_some_iff.mp hsplit
      cases hid : (Numeral.int? (trimChars halves.1)).bind Numeral.toInt32? with
      | none =>
          rw [readPair_of_colon hcolon, hid]
          refine .noId hcolon fun id hdenotes => ?_
          rw [readsId_iff.mpr hdenotes] at hid
          cases hid
      | some id =>
          rw [readPair_of_denotes hcolon (readsId_iff.mp hid)]
          split
          · next hname => exact .noName hcolon (readsId_iff.mp hid) hname
          · next hname => exact .pair hcolon (readsId_iff.mp hid) (eq_false_of_ne_true hname)

/-- Pairs are read as `PairReading` says. -/
theorem readPair_eq_iff
    {entry : List Char}
    {result : Except ConfigError (Int32 × String)} :
    readPair entry = result ↔ PairReading entry result := by
  constructor
  · rintro rfl
    exact pairReading_readPair entry
  · intro hreading
    cases hreading with
    | noColon hcolon =>
        rw [readPair, splitOnce?_eq_none_iff.mpr hcolon]
    | @noId idText nameText hcolon hid =>
        have hnone : (Numeral.int? (trimChars idText)).bind Numeral.toInt32? = none := by
          rw [Option.eq_none_iff_forall_ne_some]
          exact fun id hread => hid id (readsId_iff.mp hread)
        rw [readPair_of_colon hcolon, hnone]
    | noName hcolon hid hname =>
        rw [readPair_of_denotes hcolon hid, if_pos hname]
    | pair hcolon hid hname =>
        rw [readPair_of_denotes hcolon hid, if_neg (by simp [hname])]

end RoleMap
end Pair

/-! ## Reading a mapping -/

namespace RoleMap

section Text

variable {s : String}

theorem readPairs_eq
    (roles : RoleMap)
    (entries : List (List Char)) :
    readPairs roles entries =
      (entries.mapM readPair).map fun pairs =>
        pairs.foldl (fun roles pair => roles.insert pair.1 pair.2) roles := by
  induction entries generalizing roles with
  | nil =>
      rfl
  | cons entry rest ih =>
      rw [readPairs, List.mapM_cons]
      rcases readPair entry with cause | ⟨id, name⟩
      · rfl
      · simp only [ih]
        cases rest.mapM readPair <;> rfl

/-- The mapping of a text is made of the pairs that are read. -/
theorem ofText_eq
    (s : String) :
    ofText s = ((entryTexts s.toList).mapM readPair).map ofPairs :=
  readPairs_eq empty (entryTexts s.toList)

theorem entryTexts_append_comma
    (front behind : List Char) :
    entryTexts (front ++ ',' :: behind) = entryTexts front ++ entryTexts behind := by
  simp [entryTexts, split_append_cons]

/-- A text that goes on behind a comma is read as its halves, the second on top of the first. -/
theorem ofText_append_comma
    (first second : String) :
    ofText (first ++ "," ++ second) = do
      let roles ← ofText first
      let others ← ofText second
      return roles.override others := by
  have hentries : entryTexts (first ++ "," ++ second).toList =
      entryTexts first.toList ++ entryTexts second.toList := by
    rw [String.toList_append, String.toList_append, List.append_assoc]
    exact entryTexts_append_comma first.toList second.toList
  rw [ofText_eq, ofText_eq, ofText_eq, hentries, List.mapM_append]
  cases (entryTexts first.toList).mapM readPair with
  | error cause =>
      rfl
  | ok pairs =>
      cases (entryTexts second.toList).mapM readPair with
      | error cause =>
          rfl
      | ok more =>
          exact congrArg Except.ok (ofPairs_append pairs more)

/-- A part of a text between commas is blank or the text of a pair. -/
def IsRolePart
    (part : List Char) : Prop :=
  part.all isBlank = true ∨ ∃ pair, PairReading (trimChars part) (.ok pair)

/-- All parts of the text are blank or texts of pairs. -/
def IsWritten
    (s : String) : Prop :=
  ∀ part ∈ split ',' s.toList, IsRolePart part

/-- The first part of the text that is neither blank nor the text of a pair has the error. -/
def IsRefused
    (s : String)
    (cause : ConfigError) : Prop :=
  ∃ before part after,
    split ',' s.toList = before ++ part :: after ∧
      (∀ other ∈ before, IsRolePart other) ∧
      part.all isBlank = false ∧
      PairReading (trimChars part) (.error cause)

/-- A part is read when it is not blank. -/
def checkPart
    (part : List Char) : Except ConfigError Unit :=
  if part.all isBlank = true then .ok () else verdict (readPair (trimChars part))

theorem checkPart_eq_ok_iff
    {part : List Char} :
    checkPart part = .ok () ↔ IsRolePart part := by
  simp only [← readPair_eq_iff, IsRolePart, checkPart]
  split
  · next hblank => simp [hblank]
  · next hblank => simp [hblank, verdict_eq_ok_iff]

theorem checkPart_eq_error_iff
    {part : List Char}
    {cause : ConfigError} :
    checkPart part = .error cause ↔
      part.all isBlank = false ∧ PairReading (trimChars part) (.error cause) := by
  simp only [← readPair_eq_iff, checkPart]
  split
  · next hblank => simp [hblank]
  · next hblank => simp [hblank, verdict_eq_error_iff]

theorem verdict_ofText
    (s : String) :
    verdict (ofText s) = (split ',' s.toList).forM checkPart := by
  have hparts : ∀ parts : List (List Char),
      ((parts.map trimChars).filter fun entry => !entry.isEmpty).forM (verdict ∘ readPair) =
        parts.forM checkPart := by
    intro parts
    induction parts with
    | nil =>
        rfl
    | cons part parts ih =>
        rw [List.map_cons, List.filter_cons]
        by_cases hblank : part.all isBlank = true
        · have hcheck : checkPart part = .ok () := if_pos hblank
          rw [forM_cons_of_ok hcheck, ← ih, (trimChars_nil_iff part).mpr hblank]
          rfl
        · have hne : (!(trimChars part).isEmpty) = true := by
            rwa [Bool.not_eq_true', List.isEmpty_eq_false_iff, ne_eq, trimChars_nil_iff]
          have hcheck : checkPart part = (verdict ∘ readPair) (trimChars part) := if_neg hblank
          rw [if_pos hne]
          cases hread : (verdict ∘ readPair) (trimChars part) with
          | error cause =>
              rw [forM_cons_of_error hread, forM_cons_of_error (hcheck.trans hread)]
          | ok _ =>
              rw [forM_cons_of_ok hread, forM_cons_of_ok (hcheck.trans hread), ih]
  rw [← hparts, ← entryTexts, ← mapM_verdict, ofText_eq]
  cases (entryTexts s.toList).mapM readPair <;> rfl

/-- A text is read when each of its parts is blank or the text of a pair. -/
theorem exists_ofText_iff :
    (∃ roles, ofText s = .ok roles) ↔ IsWritten s := by
  rw [← verdict_eq_ok_iff, verdict_ofText, forM_eq_ok_iff]
  simp only [checkPart_eq_ok_iff, IsWritten]

/-- The first part that cannot be read decides the error. -/
theorem ofText_eq_error_iff
    {cause : ConfigError} :
    ofText s = .error cause ↔ IsRefused s cause := by
  rw [← verdict_eq_error_iff, verdict_ofText, forM_eq_error_iff]
  simp only [checkPart_eq_ok_iff, checkPart_eq_error_iff, IsRefused]

/-- The names of a mapping that is read are names of roles. -/
theorem isRoleName_of_ofText
    {roles : RoleMap}
    (hread : ofText s = .ok roles)
    {entry : Int32 × String}
    (hentry : entry ∈ roles.entries) :
    IsRoleName entry.2 := by
  rw [ofText_eq] at hread
  obtain ⟨pairs, hpairs, rfl⟩ : ∃ pairs,
      (entryTexts s.toList).mapM readPair = .ok pairs ∧ ofPairs pairs = roles := by
    cases hpairs : (entryTexts s.toList).mapM readPair with
    | error cause =>
        rw [hpairs] at hread
        cases hread
    | ok pairs =>
        rw [hpairs] at hread
        exact ⟨pairs, rfl, Except.ok.inj hread⟩
  obtain ⟨text, htext, hpair⟩ :=
    exists_of_mem_of_mapM hpairs (mem_of_mem_entries_ofPairs hentry)
  obtain ⟨part, hpart, rfl⟩ := List.mem_map.mp (List.mem_filter.mp htext).1
  have hcomma : ',' ∉ trimChars part :=
    fun hmem => not_mem_of_mem_split hpart (mem_of_mem_trimChars hmem)
  rw [readPair_eq_iff] at hpair
  generalize trimChars part = entryText at hpair hcomma
  cases hpair with
  | @pair idText nameText id hcolon hid hname =>
      refine ⟨?_, ?_, ?_⟩
      · rw [ne_eq, ← String.toList_eq_nil_iff, String.toList_ofList, trimChars_nil_iff, hname]
        exact Bool.false_ne_true
      · rw [String.toList_ofList, ← trimChars_eq_self_iff, trimChars_trimChars]
      · rw [String.toList_ofList]
        intro hmem
        refine hcomma (List.mem_append_right idText (List.mem_cons_of_mem ':' ?_))
        exact mem_of_mem_trimChars hmem

end Text

end RoleMap

end AccountMigration
