import AccountMigration.Error
import AccountMigration.Text.Blank
import AccountMigration.Text.Split

/-!
# Role mappings

A role mapping gives role names of the service to role ids of the source.  Its entries are
kept by ascending id, so two mappings are equal when they give the same names.

* `RoleMap.insert` and `RoleMap.find?`: the last name given for an id is the one found.
* `RoleMap.ofText` reads pairs such as `1:admin, 2:editor`.
-/

namespace AccountMigration

open Text

/-- Role names by role id. -/
structure RoleMap where
  entries : List (Int32 × String)
  ascending : entries.Pairwise fun a b => a.1.toInt < b.1.toInt
  deriving DecidableEq

namespace RoleMap

/-- The mapping that names no role. -/
def empty : RoleMap :=
  ⟨[], .nil⟩

/-- Put a name into entries with ascending ids, replacing the one that the id has. -/
def insertEntry
    (id : Int32)
    (name : String) :
    List (Int32 × String) → List (Int32 × String)
  | [] => [(id, name)]
  | entry :: rest =>
      if id.toInt < entry.1.toInt then (id, name) :: entry :: rest
      else if id = entry.1 then (id, name) :: rest
      else entry :: insertEntry id name rest

/-- The ids after an insertion are the ids before it and the new one. -/
theorem mem_insertEntry
    {id : Int32}
    {name : String}
    {entries : List (Int32 × String)}
    {entry : Int32 × String}
    (h : entry ∈ insertEntry id name entries) :
    entry = (id, name) ∨ entry ∈ entries := by
  induction entries with
  | nil =>
      simpa [insertEntry] using h
  | cons first rest ih =>
      unfold insertEntry at h
      grind

theorem insertEntry_ascending
    (id : Int32)
    (name : String)
    {entries : List (Int32 × String)}
    (h : entries.Pairwise fun a b => a.1.toInt < b.1.toInt) :
    (insertEntry id name entries).Pairwise fun a b => a.1.toInt < b.1.toInt := by
  induction entries with
  | nil =>
      simp [insertEntry]
  | cons first rest ih =>
      obtain ⟨hfirst, hrest⟩ := List.pairwise_cons.mp h
      unfold insertEntry
      split
      · rename_i hlt
        refine List.pairwise_cons.mpr ⟨?_, h⟩
        intro entry hentry
        rcases List.mem_cons.mp hentry with rfl | hmem
        · exact hlt
        · exact Int.lt_trans hlt (hfirst entry hmem)
      · rename_i hle
        split
        · rename_i heq
          subst heq
          exact List.pairwise_cons.mpr ⟨hfirst, hrest⟩
        · rename_i hne
          refine List.pairwise_cons.mpr ⟨?_, ih hrest⟩
          intro entry hentry
          rcases mem_insertEntry hentry with rfl | hmem
          · have : id.toInt ≠ first.1.toInt := fun hid => hne (Int32.toInt_inj.mp hid)
            show first.1.toInt < id.toInt
            omega
          · exact hfirst entry hmem

/-- Give a name to an id from now on. -/
def insert
    (id : Int32)
    (name : String)
    (roles : RoleMap) : RoleMap :=
  ⟨insertEntry id name roles.entries, insertEntry_ascending id name roles.ascending⟩

/-- The name of an id. -/
def find?
    (roles : RoleMap)
    (id : Int32) : Option String :=
  roles.entries.lookup id

/-- The mapping of a list of pairs, where later pairs win. -/
def ofPairs
    (pairs : List (Int32 × String)) : RoleMap :=
  pairs.foldl (fun roles pair => roles.insert pair.1 pair.2) empty

/-- Read an id and a name with a colon between them. -/
def readPair
    (entry : List Char) : Except ConfigError (Int32 × String) :=
  match splitOnce? ':' entry with
  | none => .error (.malformedRole (String.ofList entry))
  | some (idText, nameText) =>
      let idText := trimChars idText
      match (Numeral.int? idText).bind Numeral.toInt32? with
      | none => .error (.invalidRoleId (String.ofList idText))
      | some id =>
          let name := trimChars nameText
          if name = [] then .error (.emptyRoleName id)
          else .ok (id, String.ofList name)

/-- Read the pairs one after the other into a mapping; the first that fails decides. -/
def readPairs :
    RoleMap → List (List Char) → Except ConfigError RoleMap
  | roles, [] => .ok roles
  | roles, entry :: rest =>
      match readPair entry with
      | .error cause => .error cause
      | .ok (id, name) => readPairs (roles.insert id name) rest

/-- The entries of a written mapping: the parts between commas that are not blank. -/
def entryTexts
    (cs : List Char) : List (List Char) :=
  ((split ',' cs).map trimChars).filter fun entry => !entry.isEmpty

/-- Read a mapping from pairs with commas between them. -/
def ofText
    (s : String) : Except ConfigError RoleMap :=
  readPairs empty (entryTexts s.toList)

end RoleMap

end AccountMigration
