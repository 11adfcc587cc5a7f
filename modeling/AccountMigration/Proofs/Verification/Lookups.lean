import AccountMigration.Proofs.Places
import AccountMigration.Verification.Verifier

/-!
# What the lookups of a sample find

The lookups of a sample run side by side, but what they find is what they would find one after
the other.  A lookup that fails or breaks down finds nobody.

* `Target.findings`: what is found for each user, one after the other.
* `Lookup.joinAll_eq`: joining lookups writes what they found into their places.
* `lookupAll_eq`: the lookups of a sample in any order of completion.
-/

namespace AccountMigration

/-- The user that the reply to a lookup shows. -/
def Reply.found : Reply (Option TargetUser) → Option TargetUser
  | .answered found => found
  | .failed _ => none
  | .crashed => none

/-- What is found for each user when they are looked up one after the other. -/
def Target.findings
    (target : Target) :
    List Call → List SampledUser → List (Option TargetUser)
  | _, [] => []
  | calls, user :: rest =>
      Reply.found (target.reply calls (.findUser user.id))
        :: findings target (calls ++ [.findUser user.id]) rest

/-- The place that a lookup fills and the value that it reports for it. -/
def Lookup.write? : Lookup → Option (Nat × Option TargetUser)
  | .done index found => some (index, found)
  | .crashed => none

/-- The values that lookups report. -/
def Lookup.writes
    (lookups : List Lookup) : List (Nat × Option TargetUser) :=
  lookups.filterMap Lookup.write?

section Findings

variable (target : Target)

@[simp] theorem Target.length_findings
    (calls : List Call)
    (users : List SampledUser) :
    (target.findings calls users).length = users.length := by
  induction users generalizing calls with
  | nil =>
      rfl
  | cons user rest ih =>
      rw [findings, List.length_cons, ih, List.length_cons]

/-- What is found for a user is the reply to its lookup, which follows those of the users in
front of it. -/
theorem Target.getElem?_findings
    (calls : List Call)
    (users : List SampledUser)
    (k : Nat) :
    (target.findings calls users)[k]? = users[k]?.map fun user =>
      Reply.found (target.reply (calls ++ (users.take k).map fun u => .findUser u.id)
        (.findUser user.id)) := by
  induction users generalizing calls k with
  | nil =>
      rfl
  | cons user rest ih =>
      cases k with
      | zero =>
          simp [findings]
      | succ k =>
          rw [findings, List.getElem?_cons_succ, ih, List.getElem?_cons_succ,
            List.take_succ_cons, List.map_cons, List.append_assoc, List.singleton_append]

/-- Each user beside what is found for it. -/
theorem Target.zip_findings
    (calls : List Call)
    (users : List SampledUser) :
    users.zip (target.findings calls users) = users.zipIdx.map fun p =>
      (p.1, Reply.found (target.reply (calls ++ (users.take p.2).map fun u => .findUser u.id)
        (.findUser p.1.id))) := by
  refine List.ext_getElem? fun k => ?_
  rw [List.getElem?_map, List.getElem?_zipIdx, List.zip, List.getElem?_zipWith,
    Target.getElem?_findings]
  cases users[k]? with
  | none =>
      rfl
  | some user =>
      simp

end Findings

namespace Lookup

variable (target : Target)

/-- Joining lookups writes what they found into their places. -/
theorem joinAll_eq
    {places : List (Option TargetUser)}
    {lookups : List Lookup}
    (hplaces : ∀ write ∈ writes lookups, write.1 < places.length) :
    joinAll places lookups = .ok (writeAll places (writes lookups)) := by
  induction lookups generalizing places with
  | nil =>
      rfl
  | cons lookup rest ih =>
      cases lookup with
      | done index found =>
          have hindex : index < places.length := hplaces (index, found) List.mem_cons_self
          simp only [joinAll, join, if_pos hindex]
          refine ih fun write hwrite => ?_
          rw [List.length_set]
          exact hplaces write (List.mem_cons_of_mem _ hwrite)
      | crashed =>
          exact ih hplaces

/-- Each lookup reports for its own place at most. -/
theorem map_fst_writes_start
    (calls : List Call)
    (index : Nat)
    (users : List SampledUser) :
    ((writes (start target calls index users)).map Prod.fst).Sublist
      (List.range' index users.length) := by
  induction users generalizing calls index with
  | nil =>
      exact List.Sublist.slnil
  | cons user rest ih =>
      have hrest := ih (calls ++ [.findUser user.id]) (index + 1)
      rw [List.length_cons, List.range'_succ, start]
      cases target.reply calls (.findUser user.id) with
      | answered found => exact hrest.cons_cons index
      | failed error => exact hrest.cons_cons index
      | crashed => exact hrest.cons index

/-- Lookups that finish in order fill the places behind those that are filled already. -/
theorem writeAll_start
    (calls : List Call)
    (filled : List (Option TargetUser))
    (users : List SampledUser) :
    writeAll (filled ++ List.replicate users.length none)
        (writes (start target calls filled.length users)) =
      filled ++ target.findings calls users := by
  induction users generalizing calls filled with
  | nil =>
      rfl
  | cons user rest ih =>
      have hrest := ih (calls ++ [.findUser user.id])
        (filled ++ [Reply.found (target.reply calls (.findUser user.id))])
      rw [List.length_append, List.length_singleton, List.append_assoc, List.append_assoc,
        List.singleton_append, List.singleton_append] at hrest
      rw [Target.findings, ← hrest, start, List.length_cons, List.replicate_succ]
      -- a lookup that broke down writes nothing, and its place shows nobody from the start
      cases target.reply calls (.findUser user.id) with
      | answered found => exact congrArg (writeAll · _) (set_length_append filled _ none found)
      | failed error => exact congrArg (writeAll · _) (set_length_append filled _ none none)
      | crashed => rfl

end Lookup

/-- The lookups of a sample find, in any order of completion, what they would find one after
the other. -/
theorem lookupAll_eq
    (target : Target)
    (schedule : Schedule)
    (calls : List Call)
    (users : List SampledUser) :
    lookupAll target schedule calls users = .ok (target.findings calls users) := by
  have hsublist := Lookup.map_fst_writes_start target calls 0 users
  have hperm : (Lookup.writes (schedule.arrange (Lookup.start target calls 0 users))).Perm
      (Lookup.writes (Lookup.start target calls 0 users)) :=
    (schedule.arrange_perm _).filterMap _
  have hplaces : ∀ write ∈ Lookup.writes (schedule.arrange (Lookup.start target calls 0 users)),
      write.1 < (List.replicate users.length (none : Option TargetUser)).length := by
    intro write hwrite
    have hrange := hsublist.subset (List.mem_map_of_mem (f := Prod.fst) (hperm.mem_iff.mp hwrite))
    rw [List.mem_range'_1] at hrange
    simpa using hrange.2
  rw [lookupAll, Lookup.joinAll_eq hplaces,
    writeAll_perm hperm (hsublist.nodup List.nodup_range')]
  exact congrArg Except.ok (Lookup.writeAll_start target calls [] users)

end AccountMigration
