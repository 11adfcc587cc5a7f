import AccountMigration.Proofs.Json.RoundTrip
import Mathlib.Data.List.Basic

/-!
# The machine takes the tokens of a value only

A state of the machine that reads tokens determines the tokens that have led to it.  So a sequence
of tokens is read as a value when it is the sequence of this value, and in no other case.

* `Json.listed` and `Json.opened`: parts with commas between them, and with a comma behind each.
* `Json.State.ReachedBy`: the tokens that lead to a state.
* `Json.State.ReachedBy.step` is the step, `Json.State.ReachedBy.run` the run.
* `Json.read?_eq_some_iff`: the tokens that are read as a value.
-/

namespace AccountMigration
namespace Json

/-! ## Parts of arrays and objects -/

/-- Parts with a comma between each two of them. -/
def listed
    (parts : List (List Token)) : List Token :=
  [.comma].intercalate parts

/-- Parts with a comma behind each of them. -/
def opened
    (parts : List (List Token)) : List Token :=
  parts.flatMap (· ++ [.comma])

/-- The tokens of a member of an object. -/
def memberTokens
    (m : Option String × Json) : List Token :=
  .text m.1 :: .colon :: tokens m.2

section Parts

variable (parts : List (List Token)) (part : List Token)

@[simp] theorem opened_nil :
    opened [] = [] := by
  rfl

/-- A last part stands behind the commas of all others. -/
theorem listed_concat :
    listed (parts ++ [part]) = opened parts ++ part := by
  induction parts with
  | nil =>
      exact List.intercalate_singleton
  | cons first rest ih =>
      cases rest with
      | nil =>
          simp [listed, opened, List.intercalate_cons_cons]
      | cons second rest =>
          rw [List.cons_append, List.cons_append, listed, List.intercalate_cons_cons,
            ← List.cons_append, ← listed, ih]
          simp [opened]

theorem opened_concat :
    opened (parts ++ [part]) = listed (parts ++ [part]) ++ [.comma] := by
  rw [listed_concat]
  simp [opened]

/-- Parts with commas between them are followed by their end where a comma stands in front of every
part but the first. -/
theorem listed_append_end
    {α : Type}
    (write : α → List Token)
    (more : List α → List Token)
    {last : Token}
    (hnil : more [] = [last])
    (hcons : ∀ a rest, more (a :: rest) = .comma :: write a ++ more rest)
    (a : α)
    (rest : List α) :
    listed ((a :: rest).map write) ++ [last] = write a ++ more rest := by
  induction rest generalizing a with
  | nil =>
      rw [List.map_singleton, listed, List.intercalate_singleton, hnil]
  | cons b rest ih =>
      rw [List.map_cons, List.map_cons, listed, List.intercalate_cons_cons, ← List.map_cons,
        ← listed, List.append_assoc, ih b, hcons]
      simp

/-- The tokens of an array are those of its items between brackets. -/
theorem tokens_arr
    (items : List Json) :
    tokens (.arr items) = .beginArray :: listed (items.map tokens) ++ [.endArray] := by
  cases items with
  | nil =>
      rfl
  | cons v rest =>
      have hitems : listed ((v :: rest).map tokens) ++ [.endArray] = tokens v ++ moreItems rest :=
        listed_append_end tokens moreItems rfl (fun _ _ => rfl) v rest
      rw [List.cons_append, hitems, tokens]
      rfl

/-- The tokens of an object are those of its members between braces. -/
theorem tokens_obj
    (members : List (Option String × Json)) :
    tokens (.obj members) =
      .beginObject :: listed (members.map memberTokens) ++ [.endObject] := by
  cases members with
  | nil =>
      rfl
  | cons m rest =>
      have hmembers : listed ((m :: rest).map memberTokens) ++ [.endObject] =
          memberTokens m ++ moreMembers rest :=
        listed_append_end memberTokens moreMembers rfl (fun _ _ => rfl) m rest
      rw [List.cons_append, hmembers, tokens]
      rfl

end Parts

/-! ## The tokens that lead to a state -/

/-- A token that can stand in a text: a scalar is no string, array or object. -/
def Token.IsProper : Token → Prop
  | .scalar v => tokens v = [.scalar v]
  | _ => True

/-- The tokens in front of a value in open arrays and objects. -/
def frontTokens : List Frame → List Token
  | [] => []
  | .items done :: outer =>
      frontTokens outer ++ .beginArray :: opened (done.reverse.map tokens)
  | .members done key :: outer =>
      frontTokens outer ++ .beginObject :: opened (done.reverse.map memberTokens)
        ++ [.text key, .colon]

/-- The tokens lead to the state. -/
def State.ReachedBy : State → List Token → Prop
  | .value frames, ts => ts = frontTokens frames
  | .firstItem frames, ts => ts = frontTokens frames ++ [.beginArray]
  | .moreItems done frames, ts =>
      done ≠ [] ∧ ts = frontTokens frames ++ .beginArray :: listed (done.reverse.map tokens)
  | .firstMember frames, ts => ts = frontTokens frames ++ [.beginObject]
  | .name done frames, ts =>
      ts = frontTokens frames ++ .beginObject :: opened (done.reverse.map memberTokens)
  | .colon done key frames, ts =>
      ts = frontTokens frames ++ .beginObject :: opened (done.reverse.map memberTokens)
        ++ [.text key]
  | .moreMembers done frames, ts =>
      done ≠ [] ∧
        ts = frontTokens frames ++ .beginObject :: listed (done.reverse.map memberTokens)
  | .complete v, ts => ts = tokens v

namespace State

section Reached

variable {state next : State} {ts : List Token} {t : Token}

/-- A finished value leads on from the arrays and objects that are open around it. -/
theorem reachedBy_put
    (v : Json)
    (frames : List Frame) :
    (put v frames).ReachedBy (frontTokens frames ++ tokens v) := by
  cases frames with
  | nil =>
      exact List.nil_append (tokens v)
  | cons frame outer =>
      cases frame with
      | items done =>
          refine ⟨List.cons_ne_nil v done, ?_⟩
          rw [List.reverse_cons, List.map_append, List.map_singleton, listed_concat]
          simp [frontTokens]
      | members done key =>
          refine ⟨List.cons_ne_nil (key, v) done, ?_⟩
          rw [List.reverse_cons, List.map_append, List.map_singleton, listed_concat]
          simp [frontTokens, memberTokens]

/-- A token where a value begins. -/
theorem reachedBy_begin?
    {frames : List Frame}
    (ht : t.IsProper)
    (hbegin : begin? frames t = some next) :
    next.ReachedBy (frontTokens frames ++ [t]) := by
  cases t with
  | scalar v =>
      obtain rfl := Option.some.inj hbegin
      have hput := reachedBy_put v frames
      rwa [show tokens v = [.scalar v] from ht] at hput
  | text s =>
      obtain rfl := Option.some.inj hbegin
      exact reachedBy_put (.str s) frames
  | beginArray =>
      obtain rfl := Option.some.inj hbegin
      rfl
  | beginObject =>
      obtain rfl := Option.some.inj hbegin
      rfl
  | endArray => cases hbegin
  | endObject => cases hbegin
  | comma => cases hbegin
  | colon => cases hbegin

/-- The list of finished parts ends in the last one, so that a comma opens the next. -/
theorem listed_reverse_append_comma
    {α : Type}
    (write : α → List Token)
    {done : List α}
    (hdone : done ≠ []) :
    listed (done.reverse.map write) ++ [.comma] = opened (done.reverse.map write) := by
  obtain ⟨last, before, rfl⟩ := List.exists_cons_of_ne_nil hdone
  rw [List.reverse_cons, List.map_append, List.map_singleton, opened_concat]

/-- A token leads from the state that others have led to. -/
theorem ReachedBy.step
    (hstate : state.ReachedBy ts)
    (ht : t.IsProper)
    (hstep : step state t = some next) :
    next.ReachedBy (ts ++ [t]) := by
  cases state with
  | value frames =>
      rw [show ts = frontTokens frames from hstate]
      exact reachedBy_begin? ht hstep
  | firstItem frames =>
      rw [show ts = frontTokens frames ++ [.beginArray] from hstate]
      by_cases hend : t = .endArray
      · subst hend
        obtain rfl := Option.some.inj hstep
        simpa [tokens_arr, listed] using reachedBy_put (.arr []) frames
      · have hbegin : begin? (.items [] :: frames) t = some next := by
          rwa [State.step] at hstep
          exact hend
        simpa [frontTokens] using reachedBy_begin? ht hbegin
  | moreItems done frames =>
      obtain ⟨hdone, rfl⟩ := hstate
      cases t with
      | comma =>
          obtain rfl := Option.some.inj hstep
          have hopened := listed_reverse_append_comma tokens hdone
          simpa [ReachedBy, frontTokens] using hopened
      | endArray =>
          obtain rfl := Option.some.inj hstep
          simpa [tokens_arr] using reachedBy_put (.arr done.reverse) frames
      | _ => cases hstep
  | firstMember frames =>
      rw [show ts = frontTokens frames ++ [.beginObject] from hstate]
      cases t with
      | endObject =>
          obtain rfl := Option.some.inj hstep
          simpa [tokens_obj, listed] using reachedBy_put (.obj []) frames
      | text key =>
          obtain rfl := Option.some.inj hstep
          rfl
      | _ => cases hstep
  | name done frames =>
      rw [show ts = _ from hstate]
      cases t with
      | text key =>
          obtain rfl := Option.some.inj hstep
          rfl
      | _ => cases hstep
  | colon done key frames =>
      rw [show ts = _ from hstate]
      cases t with
      | colon =>
          obtain rfl := Option.some.inj hstep
          simp [ReachedBy, frontTokens]
      | _ => cases hstep
  | moreMembers done frames =>
      obtain ⟨hdone, rfl⟩ := hstate
      cases t with
      | comma =>
          obtain rfl := Option.some.inj hstep
          have hopened := listed_reverse_append_comma memberTokens hdone
          simpa [ReachedBy] using hopened
      | endObject =>
          obtain rfl := Option.some.inj hstep
          simpa [tokens_obj] using reachedBy_put (.obj done.reverse) frames
      | _ => cases hstep
  | complete v => cases hstep

/-- Tokens lead from the state that others have led to. -/
theorem ReachedBy.run
    {us : List Token}
    (hstate : state.ReachedBy ts)
    (hus : ∀ t ∈ us, t.IsProper)
    (hrun : run? state us = some next) :
    next.ReachedBy (ts ++ us) := by
  induction us generalizing state ts with
  | nil =>
      obtain rfl := Option.some.inj hrun
      rwa [List.append_nil]
  | cons t us ih =>
      rw [List.forall_mem_cons] at hus
      rw [run?] at hrun
      cases hstep : State.step state t with
      | none =>
          simp [hstep] at hrun
      | some after =>
          simp only [hstep] at hrun
          rw [List.append_cons]
          exact ih (hstate.step hus.1 hstep) hus.2 hrun

end Reached

end State

/-- Tokens are read as a value exactly when they are those of the value. -/
theorem read?_eq_some_iff
    {ts : List Token}
    {v : Json}
    (hts : ∀ t ∈ ts, t.IsProper) :
    read? ts = some v ↔ ts = tokens v := by
  constructor
  · intro hread
    unfold read? at hread
    split at hread
    · rename_i w hrun
      obtain rfl := Option.some.inj hread
      have hstart : (State.value []).ReachedBy [] := rfl
      exact hstart.run hts hrun
    · cases hread
  · rintro rfl
    exact read?_tokens v

end Json
end AccountMigration
