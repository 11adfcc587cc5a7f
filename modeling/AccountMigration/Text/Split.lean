/-!
# Splitting text at a separator

* `split` cuts a text at every separator; the parts may be empty.
* `splitOnce?` cuts a text at the first separator.
-/

namespace AccountMigration
namespace Text

/-- The parts of a text between separators, one part more than there are separators. -/
def split
    (separator : Char) :
    List Char → List (List Char)
  | [] => [[]]
  | c :: rest =>
      if c = separator then
        [] :: split separator rest
      else
        match split separator rest with
        | [] => [[c]]
        | part :: parts => (c :: part) :: parts

/-- The texts in front of and behind the first separator. -/
def splitOnce?
    (separator : Char) :
    List Char → Option (List Char × List Char)
  | [] => none
  | c :: rest =>
      if c = separator then
        some ([], rest)
      else
        (splitOnce? separator rest).map fun (front, behind) => (c :: front, behind)

theorem split_ne_nil
    (separator : Char)
    (cs : List Char) :
    split separator cs ≠ [] := by
  cases cs with
  | nil =>
      simp [split]
  | cons c rest =>
      simp only [split]
      split
      · simp
      · split <;> simp

/-- Splitting a text that is put together at a separator splits its two halves. -/
theorem split_append_cons
    (separator : Char)
    (front behind : List Char) :
    split separator (front ++ separator :: behind) =
      split separator front ++ split separator behind := by
  induction front with
  | nil =>
      simp [split]
  | cons c front ih =>
      by_cases hc : c = separator
      · simp [split, hc, ih]
      · simp only [List.cons_append, split, hc, if_false, ih]
        cases hs : split separator front with
        | nil =>
            exact absurd hs (split_ne_nil separator front)
        | cons part parts =>
            rfl

end Text
end AccountMigration
