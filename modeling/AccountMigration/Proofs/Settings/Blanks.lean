import AccountMigration.Proofs.Settings.Variables
import AccountMigration.Proofs.Text.AsciiCase

/-!
# Variables that hold blanks only

A variable that can be refused may as well be unset as hold blanks.  That is not so of the dry run,
which blanks end, and not of the algorithm, which is then a blank text in place of the default.

* `Environment.UnsetsBlanks`: variables with nothing but blanks are taken away.
* `Environment.ReadsAlike` and `Environment.UnsetsBlanks.readsAlike`: what cannot tell blanks from
  nothing.
* `Environment.blanks_and_unset`: the settings with and without the variables.
* `Environment.blank_ends_dry_run`: a migration goes live for want of a text.
-/

namespace AccountMigration

open Text

/-- A text of blanks gives no role a name. -/
theorem RoleMap.ofText_of_blank
    {s : String}
    (hblank : isBlankText s = true) :
    ofText s = .ok .empty := by
  have hcomma : ',' ∉ s.toList := by
    intro hmem
    exact absurd (List.all_eq_true.mp hblank ',' hmem) (by decide)
  have htrimmed : trimChars s.toList = [] := (trimChars_nil_iff s.toList).mpr hblank
  rw [ofText, entryTexts, split_of_not_mem hcomma, List.map_singleton, htrimmed]
  rfl

namespace Environment

variable {env other : Environment} {s t : Settings} {name : String}

/-- The variable holds a text without any character but blanks. -/
def HoldsBlanks
    (env : Environment)
    (name : String) : Prop :=
  ∃ text ∈ env.text? name, isBlankText text = true

/-- Variables of the migration that hold blanks only are taken away, any number of them. -/
def UnsetsBlanks
    (env other : Environment) : Prop :=
  ∀ name, other.value? name = env.value? name ∨
    "MIGRATION_".toList <+: name.toList ∧ env.HoldsBlanks name ∧ other.value? name = none

/-- The settings with the dry run and the algorithm that an environment tells. -/
def reread
    (env : Environment)
    (s : Settings) : Settings :=
  { s with
    dryRun := env.flagOr Variable.dryRun.name true
    entries :=
      { s.entries with algorithm := env.textOr Variable.passwordAlgorithm.name "bcrypt" } }

/-! ## Numbers, words and role mappings -/

/-- A number, a word or a role mapping is the same in two environments. -/
structure ReadsAlike
    (env other : Environment)
    (name : String) : Prop where
  natOr_eq : ∀ default : Nat, other.natOr name default = env.natOr name default
  roles_eq : other.roles name = env.roles name
  choiceOr_eq : ∀ {α : Type} [Choice α] (default : α),
    other.choiceOr name default = env.choiceOr name default

namespace ReadsAlike

theorem of_text?_eq
    (htext : other.text? name = env.text? name) :
    ReadsAlike env other name where
  natOr_eq default := by
    rw [natOr, natOr, htext]
  roles_eq := by
    rw [roles, roles, htext]
  choiceOr_eq default := by
    rw [choiceOr, choiceOr, htext]

theorem of_blank
    (hblank : env.HoldsBlanks name)
    (hunset : other.text? name = none) :
    ReadsAlike env other name := by
  obtain ⟨text, htext, hblank⟩ := hblank
  refine ⟨fun default => ?_, ?_, fun default => ?_⟩
  · rw [natOr, natOr, hunset, htext, Option.bind_some, Numeral.natUpTo?_of_blank _ hblank]
    rfl
  · rw [roles, roles, hunset, htext]
    exact (RoleMap.ofText_of_blank hblank).symm
  · rw [choiceOr, choiceOr, hunset, htext]
    exact (if_pos hblank).symm

variable {v : Variable} (halike : ReadsAlike env other v.name)
include halike

theorem check_eq :
    v.check other = v.check env := by
  cases v with
  | dedupKey | dedupStrategy | onConflict | passwordStrategy | idStrategy =>
      exact congrArg verdict (halike.choiceOr_eq _)
  | roleMap =>
      exact congrArg verdict halike.roles_eq
  | batchSize | workers =>
      rw [Variable.check, Variable.check, halike.natOr_eq]
  | dryRun | passwordAlgorithm | baseUrl | apiKey | applicationId | timeout =>
      rfl

/-- Only numbers, words and role mappings can be refused. -/
theorem readsAs_iff
    (hv : v ∈ Variable.checked) :
    v.ReadsAs other s ↔ v.ReadsAs env s := by
  cases v with
  | dedupKey | dedupStrategy | onConflict | passwordStrategy | idStrategy =>
      rw [Variable.ReadsAs, Variable.ReadsAs, halike.choiceOr_eq]
  | roleMap =>
      rw [Variable.ReadsAs, Variable.ReadsAs, halike.roles_eq]
  | batchSize | workers =>
      rw [Variable.ReadsAs, Variable.ReadsAs, halike.natOr_eq]
  | dryRun | passwordAlgorithm | baseUrl | apiKey | applicationId | timeout =>
      simp [Variable.checked] at hv

end ReadsAlike

/-! ## Taking blank variables away -/

namespace UnsetsBlanks

variable (hblanks : UnsetsBlanks env other)
include hblanks

/-- A variable has the text that it had, or it held blanks and is unset. -/
theorem text?_eq_or
    (name : String) :
    other.text? name = env.text? name ∨
      "MIGRATION_".toList <+: name.toList ∧ env.HoldsBlanks name ∧ other.text? name = none := by
  rcases hblanks name with hsame | ⟨hname, hblank, hunset⟩
  · exact .inl (by rw [text?, text?, hsame])
  · exact .inr ⟨hname, hblank, by rw [text?, hunset, Option.bind_none]⟩

theorem readsAlike
    (name : String) :
    ReadsAlike env other name := by
  rcases hblanks.text?_eq_or name with hsame | ⟨-, hblank, hunset⟩
  · exact .of_text?_eq hsame
  · exact .of_blank hblank hunset

/-- All variables but two are read as they were. -/
theorem readsAs_iff
    {v : Variable}
    (hdryRun : v ≠ .dryRun)
    (halgorithm : v ≠ .passwordAlgorithm) :
    v.ReadsAs other s ↔ v.ReadsAs env s := by
  cases v with
  | dryRun => exact absurd rfl hdryRun
  | passwordAlgorithm => exact absurd rfl halgorithm
  | dedupKey | dedupStrategy | roleMap | idStrategy | passwordStrategy | onConflict | batchSize
  | workers =>
      exact (hblanks.readsAlike _).readsAs_iff (by simp [Variable.checked])
  | baseUrl | apiKey | applicationId | timeout =>
      -- These are variables of the service, which are left alone.
      refine Variable.readsAs_congr _ ((hblanks.text?_eq_or _).resolve_right ?_)
      rintro ⟨hname, -, -⟩
      exact absurd hname (by decide)

/-- The two other variables tell blanks from nothing. -/
theorem settings_eq :
    other.settings = env.settings.map other.reread := by
  have hverdict : verdict other.settings = verdict env.settings := by
    rw [verdict_settings, verdict_settings]
    exact congrArg Variable.checked.forM (funext fun v => (hblanks.readsAlike v.name).check_eq)
  cases hs : env.settings with
  | error cause =>
      rw [hs] at hverdict
      exact verdict_eq_error_iff.mp hverdict
  | ok s =>
      rw [hs] at hverdict
      obtain ⟨t, ht⟩ := verdict_eq_ok_iff.mp hverdict
      have hreads := (settings_eq_ok_iff.mp hs).1
      have hothers := (settings_eq_ok_iff.mp ht).1
      rw [ht]
      refine congrArg Except.ok (Variable.eq_of_sameIn fun v => ?_)
      have hsame : v ≠ .dryRun → v ≠ .passwordAlgorithm → v.SameIn t s := fun hdryRun halgorithm =>
        ((hblanks.readsAs_iff hdryRun halgorithm).mp (hothers v)).sameIn (hreads v)
      cases v with
      | dryRun => exact (hothers .dryRun).symm
      | passwordAlgorithm => exact (hothers .passwordAlgorithm).symm
      | dedupKey | dedupStrategy | roleMap | idStrategy | passwordStrategy | onConflict | batchSize
      | workers | baseUrl | apiKey | applicationId | timeout => exact hsame nofun nofun

end UnsetsBlanks

/-! ## The dry run and the algorithm -/

/-- Blanks are none of the words that mean yes. -/
theorem flagOr_of_blank
    {default : Bool}
    (hblank : env.HoldsBlanks name) :
    env.flagOr name default = false := by
  obtain ⟨text, htext, hblank⟩ := hblank
  rw [flagOr, htext]
  refine eq_false_of_ne_true fun hyes => ?_
  have hword : lowerAscii text ∈ ["1", "true", "yes"] := by
    simpa [isYes] using hyes
  have hlower : isBlankText (lowerAscii text) = true := by
    rw [isBlankText, lowerAscii, String.toList_ofList, List.all_map,
      show isBlank ∘ lowerAsciiChar = isBlank from funext isBlank_lowerAsciiChar]
    exact hblank
  have hnone : ∀ word ∈ ["1", "true", "yes"], isBlankText word = false := by
    decide
  rw [hnone _ hword] at hlower
  cases hlower

namespace UnsetsBlanks

variable (hblanks : UnsetsBlanks env other)
include hblanks

/-- A dry run that blanks end is back without them. -/
theorem flagOr_eq_iff :
    other.flagOr name true = env.flagOr name true ↔ other.text? name = env.text? name := by
  constructor
  · intro hsame
    refine (hblanks.text?_eq_or name).resolve_right ?_
    rintro ⟨-, hblank, hunset⟩
    rw [flagOr_of_blank hblank, flagOr, hunset] at hsame
    cases hsame
  · intro htext
    rw [flagOr, flagOr, htext]

theorem textOr_eq_iff
    {default : String}
    (hdefault : isBlankText default = false) :
    other.textOr name default = env.textOr name default ↔ other.text? name = env.text? name := by
  constructor
  · intro hsame
    refine (hblanks.text?_eq_or name).resolve_right ?_
    rintro ⟨-, ⟨text, htext, hblank⟩, hunset⟩
    rw [textOr, textOr, hunset, htext, Option.getD_none, Option.getD_some] at hsame
    rw [hsame, hblank] at hdefault
    cases hdefault
  · intro htext
    rw [textOr, textOr, htext]

theorem settings_eq_iff :
    other.settings = env.settings ↔
      (∃ cause, env.settings = .error cause) ∨
      ∀ v : Variable, v = .dryRun ∨ v = .passwordAlgorithm →
        other.text? v.name = env.text? v.name := by
  have hflag := @flagOr_eq_iff _ _ Variable.dryRun.name hblanks
  have halgorithm := @textOr_eq_iff _ _ Variable.passwordAlgorithm.name hblanks "bcrypt" (by decide)
  rw [hblanks.settings_eq]
  cases hs : env.settings with
  | error cause =>
      exact iff_of_true rfl (.inl ⟨cause, rfl⟩)
  | ok s =>
      have hreads := (settings_eq_ok_iff.mp hs).1
      rw [hreads .dryRun] at hflag
      rw [hreads .passwordAlgorithm] at halgorithm
      constructor
      · intro hsame
        have hkept := Except.ok.inj hsame
        right
        rintro v (rfl | rfl)
        · exact hflag.mp (congrArg Settings.dryRun hkept)
        · exact halgorithm.mp (congrArg (fun s => s.entries.algorithm) hkept)
      · rintro (⟨_, ⟨⟩⟩ | htexts)
        rw [Except.map, reread, hflag.mpr (htexts .dryRun (.inl rfl)),
          halgorithm.mpr (htexts .passwordAlgorithm (.inr rfl))]

end UnsetsBlanks

/-- Without the variables that hold blanks only, the settings are those that they were, or refused
as they were, but for the dry run and the algorithm.  These two have their defaults where they were
blank before, so that settings which were accepted stay the same just when neither was.  A blank
dry run is a live migration. -/
theorem blanks_and_unset
    (hblanks : UnsetsBlanks env other) :
    other.settings = env.settings.map other.reread ∧
    (other.settings = env.settings ↔
      (∃ cause, env.settings = .error cause) ∨
      ∀ v : Variable, v = .dryRun ∨ v = .passwordAlgorithm →
        other.text? v.name = env.text? v.name) ∧
    (env.HoldsBlanks Variable.dryRun.name → ∀ s, env.settings = .ok s → s.dryRun = false) := by
  refine ⟨hblanks.settings_eq, hblanks.settings_eq_iff, ?_⟩
  intro hblank s hs
  rw [← (settings_eq_ok_iff.mp hs).1 .dryRun]
  exact flagOr_of_blank hblank

/-- A list of variables of which none is worth keeping. -/
theorem unsetsBlanks_ofList
    {values : List (String × List UInt8)}
    (hvalues : ∀ entry ∈ values, "MIGRATION_".toList <+: entry.1.toList ∧
      ∃ text ∈ Utf8.text? entry.2, isBlankText text = true) :
    UnsetsBlanks (ofList values) (ofList []) := by
  intro name
  cases hname : values.lookup name with
  | none =>
      exact .inl hname.symm
  | some bytes =>
      obtain ⟨before, after, rfl, -⟩ := List.lookup_eq_some_iff.mp hname
      obtain ⟨hmigration, text, htext, hblank⟩ := hvalues (name, bytes) List.mem_append_cons_self
      refine .inr ⟨hmigration, ⟨text, ?_, hblank⟩, rfl⟩
      show (List.lookup name _).bind Utf8.text? = some text
      rw [hname]
      exact htext

/-- Blanks for a size, for the algorithm and for the dry run. -/
def blankVariables : Environment :=
  ofList
    [("MIGRATION_BATCH_SIZE", Utf8.bytes " \t"),
      ("MIGRATION_PASSWORD_ALGORITHM", Utf8.bytes "\u3000"),
      ("MIGRATION_DRY_RUN", [])]

/-- The size has its default either way; the algorithm and the dry run have theirs only when they
are unset. -/
theorem blanks_and_unset_blankVariables :
    UnsetsBlanks blankVariables (ofList []) ∧
    blankVariables.settings =
      .ok { dryRun := false, entries := { algorithm := "\u3000" } } ∧
    (ofList []).settings = .ok {} ∧
    (ofList []).settings ≠ blankVariables.settings := by
  have hblanks : UnsetsBlanks blankVariables (ofList []) := unsetsBlanks_ofList (by decide)
  have hsettings : blankVariables.settings =
      .ok { dryRun := false, entries := { algorithm := "\u3000" } } := rfl
  obtain ⟨hunset, hsame, -⟩ := blanks_and_unset hblanks
  refine ⟨hblanks, hsettings, by rw [hunset, hsettings]; rfl, ?_⟩
  rw [ne_eq, hsame]
  rintro (⟨cause, hcause⟩ | htexts)
  · rw [hsettings] at hcause
    cases hcause
  · exact absurd (htexts .dryRun (.inl rfl)) (by decide)

/-- An empty text for the dry run makes a migration live that would be a dry run without it. -/
theorem blank_ends_dry_run :
    UnsetsBlanks (ofList [("MIGRATION_DRY_RUN", [])]) (ofList []) ∧
    (ofList [("MIGRATION_DRY_RUN", [])]).settings = .ok { dryRun := false } ∧
    (ofList []).settings = .ok { dryRun := true } :=
  ⟨unsetsBlanks_ofList (by decide), rfl, rfl⟩

end Environment

end AccountMigration
