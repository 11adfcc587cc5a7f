import AccountMigration.Proofs.Password
import Mathlib.Computability.Language

/-!
# The format of bcrypt hashes

A bcrypt hash has a mark with a version, two digits of cost, and 53 characters of salt and digest,
with nothing in front of them or behind.  The check for complete hashes asks for all of this, but it
takes digits of any script in the cost.  So it accepts every hash of the format, and of other texts
just those that would have the format with ASCII digits in their cost.

* `bcryptHashes`: the language of bcrypt hashes with a class of digits.
* `mem_bcryptHashes_iff`: the texts of that language, part by part.
* `isCompleteBcrypt_iff`: the check accepts the language with digits of any script.
* `complete_bcrypt_up_to_cost`: how the check and the format differ.
* `complete_bcrypt_with_foreign_cost`: a text that the check should not accept.
-/

namespace AccountMigration

open Text HashAlgorithm

/-! ## The language -/

/-- The texts of one character of a class. -/
def oneOf
    (p : Char → Bool) : Language Char :=
  {cs | ∃ c, p c = true ∧ cs = [c]}

/-- The one text of a word. -/
def word
    (text : String) : Language Char :=
  {text.toList}

/-- Bcrypt hashes: mark, version, cost in digits of a class, salt and digest. -/
def bcryptHashes
    (isDigit : Char → Bool) : Language Char :=
  word "$2" * oneOf isBcryptVersion * word "$" * oneOf isDigit ^ 2 * word "$" *
    oneOf isBcryptChar ^ 53

section Language

variable {p isDigit isOther : Char → Bool} {rest : Language Char} {cs : List Char}

theorem mem_oneOf_mul_iff :
    cs ∈ oneOf p * rest ↔ ∃ c tail, cs = c :: tail ∧ p c = true ∧ tail ∈ rest := by
  rw [Language.mem_mul]
  constructor
  · rintro ⟨-, ⟨c, hc, rfl⟩, tail, htail, rfl⟩
    exact ⟨c, tail, rfl, hc, htail⟩
  · rintro ⟨c, tail, rfl, hc, htail⟩
    exact ⟨[c], ⟨c, hc, rfl⟩, tail, htail, rfl⟩

theorem mem_word_mul_iff
    {text : String} :
    cs ∈ word text * rest ↔ ∃ tail, cs = text.toList ++ tail ∧ tail ∈ rest := by
  rw [Language.mem_mul]
  constructor
  · rintro ⟨-, rfl, tail, htail, rfl⟩
    exact ⟨tail, rfl, htail⟩
  · rintro ⟨tail, rfl, htail⟩
    exact ⟨text.toList, rfl, tail, htail, rfl⟩

/-- A repeated class gives the texts of that length in the class. -/
theorem mem_oneOf_pow_iff
    {n : Nat} :
    cs ∈ oneOf p ^ n ↔ cs.length = n ∧ ∀ c ∈ cs, p c = true := by
  induction n generalizing cs with
  | zero =>
      rw [pow_zero, Language.mem_one]
      constructor
      · rintro rfl
        exact ⟨rfl, nofun⟩
      · exact fun hcs => List.eq_nil_of_length_eq_zero hcs.1
  | succ n ih =>
      rw [pow_succ', mem_oneOf_mul_iff]
      constructor
      · rintro ⟨c, tail, rfl, hc, htail⟩
        obtain ⟨hlength, hall⟩ := ih.mp htail
        exact ⟨by rw [List.length_cons, hlength], List.forall_mem_cons.mpr ⟨hc, hall⟩⟩
      · rintro ⟨hlength, hall⟩
        obtain ⟨c, tail, rfl⟩ := List.exists_cons_of_length_eq_add_one hlength
        obtain ⟨hc, htail⟩ := List.forall_mem_cons.mp hall
        exact ⟨c, tail, rfl, hc, ih.mpr ⟨Nat.succ.inj hlength, htail⟩⟩

/-- The parts of a bcrypt hash. -/
theorem mem_bcryptHashes_iff :
    cs ∈ bcryptHashes isDigit ↔ ∃ version cost cost' rest,
      cs = '$' :: '2' :: version :: '$' :: cost :: cost' :: '$' :: rest ∧
      isBcryptVersion version = true ∧ isDigit cost = true ∧ isDigit cost' = true ∧
      rest.length = 53 ∧ ∀ c ∈ rest, isBcryptChar c = true := by
  simp only [bcryptHashes, pow_two (oneOf isDigit), mul_assoc, mem_word_mul_iff,
    mem_oneOf_mul_iff, mem_oneOf_pow_iff]
  constructor
  · rintro ⟨-, rfl, version, -, rfl, hversion, -, rfl, cost, -, rfl, hcost, cost', -, rfl, hcost',
      rest, rfl, hrest⟩
    exact ⟨version, cost, cost', rest, rfl, hversion, hcost, hcost', hrest⟩
  · rintro ⟨version, cost, cost', rest, rfl, hversion, hcost, hcost', hrest⟩
    exact ⟨_, rfl, version, _, rfl, hversion, _, rfl, cost, _, rfl, hcost, cost', _, rfl, hcost',
      rest, rfl, hrest⟩

/-- Between classes of digits, the cost is all that counts. -/
theorem mem_bcryptHashes_congr
    (hcs : cs ∈ bcryptHashes isDigit) :
    cs ∈ bcryptHashes isOther ↔ ∀ c ∈ (cs.drop 4).take 2, isOther c = true := by
  obtain ⟨version, cost, cost', rest, rfl, hversion, -, -, hrest⟩ := mem_bcryptHashes_iff.mp hcs
  have hdigits : (∀ c ∈ (('$' :: '2' :: version :: '$' :: cost :: cost' :: '$' :: rest).drop 4).take
      2, isOther c = true) ↔ isOther cost = true ∧ isOther cost' = true := by
    simp
  rw [hdigits, mem_bcryptHashes_iff]
  constructor
  · rintro ⟨_, _, _, _, heq, -, hcost, hcost', -⟩
    cases heq
    exact ⟨hcost, hcost'⟩
  · rintro ⟨hcost, hcost'⟩
    exact ⟨version, cost, cost', rest, rfl, hversion, hcost, hcost', hrest⟩

theorem length_of_mem_bcryptHashes
    (hcs : cs ∈ bcryptHashes isDigit) :
    cs.length = 60 := by
  obtain ⟨version, cost, cost', rest, rfl, -, -, -, hlength, -⟩ := mem_bcryptHashes_iff.mp hcs
  simp [hlength]

/-- Whatever the digits, the mark tells the algorithm. -/
theorem ofChars_of_mem_bcryptHashes
    (hcs : cs ∈ bcryptHashes isDigit) :
    ofChars cs = .bcrypt := by
  obtain ⟨version, cost, cost', rest, rfl, hversion, -⟩ := mem_bcryptHashes_iff.mp hcs
  rw [ofChars, if_pos]
  exact hversion

end Language

/-! ## Characters outside ASCII -/

theorem toNat_lt_of_isBcryptVersion
    {c : Char}
    (hc : isBcryptVersion c = true) :
    c.toNat < 128 := by
  simp only [isBcryptVersion, Bool.or_eq_true, decide_eq_true_eq] at hc
  rcases hc with (rfl | rfl) | rfl <;> decide

theorem toNat_lt_of_isBcryptChar
    {c : Char}
    (hc : isBcryptChar c = true) :
    c.toNat < 128 := by
  simp only [isBcryptChar, isAsciiDigit, Bool.or_eq_true, Bool.and_eq_true,
    decide_eq_true_eq] at hc
  rcases hc with (((rfl | rfl) | ⟨-, hdigit⟩) | ⟨-, hlower⟩) | ⟨-, hupper⟩
  · decide
  · decide
  · exact Nat.lt_of_le_of_lt (show c.toNat ≤ 57 from hdigit) (by decide)
  · exact Nat.lt_of_le_of_lt (show c.toNat ≤ 122 from hlower) (by decide)
  · exact Nat.lt_of_le_of_lt (show c.toNat ≤ 90 from hupper) (by decide)

/-- The ASCII digits are the decimal digits of ASCII. -/
theorem isAsciiDigit_iff
    {c : Char} :
    isAsciiDigit c = true ↔ isDecimalDigit c = true ∧ c.toNat < 128 := by
  constructor
  · intro hc
    have hrange : '0' ≤ c ∧ c ≤ '9' := by
      simpa [isAsciiDigit] using hc
    have hupper : c.toNat ≤ 57 := hrange.2
    exact ⟨isDecimalDigit_of_isAsciiDigit hc, by omega⟩
  · rintro ⟨hdigit, hascii⟩
    -- the next zero behind that of ASCII is far behind ASCII
    have hzeros : ∀ z ∈ digitZeros, z = 0x30 ∨ 128 ≤ z := by
      decide
    obtain ⟨z, hz, hrun⟩ := List.any_eq_true.mp hdigit
    rw [Bool.and_eq_true, decide_eq_true_iff, decide_eq_true_iff] at hrun
    have hzero := hzeros z hz
    have hrange : '0'.toNat ≤ c.toNat ∧ c.toNat ≤ '9'.toNat := by
      simp only [Char.reduceToNat]
      omega
    rw [isAsciiDigit, Bool.and_eq_true, decide_eq_true_iff, decide_eq_true_iff]
    exact hrange

/-- The format is the part of the wider language that is in ASCII. -/
theorem mem_bcryptHashes_ascii_iff
    {cs : List Char} :
    cs ∈ bcryptHashes isAsciiDigit ↔
      cs ∈ bcryptHashes isDecimalDigit ∧ ∀ c ∈ cs, c.toNat < 128 := by
  rw [mem_bcryptHashes_iff, mem_bcryptHashes_iff]
  constructor
  · rintro ⟨version, cost, cost', rest, rfl, hversion, hcost, hcost', hlength, hrest⟩
    rw [isAsciiDigit_iff] at hcost hcost'
    refine ⟨⟨version, cost, cost', rest, rfl, hversion, hcost.1, hcost'.1, hlength, hrest⟩, ?_⟩
    simp only [List.forall_mem_cons]
    exact ⟨by decide, by decide, toNat_lt_of_isBcryptVersion hversion, by decide, hcost.2,
      hcost'.2, by decide, fun c hc => toNat_lt_of_isBcryptChar (hrest c hc)⟩
  · rintro ⟨⟨version, cost, cost', rest, rfl, hversion, hcost, hcost', hrest⟩, hascii⟩
    simp only [List.forall_mem_cons] at hascii
    obtain ⟨-, -, -, -, hfirst, hsecond, -⟩ := hascii
    exact ⟨version, cost, cost', rest, rfl, hversion, isAsciiDigit_iff.mpr ⟨hcost, hfirst⟩,
      isAsciiDigit_iff.mpr ⟨hcost', hsecond⟩, hrest⟩

/-! ## The check -/

theorem isBcryptShape_iff
    {cs : List Char} :
    isBcryptShape cs = true ↔ cs ∈ bcryptHashes isDecimalDigit := by
  rw [mem_bcryptHashes_iff]
  constructor
  · intro hshape
    unfold isBcryptShape at hshape
    split at hshape
    · next version cost cost' rest =>
      simp only [Bool.and_eq_true, decide_eq_true_eq, List.all_eq_true] at hshape
      obtain ⟨⟨⟨⟨hversion, hcost⟩, hcost'⟩, hlength⟩, hrest⟩ := hshape
      exact ⟨version, cost, cost', rest, rfl, hversion, hcost, hcost', hlength, hrest⟩
    · cases hshape
  · rintro ⟨version, cost, cost', rest, rfl, hversion, hcost, hcost', hlength, hrest⟩
    simp [isBcryptShape, hversion, hcost, hcost', hlength, List.all_eq_true.mpr hrest]

/-- The check accepts bcrypt hashes with digits of any script in their cost. -/
theorem isCompleteBcrypt_iff
    {hash : String} :
    isCompleteBcrypt hash = true ↔ hash.toList ∈ bcryptHashes isDecimalDigit :=
  isBcryptShape_iff

theorem ofHash_of_isCompleteBcrypt
    {hash : String}
    (hhash : isCompleteBcrypt hash = true) :
    ofHash hash = .bcrypt :=
  ofChars_of_mem_bcryptHashes (isCompleteBcrypt_iff.mp hhash)

/-- The check for complete hashes accepts the language of bcrypt hashes with decimal digits of any
script in their cost.  The hashes of the format are those among them that are in ASCII.  What is
accepted has 60 characters and the algorithm bcrypt, and it is a hash of the format exactly when the
two digits of its cost are ASCII digits. -/
theorem complete_bcrypt_up_to_cost
    (hash : String) :
    (isCompleteBcrypt hash = true ↔ hash.toList ∈ bcryptHashes isDecimalDigit) ∧
    (hash.toList ∈ bcryptHashes isAsciiDigit ↔
      isCompleteBcrypt hash = true ∧ ∀ c ∈ hash.toList, c.toNat < 128) ∧
    (isCompleteBcrypt hash = true →
      hash.length = 60 ∧ ofHash hash = .bcrypt ∧
      (hash.toList ∈ bcryptHashes isAsciiDigit ↔
        ∀ c ∈ (hash.toList.drop 4).take 2, isAsciiDigit c = true)) := by
  refine ⟨isCompleteBcrypt_iff, ?_, fun hhash => ?_⟩
  · rw [isCompleteBcrypt_iff, mem_bcryptHashes_ascii_iff]
  · have hmem := isCompleteBcrypt_iff.mp hhash
    refine ⟨?_, ofHash_of_isCompleteBcrypt hhash, mem_bcryptHashes_congr hmem⟩
    rw [← String.length_toList, length_of_mem_bcryptHashes hmem]

/-- A bcrypt hash of cost twelve. -/
def plainHash : String :=
  "$2b$12$R9h/cIPz0gi.URNNX3kh2OPST9/PgBkqquzi.Ss7KIUgO2t0jWMUW"

theorem complete_bcrypt_plainHash :
    isCompleteBcrypt plainHash = true ∧
    plainHash.length = 60 ∧
    ofHash plainHash = .bcrypt ∧
    plainHash.toList ∈ bcryptHashes isAsciiDigit := by
  have hcomplete : isCompleteBcrypt plainHash = true := by
    decide
  have hcost : ((plainHash.toList.drop 4).take 2).all isAsciiDigit = true := by
    decide
  obtain ⟨-, -, haccepted⟩ := complete_bcrypt_up_to_cost plainHash
  obtain ⟨hlength, halgorithm, hformat⟩ := haccepted hcomplete
  exact ⟨hcomplete, hlength, halgorithm, hformat.mpr (List.all_eq_true.mp hcost)⟩

/-- The same hash with the cost in Arabic-Indic digits. -/
def foreignHash : String :=
  "$2b$\u0661\u0662$R9h/cIPz0gi.URNNX3kh2OPST9/PgBkqquzi.Ss7KIUgO2t0jWMUW"

/-- A text that the check accepts without having the format. -/
theorem complete_bcrypt_with_foreign_cost :
    isCompleteBcrypt foreignHash = true ∧ foreignHash.toList ∉ bcryptHashes isAsciiDigit := by
  refine ⟨by decide, fun hformat => ?_⟩
  have hascii := (mem_bcryptHashes_ascii_iff.mp hformat).2
  exact absurd (hascii '\u0661' (by decide)) (by decide)

end AccountMigration
