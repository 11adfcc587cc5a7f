import AccountMigration.Password
import Mathlib.Data.List.Induction
import Mathlib.Data.List.Nodup

/-!
# The algorithm that leads a sample

The algorithm of a sample is the one that leads it: no other is more frequent, and of those that
are as frequent it comes first.  A sample has one leader at most, so it does not matter in which
order the counts are visited or the hashes stand, and one more hash of the leader changes nothing.

* `HashAlgorithm.frequency` and `HashAlgorithm.Leads`: what it is to lead a sample.
* `HashAlgorithm.Tallies` and `HashAlgorithm.tallies_tally`: counts that hold each algorithm of a
  sample once, with its frequency.
* `HashAlgorithm.lastGreatest?`: the choice of the last greatest entry, in any order of the counts.
* `HashAlgorithm.ofSample_eq_iff_leads`: the algorithm of a sample is its leader.
* `HashAlgorithm.sample_goes_to_leader`: neither order shows, and the leader stays.
-/

namespace AccountMigration
namespace HashAlgorithm

/-- The rank of an algorithm is its place among all. -/
theorem getElem?_rank
    (a : HashAlgorithm) :
    all[a.rank]? = some a := by
  cases a <;> rfl

theorem eq_of_rank_eq
    {a b : HashAlgorithm}
    (h : a.rank = b.rank) :
    a = b := by
  have hb := b.getElem?_rank
  rw [← h, a.getElem?_rank] at hb
  exact Option.some.inj hb

/-! ## Frequencies -/

/-- How many hashes of a sample have an algorithm. -/
def frequency
    (hashes : List String)
    (a : HashAlgorithm) : Nat :=
  hashes.countP fun hash => ofHash hash = a

@[simp] theorem frequency_nil
    (a : HashAlgorithm) :
    frequency [] a = 0 := by
  rfl

theorem frequency_cons
    (hash : String)
    (hashes : List String)
    (a : HashAlgorithm) :
    frequency (hash :: hashes) a = frequency hashes a + if ofHash hash = a then 1 else 0 := by
  simp [frequency, List.countP_cons]

theorem frequency_perm
    {hashes others : List String}
    (hperm : hashes.Perm others)
    (a : HashAlgorithm) :
    frequency hashes a = frequency others a :=
  hperm.countP_eq _

/-- An algorithm leads a sample: no other is more frequent, and those that are as frequent come
after it. -/
structure Leads
    (hashes : List String)
    (a : HashAlgorithm) : Prop where
  most : ∀ b, frequency hashes b ≤ frequency hashes a
  first : ∀ b, b ≠ a → frequency hashes b = frequency hashes a → a.rank < b.rank

theorem Leads.unique
    {hashes : List String}
    {a b : HashAlgorithm}
    (ha : Leads hashes a)
    (hb : Leads hashes b) :
    a = b := by
  by_contra hne
  have hsame : frequency hashes a = frequency hashes b :=
    Nat.le_antisymm (hb.most a) (ha.most b)
  have hab := ha.first b (Ne.symm hne) hsame.symm
  have hba := hb.first a hne hsame
  omega

theorem Leads.perm
    {hashes others : List String}
    {a : HashAlgorithm}
    (hperm : hashes.Perm others)
    (ha : Leads hashes a) :
    Leads others a := by
  constructor
  · intro b
    rw [← frequency_perm hperm, ← frequency_perm hperm]
    exact ha.most b
  · intro b hne hsame
    rw [← frequency_perm hperm, ← frequency_perm hperm] at hsame
    exact ha.first b hne hsame

/-- With one more hash, an algorithm that no other surpasses is alone in front. -/
theorem leads_cons
    {hash : String}
    {hashes : List String}
    (hmost : ∀ b, frequency hashes b ≤ frequency hashes (ofHash hash)) :
    Leads (hash :: hashes) (ofHash hash) := by
  have hself : frequency (hash :: hashes) (ofHash hash) =
      frequency hashes (ofHash hash) + 1 := by
    rw [frequency_cons, if_pos rfl]
  have hother : ∀ b, b ≠ ofHash hash →
      frequency (hash :: hashes) b = frequency hashes b := by
    intro b hne
    rw [frequency_cons, if_neg (Ne.symm hne), Nat.add_zero]
  constructor
  · intro b
    by_cases hb : b = ofHash hash
    · exact hb ▸ Nat.le_refl _
    · rw [hself, hother b hb]
      exact Nat.le_succ_of_le (hmost b)
  · intro b hne hsame
    have hle := hmost b
    rw [hself, hother b hne] at hsame
    omega

/-! ## Tallies -/

/-- Counts that hold each algorithm of a sample once, with its frequency. -/
structure Tallies
    (counts : List (HashAlgorithm × Nat))
    (hashes : List String) : Prop where
  keys : (counts.map Prod.fst).Nodup
  mem_iff : ∀ a n, (a, n) ∈ counts ↔ n = frequency hashes a ∧ 0 < n

/-- The order of the counts does not matter. -/
theorem Tallies.perm
    {counts others : List (HashAlgorithm × Nat)}
    {hashes : List String}
    (hperm : counts.Perm others)
    (h : Tallies counts hashes) :
    Tallies others hashes where
  keys := (hperm.map Prod.fst).nodup_iff.mp h.keys
  mem_iff a n := by rw [← hperm.mem_iff, h.mem_iff]

section Count

variable {a b : HashAlgorithm} {counts : List (HashAlgorithm × Nat)} {n : Nat}

theorem mem_keys_count_iff :
    b ∈ (count a counts).map Prod.fst ↔ b = a ∨ b ∈ counts.map Prod.fst := by
  induction counts with
  | nil =>
      simp [count]
  | cons entry rest ih =>
      rw [count]
      split
      · next hkey =>
        rw [List.map_cons, List.map_cons, List.mem_cons, List.mem_cons, hkey, or_self_left]
      · rw [List.map_cons, List.map_cons, List.mem_cons, List.mem_cons, ih, or_left_comm]

theorem nodup_keys_count
    (hkeys : (counts.map Prod.fst).Nodup) :
    ((count a counts).map Prod.fst).Nodup := by
  induction counts with
  | nil =>
      simp [count]
  | cons entry rest ih =>
      rw [List.map_cons, List.nodup_cons] at hkeys
      rw [count]
      split
      · next hkey =>
        rw [List.map_cons, List.nodup_cons, ← hkey]
        exact hkeys
      · next hkey =>
        rw [List.map_cons, List.nodup_cons, mem_keys_count_iff, not_or]
        exact ⟨⟨hkey, hkeys.1⟩, ih hkeys.2⟩

/-- The counts of other algorithms stay as they are. -/
theorem mem_count_of_ne
    (hne : b ≠ a) :
    (b, n) ∈ count a counts ↔ (b, n) ∈ counts := by
  induction counts with
  | nil =>
      simp [count, hne]
  | cons entry rest ih =>
      rw [count]
      split
      · next hkey =>
        have hentry : (b, n) ≠ entry := fun hsame => hne (by rw [← hkey, ← hsame])
        simp [hne, hentry]
      · rw [List.mem_cons, List.mem_cons, ih]

/-- The count of the algorithm goes up by one, or begins with one. -/
theorem mem_count_self
    (hkeys : (counts.map Prod.fst).Nodup) :
    (a, n) ∈ count a counts ↔
      (∃ k, (a, k) ∈ counts ∧ n = k + 1) ∨ (a ∉ counts.map Prod.fst ∧ n = 1) := by
  induction counts with
  | nil =>
      simp [count]
  | cons entry rest ih =>
      obtain ⟨c, k⟩ := entry
      rw [List.map_cons, List.nodup_cons] at hkeys
      rw [count]
      split
      · next hkey =>
        obtain rfl : c = a := hkey
        have hrest : ∀ j, (c, j) ∉ rest := fun j hj =>
          hkeys.1 (List.mem_map.mpr ⟨(c, j), hj, rfl⟩)
        simp [hrest]
      · next hkey =>
        have hne : a ≠ c := Ne.symm hkey
        rw [List.mem_cons, ih hkeys.2]
        simp [hne]

end Count

/-- One more hash is counted. -/
theorem Tallies.count
    {counts : List (HashAlgorithm × Nat)}
    {hashes : List String}
    (h : Tallies counts hashes)
    (hash : String) :
    Tallies (count (ofHash hash) counts) (hash :: hashes) := by
  refine ⟨nodup_keys_count h.keys, fun a n => ?_⟩
  rw [frequency_cons]
  by_cases ha : ofHash hash = a
  · subst ha
    -- an algorithm without an entry has not occurred
    have habsent : ofHash hash ∉ counts.map Prod.fst ↔ frequency hashes (ofHash hash) = 0 := by
      constructor
      · intro hnone
        by_contra hsome
        have hmem := (h.mem_iff (ofHash hash) _).mpr ⟨rfl, Nat.pos_of_ne_zero hsome⟩
        exact hnone (List.mem_map_of_mem hmem)
      · intro hzero hmem
        obtain ⟨⟨b, k⟩, hentry, rfl⟩ := List.mem_map.mp hmem
        have hk := (h.mem_iff _ k).mp hentry
        omega
    rw [mem_count_self h.keys, habsent, if_pos rfl]
    simp only [h.mem_iff]
    constructor
    · rintro (⟨k, ⟨rfl, -⟩, rfl⟩ | ⟨hzero, rfl⟩) <;> omega
    · rintro ⟨rfl, -⟩
      rcases Nat.eq_zero_or_pos (frequency hashes (ofHash hash)) with hzero | hpos
      · exact Or.inr ⟨hzero, by rw [hzero]⟩
      · exact Or.inl ⟨_, ⟨rfl, hpos⟩, rfl⟩
  · rw [mem_count_of_ne (Ne.symm ha), h.mem_iff, if_neg ha, Nat.add_zero]

/-- A tally holds the algorithms of its sample with their frequencies. -/
theorem tallies_tally
    (hashes : List String) :
    Tallies (tally hashes) hashes := by
  induction hashes using List.reverseRecOn with
  | nil =>
      refine ⟨List.nodup_nil, fun a n => ?_⟩
      rw [frequency_nil]
      constructor
      · nofun
      · rintro ⟨rfl, hpos⟩
        cases hpos
  | append_singleton hashes hash ih =>
      have hstep : tally (hashes ++ [hash]) = count (ofHash hash) (tally hashes) := by
        rw [tally, tally, List.foldl_append, List.foldl_cons, List.foldl_nil]
      have hmem := (ih.count hash).mem_iff
      rw [hstep]
      refine ⟨nodup_keys_count ih.keys, fun a n => ?_⟩
      rw [hmem, frequency_perm (List.perm_append_singleton hash hashes)]

/-! ## Leaders of counts -/

/-- The order of two entries: by their frequencies, and in a tie the other way round by their
ranks. -/
def compareEntries
    (x y : HashAlgorithm × Nat) : Ordering :=
  (compare x.2 y.2).then (compare y.1.rank x.1.rank)

/-- The greater of two entries, and the later one when neither is. -/
def later
    (best next : HashAlgorithm × Nat) : HashAlgorithm × Nat :=
  if compareEntries best next = .gt then best else next

/-- The last of the greatest entries, found in one go from the front. -/
def lastGreatest? : List (HashAlgorithm × Nat) → Option (HashAlgorithm × Nat)
  | [] => none
  | entry :: rest => some (rest.foldl later entry)

/-- The algorithm of the last greatest entry of counts. -/
def ofCounts
    (counts : List (HashAlgorithm × Nat)) : HashAlgorithm :=
  match lastGreatest? counts with
  | some entry => entry.1
  | none => .unknown

/-- An entry that no other is ahead of. -/
structure IsLeader
    (counts : List (HashAlgorithm × Nat))
    (entry : HashAlgorithm × Nat) : Prop where
  mem : entry ∈ counts
  unbeaten : ∀ other ∈ counts, isAhead other entry = false

section Leader

variable {x y z : HashAlgorithm × Nat} {counts others : List (HashAlgorithm × Nat)}

theorem isAhead_eq_false_iff :
    isAhead x y = false ↔ x.2 < y.2 ∨ x.2 = y.2 ∧ y.1.rank ≤ x.1.rank := by
  simp only [isAhead, Bool.or_eq_false_iff, decide_eq_false_iff_not, Bool.and_eq_false_iff]
  omega

theorem isAhead_trans
    (hxy : isAhead x y = false)
    (hyz : isAhead y z = false) :
    isAhead x z = false := by
  rw [isAhead_eq_false_iff] at hxy hyz ⊢
  omega

theorem isAhead_self
    (x : HashAlgorithm × Nat) :
    isAhead x x = false := by
  rw [isAhead_eq_false_iff]
  omega

theorem isAhead_asymm
    (hxy : isAhead x y = true) :
    isAhead y x = false := by
  rw [isAhead_eq_false_iff]
  simp only [isAhead, Bool.or_eq_true, Bool.and_eq_true, decide_eq_true_eq] at hxy
  omega

/-- An entry is greater than another exactly when it is ahead of it. -/
theorem compareEntries_eq_gt_iff :
    compareEntries x y = .gt ↔ isAhead x y = true := by
  rw [compareEntries, Ordering.then_eq_gt, Nat.compare_eq_gt, Nat.compare_eq_eq,
    Nat.compare_eq_gt]
  simp [isAhead]

theorem IsLeader.unique
    (hx : IsLeader counts x)
    (hy : IsLeader counts y) :
    x = y := by
  have hxy := isAhead_eq_false_iff.mp (hy.unbeaten x hx.mem)
  have hyx := isAhead_eq_false_iff.mp (hx.unbeaten y hy.mem)
  refine Prod.ext (eq_of_rank_eq ?_) ?_ <;> omega

theorem IsLeader.perm
    (hperm : counts.Perm others)
    (hx : IsLeader counts x) :
    IsLeader others x :=
  ⟨hperm.mem_iff.mp hx.mem, fun y hy => hx.unbeaten y (hperm.mem_iff.mpr hy)⟩

theorem isLeader_singleton
    (x : HashAlgorithm × Nat) :
    IsLeader [x] x :=
  ⟨List.mem_singleton_self x, List.forall_mem_singleton.mpr (isAhead_self x)⟩

/-- A leader stays one when an entry comes that is not ahead of it. -/
theorem IsLeader.stays
    (hx : IsLeader counts x)
    (hyx : isAhead y x = false) :
    IsLeader (y :: counts) x :=
  ⟨List.mem_cons_of_mem y hx.mem, List.forall_mem_cons.mpr ⟨hyx, hx.unbeaten⟩⟩

/-- An entry becomes the leader when the one so far is not ahead of it. -/
theorem IsLeader.replaced
    (hx : IsLeader counts x)
    (hxy : isAhead x y = false) :
    IsLeader (y :: counts) y :=
  ⟨List.mem_cons_self, List.forall_mem_cons.mpr
    ⟨isAhead_self y, fun z hz => isAhead_trans (hx.unbeaten z hz) hxy⟩⟩

theorem leader?_eq_none_iff :
    leader? counts = none ↔ counts = [] := by
  cases counts with
  | nil =>
      exact iff_of_true rfl rfl
  | cons entry rest =>
      refine iff_of_false (fun hnone => ?_) (List.cons_ne_nil entry rest)
      rw [leader?] at hnone
      split at hnone
      · cases hnone
      · split at hnone <;> cases hnone

theorem isLeader_leader?
    (hx : leader? counts = some x) :
    IsLeader counts x := by
  induction counts generalizing x with
  | nil =>
      cases hx
  | cons entry rest ih =>
      rw [leader?] at hx
      split at hx
      · next hnone =>
        obtain rfl := Option.some.inj hx
        rw [leader?_eq_none_iff.mp hnone]
        exact isLeader_singleton entry
      · next best hbest =>
        split at hx
        · next hahead =>
          obtain rfl := Option.some.inj hx
          exact (ih hbest).replaced (isAhead_asymm hahead)
        · next hbehind =>
          obtain rfl := Option.some.inj hx
          exact (ih hbest).stays (eq_false_of_ne_true hbehind)

/-- The best entry so far is the leader of what has been visited. -/
theorem isLeader_foldl
    {visited : List (HashAlgorithm × Nat)}
    (rest : List (HashAlgorithm × Nat))
    (hx : IsLeader visited x) :
    IsLeader (rest.reverse ++ visited) (rest.foldl later x) := by
  induction rest generalizing visited x with
  | nil =>
      exact hx
  | cons next rest ih =>
      have hnext : IsLeader (next :: visited) (later x next) := by
        rw [later]
        split
        · next hgreater =>
          exact hx.stays (isAhead_asymm (compareEntries_eq_gt_iff.mp hgreater))
        · next hother =>
          exact hx.replaced (eq_false_of_ne_true (mt compareEntries_eq_gt_iff.mpr hother))
      rw [List.reverse_cons, List.append_assoc]
      exact ih hnext

theorem isLeader_lastGreatest?
    (hx : lastGreatest? counts = some x) :
    IsLeader counts x := by
  cases counts with
  | nil =>
      cases hx
  | cons entry rest =>
      obtain rfl := Option.some.inj hx
      have hvisited := isLeader_foldl rest (isLeader_singleton entry)
      rw [← List.reverse_cons] at hvisited
      exact hvisited.perm (List.reverse_perm _)

/-- The last greatest entry is the leader, in whatever order the entries are visited. -/
theorem lastGreatest?_of_perm
    (hperm : others.Perm counts) :
    lastGreatest? others = leader? counts := by
  cases hothers : others with
  | nil =>
      rw [hothers] at hperm
      rw [hperm.nil_eq.symm]
      rfl
  | cons entry rest =>
      have hlast : IsLeader (entry :: rest) (rest.foldl later entry) :=
        isLeader_lastGreatest? rfl
      rw [← hothers] at hlast
      cases hcounts : leader? counts with
      | none =>
          rw [leader?_eq_none_iff.mp hcounts, hothers] at hperm
          exact absurd hperm.eq_nil (List.cons_ne_nil entry rest)
      | some best =>
          rw [((hlast.perm hperm).unique (isLeader_leader? hcounts)).symm]
          rfl

end Leader

/-! ## The algorithm of a sample -/

section Sample

variable {counts : List (HashAlgorithm × Nat)} {hashes others : List String} {a : HashAlgorithm}

/-- The leader of the counts of a sample leads the sample. -/
theorem IsLeader.leads
    {entry : HashAlgorithm × Nat}
    (hcounts : Tallies counts hashes)
    (hleader : IsLeader counts entry) :
    Leads hashes entry.1 := by
  obtain ⟨a, n⟩ := entry
  obtain ⟨rfl, hpos⟩ := (hcounts.mem_iff a n).mp hleader.mem
  have hother : ∀ b, 0 < frequency hashes b →
      isAhead (b, frequency hashes b) (a, frequency hashes a) = false :=
    fun b hb => hleader.unbeaten _ ((hcounts.mem_iff b _).mpr ⟨rfl, hb⟩)
  constructor
  · intro b
    rcases Nat.eq_zero_or_pos (frequency hashes b) with hzero | hb
    · rw [hzero]
      exact Nat.zero_le _
    · have hbehind := isAhead_eq_false_iff.mp (hother b hb)
      simp only at hbehind ⊢
      omega
  · intro b hne hsame
    have hbehind := isAhead_eq_false_iff.mp (hother b (hsame ▸ hpos))
    have hrank : b.rank ≠ a.rank := fun heq => hne (eq_of_rank_eq heq)
    simp only at hbehind hsame ⊢
    omega

/-- A sample that is not empty has the algorithm that leads it. -/
theorem leads_ofSample
    (hne : hashes ≠ []) :
    Leads hashes (ofSample hashes) := by
  have htally := tallies_tally hashes
  cases hleader : leader? (tally hashes) with
  | none =>
      -- the algorithm of the first hash has an entry
      obtain ⟨hash, rest, rfl⟩ := List.exists_cons_of_ne_nil hne
      have hfrequency : 0 < frequency (hash :: rest) (ofHash hash) := by
        rw [frequency_cons, if_pos rfl]
        exact Nat.succ_pos _
      have hentry := (htally.mem_iff (ofHash hash) _).mpr ⟨rfl, hfrequency⟩
      rw [leader?_eq_none_iff.mp hleader] at hentry
      cases hentry
  | some entry =>
      have hsample : ofSample hashes = entry.1 := by
        rw [ofSample, hleader]
      rw [hsample]
      exact (isLeader_leader? hleader).leads htally

theorem ofSample_eq_iff_leads
    (hne : hashes ≠ []) :
    ofSample hashes = a ↔ Leads hashes a :=
  ⟨fun heq => heq ▸ leads_ofSample hne, fun ha => (leads_ofSample hne).unique ha⟩

theorem ofSample_perm
    (hperm : others.Perm hashes) :
    ofSample others = ofSample hashes := by
  by_cases hne : hashes = []
  · subst hne
    rw [hperm.eq_nil]
  · have hothers : others ≠ [] := fun hnil => hne (hnil ▸ hperm).nil_eq.symm
    rw [ofSample_eq_iff_leads hothers]
    exact (leads_ofSample hne).perm hperm.symm

/-- Counts in any order come to the algorithm of their sample. -/
theorem ofCounts_eq_ofSample
    (hcounts : Tallies counts hashes) :
    ofCounts counts = ofSample hashes := by
  have hperm : counts.Perm (tally hashes) := by
    have htally := tallies_tally hashes
    have hnodup := List.Nodup.of_map Prod.fst hcounts.keys
    refine (List.perm_ext_iff_of_nodup hnodup (List.Nodup.of_map Prod.fst htally.keys)).mpr ?_
    rintro ⟨a, n⟩
    rw [hcounts.mem_iff, htally.mem_iff]
  rw [ofCounts, lastGreatest?_of_perm hperm]
  rfl

theorem frequency_le_ofSample
    (hashes : List String)
    (a : HashAlgorithm) :
    frequency hashes a ≤ frequency hashes (ofSample hashes) := by
  cases hashes with
  | nil =>
      exact Nat.le_refl 0
  | cons hash rest =>
      exact (leads_ofSample (List.cons_ne_nil hash rest)).most a

/-- One more hash of the leader leaves it in front. -/
theorem ofSample_cons_of_leader
    {hash : String}
    (hhash : ofHash hash = ofSample hashes) :
    ofSample (hash :: hashes) = ofSample hashes := by
  rw [ofSample_eq_iff_leads (List.cons_ne_nil hash hashes), ← hhash]
  exact leads_cons (hhash ▸ frequency_le_ofSample hashes)

variable (hashes)

/-- The algorithm of a sample is unknown when the sample is empty, and otherwise the one that leads
it: no other is more frequent, and those as frequent come after it.  It is the one that is found
when the counts are visited in any order, and the order of the hashes does not matter either.  One
more hash of that algorithm, at any place, changes nothing. -/
theorem sample_goes_to_leader :
    ofSample [] = .unknown ∧
    (hashes ≠ [] → ∀ a, ofSample hashes = a ↔ Leads hashes a) ∧
    (∀ counts, Tallies counts hashes → ofCounts counts = ofSample hashes) ∧
    (∀ others, others.Perm hashes → ofSample others = ofSample hashes) ∧
    ∀ hash others, ofHash hash = ofSample hashes → others.Perm (hash :: hashes) →
      ofSample others = ofSample hashes := by
  refine ⟨rfl, fun hne a => ofSample_eq_iff_leads hne, fun counts => ofCounts_eq_ofSample,
    fun others => ofSample_perm, fun hash others hhash hperm => ?_⟩
  rw [ofSample_perm hperm, ofSample_cons_of_leader hhash]

end Sample

/-- A sample with two algorithms that are equally frequent. -/
def evenSample : List String :=
  ["5f4dcc3b5aa765d61d8327deb882cf99", "$2b$12$abc", "plaintext?", "$2y$10$abc",
    "5f4dcc3b5aa765d61d8327deb882cf99"]

/-- A tie goes to the algorithm that comes first, also when the counts are visited in another order,
when the hashes are, and when there is one more hash of it. -/
theorem sample_goes_to_leader_evenSample :
    evenSample ≠ [] ∧
    Leads evenSample .bcrypt ∧
    Tallies [(.unknown, 1), (.bcrypt, 2), (.md5, 2)] evenSample ∧
    ofCounts [(.unknown, 1), (.bcrypt, 2), (.md5, 2)] = .bcrypt ∧
    ofSample evenSample.reverse = .bcrypt ∧
    ofSample (evenSample ++ ["$2a$"]) = .bcrypt := by
  have hsample : ofSample evenSample = .bcrypt := by
    decide
  have hcounts : Tallies [(.unknown, 1), (.bcrypt, 2), (.md5, 2)] evenSample :=
    (tallies_tally evenSample).perm (by decide)
  obtain ⟨-, hleads, hvisits, hperm, hmore⟩ := sample_goes_to_leader evenSample
  rw [hsample] at hvisits hperm hmore
  refine ⟨by decide, (hleads (by decide) _).mp hsample, hcounts, hvisits _ hcounts,
    hperm _ (List.reverse_perm _), hmore "$2a$" _ (by decide) ?_⟩
  exact List.perm_append_singleton "$2a$" evenSample

end HashAlgorithm
end AccountMigration
