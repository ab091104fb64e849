import Mathlib.Data.List.Nodup
import Mathlib.Data.List.Perm.Basic
import SchemaChecks.Module.FunctionName

/-!
Names of validator functions are made of small letters, digits and underscores, and no two schemas
have the same: the search for a name ends at the least number that makes it free, and schemas that
come later change nothing.
-/

namespace SchemaChecks.FunctionName

def IsTail (cs : List Char) : Prop := ∀ c ∈ cs, isLower c = true ∨ isDigit c = true ∨ c = '_'

instance (cs : List Char) : Decidable (IsTail cs) := List.decidableBAll _ cs

def IsName (s : String) : Prop := ∃ tail, s.toList = "validate_".toList ++ tail ∧ IsTail tail

theorem isWord_small {c : Char} (h : isWord c = true) : c.toNat < 128 := by
  simp only [isWord, isLower, isUpper, isDigit, Char.le_def, Bool.or_eq_true, Bool.and_eq_true,
    decide_eq_true_eq] at h
  rcases h with (⟨-, h⟩ | ⟨-, h⟩) | ⟨-, h⟩
  all_goals
    have bound := UInt32.le_iff_toNat_le.mp h
    exact Nat.lt_of_le_of_lt bound (by decide)

theorem toLower_of_isWord {c : Char} (h : isWord c = true) :
    isLower c.toLower = true ∨ isDigit c.toLower = true := by
  have table : ∀ n < 128, isWord (Char.ofNat n) = true →
      isLower (Char.ofNat n).toLower = true ∨ isDigit (Char.ofNat n).toLower = true := by
    decide
  have row := table c.toNat (isWord_small h)
  rw [Char.ofNat_toNat] at row
  exact row h

theorem mem_squeeze {cs : List Char} {c : Char} (h : c ∈ squeeze cs) :
    isWord c = true ∨ c = '_' := by
  induction cs with
  | nil => cases h
  | cons d rest ih =>
    unfold squeeze at h
    split at h
    · rename_i word
      rcases List.mem_cons.mp h with rfl | h
      · exact .inl word
      · exact ih h
    · split at h
      · rename_i more same
        exact ih (same ▸ h)
      · rcases List.mem_cons.mp h with rfl | h
        · exact .inr rfl
        · exact ih h

theorem mem_of_mem_dropUnderscore {cs : List Char} {c : Char} (h : c ∈ dropUnderscore cs) :
    c ∈ cs := by
  unfold dropUnderscore at h
  split at h
  · exact List.mem_cons_of_mem _ h
  · exact h

theorem snake_isTail (cs : List Char) : IsTail (snake cs) := by
  intro c hc
  obtain ⟨d, hd, rfl⟩ := List.mem_map.mp hc
  have hd : d ∈ squeeze (mark cs) :=
    mem_of_mem_dropUnderscore
      (List.mem_reverse.mp (mem_of_mem_dropUnderscore (List.mem_reverse.mp hd)))
  rcases mem_squeeze hd with word | rfl
  · exact (toLower_of_isWord word).imp_right .inl
  · exact .inr (.inr rfl)

theorem ofSchema_isName (schema : String) : IsName (ofSchema schema) := by
  unfold ofSchema
  split
  · exact ⟨"schema".toList, by decide, by decide⟩
  · refine ⟨snake schema.toList, ?_, snake_isTail _⟩
    rw [String.toList_append, @String.toList_ofList (snake schema.toList)]

theorem numbered_toList (base : String) (k : Nat) :
    (numbered base k).toList = base.toList ++ '_' :: Nat.toDigits 10 k := by
  change ((base ++ "_") ++ k.repr).toList = _
  rw [String.toList_append, String.toList_append, Nat.toList_repr, List.append_assoc]
  rfl

theorem numbered_isName {base : String} (h : IsName base) (k : Nat) : IsName (numbered base k) := by
  obtain ⟨tail, hb, htail⟩ := h
  refine ⟨tail ++ '_' :: Nat.toDigits 10 k, by rw [numbered_toList, hb, List.append_assoc], ?_⟩
  intro c hc
  rcases List.mem_append.mp hc with hc | hc
  · exact htail c hc
  rcases List.mem_cons.mp hc with rfl | hc
  · exact .inr (.inr rfl)
  · have digit : c.isDigit = true := Nat.isDigit_of_mem_toDigits (by decide) (by decide) hc
    refine .inr (.inl ?_)
    simpa [isDigit, Char.isDigit, Char.le_def] using digit

theorem toDigits_injective {j k : Nat} (h : Nat.toDigits 10 j = Nat.toDigits 10 k) : j = k := by
  rw [← @Nat.ofDigitChars_ten_toDigits j, h, Nat.ofDigitChars_ten_toDigits]

theorem numbered_injective (base : String) {j k : Nat} (h : numbered base j = numbered base k) :
    j = k := by
  have hl := congrArg String.toList h
  rw [numbered_toList, numbered_toList] at hl
  exact toDigits_injective (by simpa using hl)

/-- The search ends at a number before which all are taken. -/
theorem firstFree_spec (taken : List String) (base : String) (tries k : Nat) :
    ∃ j ≤ tries, firstFree taken base tries k = numbered base (k + j) ∧
      (∀ i < j, numbered base (k + i) ∈ taken) ∧
      (j < tries → numbered base (k + j) ∉ taken) := by
  induction tries generalizing k with
  | zero => exact ⟨0, Nat.le_refl 0, rfl, by omega, by omega⟩
  | succ tries ih =>
    unfold firstFree
    split
    · rename_i used
      obtain ⟨j, hj, found, before, free⟩ := ih (k + 1)
      refine ⟨j + 1, by omega, ?_, ?_, ?_⟩
      · rw [found, Nat.add_assoc, Nat.add_comm 1 j]
      · intro i hi
        cases i with
        | zero => exact used
        | succ i =>
          have := before i (by omega)
          rwa [Nat.add_assoc, Nat.add_comm 1 i] at this
      · intro hlt
        have := free (by omega)
        rwa [Nat.add_assoc, Nat.add_comm 1 j] at this
    · rename_i unused
      exact ⟨0, by omega, rfl, by omega, fun _ => unused⟩

/-- At most as many numbers in a row are taken as there are taken names, since names with numbers
are all different. -/
theorem run_le_length {taken : List String} {base : String} {k n : Nat}
    (used : ∀ i < n, numbered base (k + i) ∈ taken) : n ≤ taken.length := by
  have distinct : ((List.range n).map fun i => numbered base (k + i)).Nodup := by
    refine List.Nodup.map ?_ List.nodup_range
    intro a b hab
    exact Nat.add_left_cancel (numbered_injective base hab)
  have subset : ((List.range n).map fun i => numbered base (k + i)) ⊆ taken := by
    intro s hs
    obtain ⟨i, hi, rfl⟩ := List.mem_map.mp hs
    exact used i (List.mem_range.mp hi)
  have bound := (List.subperm_of_subset distinct subset).length_le
  simpa using bound

/-- As many tests as there are taken names suffice. -/
theorem firstFree_not_mem (taken : List String) (base : String) (k : Nat) :
    firstFree taken base taken.length k ∉ taken := by
  obtain ⟨j, hj, found, before, free⟩ := firstFree_spec taken base taken.length k
  rw [found]
  intro used
  rcases Nat.lt_or_ge j taken.length with hlt | hge
  · exact free hlt used
  · have run : j + 1 ≤ taken.length := by
      apply run_le_length
      intro i hi
      rcases Nat.lt_or_ge i j with hlt | hge
      · exact before i hlt
      · obtain rfl : i = j := by omega
        exact used
    omega

theorem free_not_mem (taken : List String) (base : String) : free taken base ∉ taken := by
  unfold free
  split
  · exact firstFree_not_mem taken base 2
  · assumption

theorem free_isName (taken : List String) {base : String} (h : IsName base) :
    IsName (free taken base) := by
  unfold free
  split
  · obtain ⟨j, -, found, -⟩ := firstFree_spec taken base taken.length 2
    rw [found]
    exact numbered_isName h _
  · exact h

/-! ### The search for a free name -/

structure Search where
  candidate : String
  number : Nat

namespace Search

def start (base : String) : Search := ⟨base, 2⟩

def next (base : String) (s : Search) : Search := ⟨numbered base s.number, s.number + 1⟩

inductive Ends (taken : List String) (base : String) : Search → Nat → String → Prop
  | free {s : Search} (h : s.candidate ∉ taken) : Ends taken base s 0 s.candidate
  | round {s : Search} {n : Nat} {name : String} (h : s.candidate ∈ taken)
    (rest : Ends taken base (s.next base) n name) : Ends taken base s (n + 1) name

variable {taken : List String} {base name : String} {s : Search} {n k : Nat}

theorem Ends.unique (h : Ends taken base s n name) {n' : Nat} {name' : String}
    (h' : Ends taken base s n' name') : name = name' := by
  induction h generalizing n' with
  | free free =>
    cases h' with
    | free _ => rfl
    | round used _ => exact absurd used free
  | round used _ ih =>
    cases h' with
    | free free => exact absurd used free
    | round _ rest => exact ih rest

/-- What is taken counts, and not in which order. -/
theorem Ends.congr (h : Ends taken base s n name) {taken' : List String}
    (same : ∀ t, t ∈ taken ↔ t ∈ taken') : Ends taken' base s n name := by
  induction h with
  | free free => exact .free fun used => free ((same _).mpr used)
  | round used _ ih => exact .round ((same _).mp used) ih

/-- A search from a number on ends at the first number that is free. -/
theorem Ends.first_number (h : Ends taken base ⟨numbered base k, k + 1⟩ n name) :
    name = numbered base (k + n) ∧ name ∉ taken ∧
      ∀ i < n, numbered base (k + i) ∈ taken := by
  generalize from_ : (⟨numbered base k, k + 1⟩ : Search) = s at h
  induction h generalizing k with
  | free free =>
    cases from_
    exact ⟨rfl, free, by omega⟩
  | @round s n name used _ ih =>
    cases from_
    obtain ⟨named, free, before⟩ := ih rfl
    refine ⟨?_, free, ?_⟩
    · rw [named, Nat.add_assoc, Nat.add_comm 1 n]
    · intro i hi
      cases i with
      | zero => exact used
      | succ i =>
        have earlier := before i (by omega)
        rwa [Nat.add_assoc, Nat.add_comm 1 i] at earlier

theorem ends_of_run (used : ∀ i < n, numbered base (k + i) ∈ taken)
    (free : numbered base (k + n) ∉ taken) :
    Ends taken base ⟨numbered base k, k + 1⟩ n
      (numbered base (k + n)) := by
  induction n generalizing k with
  | zero => exact .free free
  | succ n ih =>
    have shift : k + 1 + n = k + (n + 1) := by omega
    refine .round (used 0 (by omega)) ?_
    rw [← shift]
    apply ih
    · intro i hi
      have later := used (i + 1) (by omega)
      rwa [← Nat.add_assoc, Nat.add_right_comm] at later
    · rw [shift]
      exact free

end Search

theorem base_ne_numbered (base : String) (k : Nat) : base ≠ numbered base k := by
  intro same
  have length := congrArg (fun s => s.toList.length) same
  simp only [numbered_toList, List.length_append, List.length_cons] at length
  omega

/-- The search for a name ends at the free one, after at most one round for each taken name. -/
theorem search_ends (taken : List String) (base : String) :
    ∃ rounds ≤ taken.length, Search.Ends taken base (.start base) rounds (free taken base) := by
  unfold free
  by_cases used : base ∈ taken
  · obtain ⟨j, -, found, before, -⟩ := firstFree_spec taken base taken.length 2
    have free := firstFree_not_mem taken base 2
    rw [if_pos used, found] at *
    refine ⟨j + 1, ?_, .round used (Search.ends_of_run before free)⟩
    -- the base is taken too, and differs from all that have numbers
    have others : j ≤ (taken.erase base).length := by
      apply run_le_length
      intro i hi
      exact (List.mem_erase_of_ne (base_ne_numbered base _).symm).mpr (before i hi)
    have some_ := List.length_pos_of_mem used
    rw [List.length_erase_of_mem used] at others
    omega
  · rw [if_neg used]
    exact ⟨0, Nat.zero_le _, .free used⟩

/-- A name as it is given where some are taken: the base if it is free, otherwise the base with the
least number from two on that makes it free. -/
def IsLeastFree (taken : List String) (base name : String) : Prop :=
  (base ∉ taken ∧ name = base) ∨
    (base ∈ taken ∧ ∃ k, 2 ≤ k ∧ name = numbered base k ∧ name ∉ taken ∧
      ∀ j, 2 ≤ j → j < k → numbered base j ∈ taken)

theorem Search.Ends.isLeastFree {taken : List String} {base name : String} {rounds : Nat}
    (h : Ends taken base (.start base) rounds name) : IsLeastFree taken base name := by
  cases h with
  | free free => exact .inl ⟨free, rfl⟩
  | @round _ n _ used rest =>
    obtain ⟨named, free, before⟩ := rest.first_number
    refine .inr ⟨used, 2 + n, by omega, named, free, ?_⟩
    intro j least less
    have earlier : numbered base (2 + (j - 2)) ∈ taken := before (j - 2) (by omega)
    rwa [Nat.add_sub_cancel' least] at earlier

theorem free_congr {taken taken' : List String} (same : ∀ t, t ∈ taken ↔ t ∈ taken')
    (base : String) : free taken base = free taken' base := by
  obtain ⟨_, -, here⟩ := search_ends taken base
  obtain ⟨_, -, there⟩ := search_ends taken' base
  exact (here.congr same).unique there

/-! ### Names for schemas in order -/

theorem assignAfter_congr {taken taken' : List String} (same : ∀ t, t ∈ taken ↔ t ∈ taken')
    (schemas : List String) : assignAfter taken schemas = assignAfter taken' schemas := by
  induction schemas generalizing taken taken' with
  | nil => rfl
  | cons schema rest ih =>
    have first := free_congr same (ofSchema schema)
    simp only [assignAfter, first]
    congr 1
    apply ih
    intro t
    rw [List.mem_cons, List.mem_cons, same t]

theorem assignAfter_append (taken xs ys : List String) :
    assignAfter taken (xs ++ ys) =
      assignAfter taken xs ++ assignAfter (assignAfter taken xs ++ taken) ys := by
  induction xs generalizing taken with
  | nil => rfl
  | cons schema rest ih =>
    simp only [List.cons_append, assignAfter, ih]
    congr 2
    apply assignAfter_congr
    intro t
    simp only [List.mem_append, List.mem_cons]
    tauto

/-- Schemas that come later change no name. -/
theorem assign_append (xs ys : List String) :
    assign (xs ++ ys) = assign xs ++ assignAfter (assign xs) ys := by
  have split := assignAfter_append [] xs ys
  rwa [List.append_nil] at split

theorem assignAfter_spec (taken schemas : List String) :
    (assignAfter taken schemas).length = schemas.length ∧ (assignAfter taken schemas).Nodup ∧
      ∀ name ∈ assignAfter taken schemas, IsName name ∧ name ∉ taken := by
  induction schemas generalizing taken with
  | nil => exact ⟨rfl, List.nodup_nil, by simp [assignAfter]⟩
  | cons schema rest ih =>
    obtain ⟨length, distinct, names⟩ := ih (free taken (ofSchema schema) :: taken)
    have first := free_not_mem taken (ofSchema schema)
    refine ⟨by simp [assignAfter, length], ?_, ?_⟩
    · refine List.nodup_cons.mpr ⟨fun again => ?_, distinct⟩
      exact (names _ again).2 List.mem_cons_self
    · intro name hn
      rcases List.mem_cons.mp hn with rfl | hn
      · exact ⟨free_isName taken (ofSchema_isName schema), first⟩
      · obtain ⟨isName, fresh⟩ := names name hn
        exact ⟨isName, fun old => fresh (List.mem_cons_of_mem _ old)⟩

/-- Every schema gets a name, and no two get the same. -/
theorem assign_spec (schemas : List String) :
    (assign schemas).length = schemas.length ∧ (assign schemas).Nodup ∧
      ∀ name ∈ assign schemas, IsName name := by
  obtain ⟨length, distinct, names⟩ := assignAfter_spec [] schemas
  exact ⟨length, distinct, fun name hn => (names name hn).1⟩

end SchemaChecks.FunctionName
