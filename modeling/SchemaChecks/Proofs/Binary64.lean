import Mathlib
import SchemaChecks.Number.Binary64

/-!
Rounding stays within the range of doubles, so that the sign of a double is a matter of one bit.
-/

namespace SchemaChecks.Binary64

def FitsFields (exponent fraction : Nat) : Prop := exponent * Nat.pow 2 52 + fraction < Nat.pow 2 63

theorem neg_ofFields {exponent fraction : Nat} (h : FitsFields exponent fraction) :
    (ofFields false exponent fraction).neg = ofFields true exponent fraction := by
  have bound : exponent * 4503599627370496 + fraction < 9223372036854775808 := h
  have word : (ofFields false exponent fraction).word.toNat =
      exponent * 4503599627370496 + fraction := by
    change (UInt64.ofNat (0 + exponent * 4503599627370496 + fraction)).toNat = _
    rw [UInt64.toNat_ofNat', Nat.mod_eq_of_lt] <;> omega
  have positive : (ofFields false exponent fraction).isNegative = false := by
    simp only [isNegative, word, decide_eq_false_iff_not]
    change ¬ 9223372036854775808 ≤ _
    omega
  have fields : (ofFields false exponent fraction).exponentField * 4503599627370496 +
      (ofFields false exponent fraction).fractionField =
        exponent * 4503599627370496 + fraction := by
    simp only [exponentField, fractionField, word]
    change _ / 4503599627370496 % 2048 * 4503599627370496 + _ % 4503599627370496 = _
    omega
  rw [neg, positive]
  refine congrArg (fun n => (⟨UInt64.ofNat n⟩ : Binary64)) ?_
  simp only [Bool.not_false, if_true]
  change 9223372036854775808 + _ * 4503599627370496 + _ =
    9223372036854775808 + exponent * 4503599627370496 + fraction
  omega

theorem neg_zero : (zero false).neg = zero true := neg_ofFields (by unfold FitsFields; decide)

theorem neg_infinity : (infinity false).neg = infinity true :=
  neg_ofFields (by unfold FitsFields; decide)

theorem neg_pack {m : Nat} (bound : m ≤ Nat.pow 2 53) (scale : Int) :
    (pack false m scale).neg = pack true m scale := by
  have small : ∀ {m : Nat} (scale : Int), m < Nat.pow 2 53 →
      (if m < Nat.pow 2 52 then ofFields false 0 m
        else if 971 < scale then infinity false
        else ofFields false (scale + 1075).toNat (m - Nat.pow 2 52)).neg =
      if m < Nat.pow 2 52 then ofFields true 0 m
        else if 971 < scale then infinity true
        else ofFields true (scale + 1075).toNat (m - Nat.pow 2 52) := by
    intro m scale less
    have less : m < 9007199254740992 := less
    split
    · refine neg_ofFields ?_
      change 0 * 4503599627370496 + m < 9223372036854775808
      omega
    · split
      · exact neg_infinity
      · refine neg_ofFields ?_
        change _ * 4503599627370496 + (m - 4503599627370496) < 9223372036854775808
        omega
  unfold pack
  by_cases top : m = Nat.pow 2 53
  · rw [if_pos top]
    exact small (scale + 1) (by decide)
  · rw [if_neg top]
    exact small scale (Nat.lt_of_le_of_ne bound top)

/-! ### Quotients -/

def scaled (num den : Nat) (s : Int) : Nat × Nat :=
  if 0 ≤ s then (num, den * Nat.pow 2 s.toNat) else (num * Nat.pow 2 (-s).toNat, den)

theorem scaled_pos {num den : Nat} (positive : 0 < den) (s : Int) : 0 < (scaled num den s).2 := by
  unfold scaled
  split
  · exact Nat.mul_pos positive (Nat.two_pow_pos _)
  · exact positive

def Below (num den bound : Nat) (s : Int) : Prop :=
  (scaled num den s).1 < bound * (scaled num den s).2

variable {num den bound : Nat} {s : Int}

/-- Units may be taken as a quotient of any two powers of two. -/
theorem below_iff {p q : Nat} (unit : (q : Int) - p = s) :
    Below num den bound s ↔ num * 2 ^ p < bound * (den * 2 ^ q) := by
  unfold Below scaled
  split
  · obtain ⟨k, rfl⟩ : ∃ k : Nat, s = k := ⟨s.toNat, by omega⟩
    obtain rfl : q = k + p := by omega
    have apart : bound * (den * 2 ^ (k + p)) = bound * (den * 2 ^ k) * 2 ^ p := by
      rw [Nat.pow_add, ← Nat.mul_assoc den, ← Nat.mul_assoc bound]
    rw [apart]
    exact (Nat.mul_lt_mul_right (Nat.two_pow_pos p)).symm
  · obtain ⟨k, rfl⟩ : ∃ k : Nat, s = -k := ⟨(-s).toNat, by omega⟩
    obtain rfl : p = k + q := by omega
    have apart : num * 2 ^ (k + q) = num * 2 ^ k * 2 ^ q := by rw [Nat.pow_add, Nat.mul_assoc]
    rw [apart, ← Nat.mul_assoc bound, Int.neg_neg]
    exact (Nat.mul_lt_mul_right (Nat.two_pow_pos q)).symm

theorem Below.mono {s' : Int} (h : Below num den bound s) (coarser : s ≤ s') :
    Below num den bound s' := by
  obtain ⟨k, rfl⟩ : ∃ k : Nat, s' = s + k := ⟨(s' - s).toNat, by omega⟩
  obtain ⟨p, q, unit⟩ : ∃ p q : Nat, (q : Int) - p = s := ⟨(-s).toNat, s.toNat, by omega⟩
  have fine := (below_iff unit).mp h
  refine (below_iff (p := p) (q := q + k) (by omega)).mpr (Nat.lt_of_lt_of_le fine ?_)
  exact Nat.mul_le_mul_left _ (Nat.mul_le_mul_left _ (Nat.pow_le_pow_right (by decide) (by omega)))

theorem below_guess (positive : 0 < den) :
    Below num den (2 ^ 53) (num.log2 - den.log2 - 52) := by
  refine (below_iff (p := den.log2 + 52) (q := num.log2) (by omega)).mpr ?_
  calc num * 2 ^ (den.log2 + 52) < 2 ^ (num.log2 + 1) * 2 ^ (den.log2 + 52) :=
        Nat.mul_lt_mul_of_pos_right Nat.lt_log2_self (Nat.two_pow_pos _)
    _ = 2 ^ 53 * (2 ^ den.log2 * 2 ^ num.log2) := by
        rw [← Nat.pow_add, ← Nat.pow_add, ← Nat.pow_add]
        congr 1
        omega
    _ ≤ 2 ^ 53 * (den * 2 ^ num.log2) :=
        Nat.mul_le_mul_left _ (Nat.mul_le_mul_right _ (Nat.log2_self_le (by omega)))

theorem below_finer (h : Below num den (2 ^ 52) s) : Below num den (2 ^ 53) (s - 1) := by
  obtain ⟨p, q, unit⟩ : ∃ p q : Nat, (q : Int) - p = s := ⟨(-s).toNat, s.toNat, by omega⟩
  have coarse := (below_iff unit).mp h
  refine (below_iff (p := p + 1) (q := q) (by omega)).mpr ?_
  have twice : num * 2 ^ (p + 1) = 2 * (num * 2 ^ p) := by
    rw [Nat.pow_succ, ← Nat.mul_assoc, Nat.mul_comm]
  omega

theorem roundQuotient_le {n d : Nat} (h : n < Nat.pow 2 53 * d) :
    roundQuotient n d ≤ Nat.pow 2 53 := by
  have quotient : n / d < Nat.pow 2 53 := Nat.div_lt_of_lt_mul (by rwa [Nat.mul_comm] at h)
  simp only [roundQuotient]
  split
  · omega
  · split
    · omega
    · split <;> omega

/-- The sign of a rounded quotient is that of the quotient. -/
theorem neg_ofQuotient (num : Nat) (positive : 0 < den) :
    (ofQuotient false num den).neg = ofQuotient true num den := by
  by_cases none : num = 0
  · subst none
    exact neg_zero
  · have guess : Below num den (2 ^ 53) (num.log2 - den.log2 - 52) := below_guess positive
    simp only [ofQuotient, if_neg none]
    generalize (num.log2 : Int) - den.log2 - 52 = g at guess ⊢
    refine neg_pack (roundQuotient_le ?_) _
    have chosen : Below num den (2 ^ 53)
        (if (scaled num den g).1 / (scaled num den g).2 < Nat.pow 2 52 then g - 1 else g) := by
      split
      · rename_i low
        exact below_finer ((Nat.div_lt_iff_lt_mul (scaled_pos positive g)).mp low)
      · exact guess
    exact chosen.mono (Int.le_max_left _ _)

/-- The sign of a decimal number is that of its double. -/
theorem neg_ofDecimal (digits : Nat) (exponent : Int) :
    (ofDecimal false digits exponent).neg = ofDecimal true digits exponent := by
  unfold ofDecimal
  split
  · exact neg_zero
  · dsimp only
    split
    · exact neg_infinity
    · split
      · exact neg_zero
      · split
        · exact neg_ofQuotient _ (by decide)
        · exact neg_ofQuotient _ (Nat.pow_pos (by decide))

end SchemaChecks.Binary64
