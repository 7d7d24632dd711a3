import Mathlib.Algebra.Order.Field.Power
import Mathlib.Data.Rat.Cast.Order
import Mathlib.Tactic.FieldSimp
import Mathlib.Tactic.Linarith
import Mathlib.Tactic.NormNum
import Mathlib.Tactic.Positivity
import Mathlib.Tactic.Ring
import WorkflowGraph.Number.Binary64
import WorkflowGraph.Proofs.Digits

/-!
# Rounding to the nearest number

Every finite number has an interval of rationals that are nearest to it (`ReadsAs`), and a
quotient in that interval is rounded to the number (`ofQuotient_eq_of_readsAs`).  In the other
direction rounding never leaves the canonical forms (`isCanonical_of_ofQuotient`), and
`isFinite_ofQuotient_iff` says which quotients are rounded to a finite number.
-/

namespace WorkflowGraph.Number.Binary64

def isFinite : Binary64 → Bool
  | .finite _ _ _ => true
  | .infinite _ => false

/-- The one form in which a finite number is written. -/
structure IsCanonical (mantissa : Nat) (exponent : Int) : Prop where
  bits : mantissa < 2 ^ 53
  least_le : leastExponent ≤ exponent
  le_greatest : exponent ≤ greatestExponent
  full : 2 ^ 52 ≤ mantissa ∨ exponent = leastExponent

instance (mantissa : Nat) (exponent : Int) : Decidable (IsCanonical mantissa exponent) :=
  decidable_of_iff
    (mantissa < 2 ^ 53 ∧ leastExponent ≤ exponent ∧ exponent ≤ greatestExponent ∧
      (2 ^ 52 ≤ mantissa ∨ exponent = leastExponent))
    ⟨fun h => ⟨h.1, h.2.1, h.2.2.1, h.2.2.2⟩,
      fun h => ⟨h.bits, h.least_le, h.le_greatest, h.full⟩⟩

/-- The rationals nearest to a number; those in the middle of two numbers belong to the even
one. -/
structure ReadsAs (mantissa : Nat) (exponent : Int) (x : ℚ) : Prop where
  low : (mantissa - reachBelow mantissa exponent / 4 : ℚ) * 2 ^ exponent ≤ x
  high : x ≤ (mantissa + 1 / 2) * 2 ^ exponent
  tie : mantissa % 2 = 0 ∨
    ((mantissa - reachBelow mantissa exponent / 4 : ℚ) * 2 ^ exponent < x ∧
      x < (mantissa + 1 / 2) * 2 ^ exponent)

/-! ## Quotients -/

theorem scaled_div (num den : Nat) (shift : Int) :
    ((scaled num den shift).1 : ℚ) / (scaled num den shift).2 = num / den * 2 ^ shift := by
  cases shift with
  | ofNat n =>
      simp only [scaled, powerOfTwo, Nat.pow_eq, Int.ofNat_eq_natCast, zpow_natCast]
      push_cast
      ring
  | negSucc n =>
      simp only [scaled, powerOfTwo, Nat.pow_eq, zpow_negSucc]
      push_cast
      rw [div_mul_eq_div_div, div_eq_mul_inv _ ((2 : ℚ) ^ (n + 1))]

theorem scaled_snd_pos {den : Nat} (hden : 0 < den) (num : Nat) (shift : Int) :
    0 < (scaled num den shift).2 := by
  cases shift with
  | ofNat n => exact hden
  | negSucc n => exact Nat.mul_pos hden (Nat.pow_pos (by decide))

section Quotient

variable {num den : Nat}

/-- A quotient is its whole part and the part that the rest makes. -/
theorem div_eq_whole_add_rest (hden : 0 < den) :
    (num : ℚ) / den = (num / den : Nat) + (num % den : Nat) / den := by
  have hden' : (den : ℚ) ≠ 0 := by exact_mod_cast Nat.ne_of_gt hden
  have hsplit : (num : ℚ) = den * (num / den : Nat) + (num % den : Nat) := by
    exact_mod_cast (Nat.div_add_mod num den).symm
  rw [hsplit, add_div, mul_div_cancel_left₀ _ hden']

theorem rest_div_lt_one (hden : 0 < den) : ((num % den : Nat) : ℚ) / den < 1 := by
  rw [div_lt_one (by exact_mod_cast hden)]
  exact_mod_cast Nat.mod_lt num hden

theorem twice_rest_lt_iff (hden : 0 < den) :
    2 * (num % den) < den ↔ ((num % den : Nat) : ℚ) / den < 1 / 2 := by
  rw [div_lt_iff₀ (by exact_mod_cast hden), ← Nat.cast_lt (α := ℚ)]
  push_cast
  constructor <;> intro h <;> linarith

theorem lt_twice_rest_iff (hden : 0 < den) :
    den < 2 * (num % den) ↔ 1 / 2 < ((num % den : Nat) : ℚ) / den := by
  rw [lt_div_iff₀ (by exact_mod_cast hden), ← Nat.cast_lt (α := ℚ)]
  push_cast
  constructor <;> intro h <;> linarith

/-- A quotient is rounded to the whole number at most a half away, to the even one of two. -/
theorem roundDiv_eq {q : Nat} (hden : 0 < den)
    (hlow : (q : ℚ) - 1 / 2 ≤ num / den) (hhigh : (num : ℚ) / den ≤ q + 1 / 2)
    (htie : q % 2 = 0 ∨ ((q : ℚ) - 1 / 2 < num / den ∧ (num : ℚ) / den < q + 1 / 2)) :
    roundDiv num den = q := by
  have hbelow : 2 * (num % den) < den ↔ _ := twice_rest_lt_iff hden
  have habove : den < 2 * (num % den) ↔ _ := lt_twice_rest_iff hden
  have hone : ((num % den : Nat) : ℚ) / den < 1 := rest_div_lt_one hden
  have hzero : (0 : ℚ) ≤ (num % den : Nat) / den := by positivity
  rw [div_eq_whole_add_rest hden] at hlow hhigh htie
  rw [roundDiv]
  generalize ((num % den : Nat) : ℚ) / den = part at *
  generalize num / den = whole at *
  generalize num % den = rest at *
  -- only the two whole numbers next to the quotient are near enough
  have hnext : q = whole ∨ q = whole + 1 := by
    have hle : whole < q + 1 := by exact_mod_cast (by linarith : (whole : ℚ) < q + 1)
    have hge : q < whole + 2 := by exact_mod_cast (by linarith : (q : ℚ) < whole + 2)
    omega
  rcases hnext with rfl | rfl
  · have hnot : ¬den < 2 * rest := fun h => by linarith [habove.mp h]
    by_cases hlt : 2 * rest < den
    · rw [if_pos hlt]
    · have heven : q % 2 = 0 :=
        htie.resolve_right fun h => hlt (hbelow.mpr (by linarith [h.2]))
      rw [if_neg hlt, if_neg hnot, heven, Nat.add_zero]
  · push_cast at hlow hhigh htie
    have hnot : ¬2 * rest < den := fun h => by linarith [hbelow.mp h]
    by_cases hgt : 2 * rest > den
    · rw [if_neg hnot, if_pos hgt]
    · have heven : (whole + 1) % 2 = 0 :=
        htie.resolve_right fun h => hgt (habove.mpr (by linarith [h.1]))
      rw [if_neg hnot, if_neg hgt]
      omega

/-- The exponent for which the quotient has 53 bits. -/
def IsExponentOf (exponent : Int) (x : ℚ) : Prop :=
  2 ^ 52 * 2 ^ exponent ≤ x ∧ x < 2 ^ 53 * 2 ^ exponent

/-- The exponents of two numbers are in the order of the numbers. -/
theorem IsExponentOf.le_of_lt {exponent other : Int} {x : ℚ} (h : IsExponentOf exponent x)
    (hlt : x < 2 ^ 53 * 2 ^ other) : exponent ≤ other := by
  have hpow : (2 : ℚ) ^ exponent < 2 ^ (other + 1) := by
    rw [zpow_add_one₀ two_ne_zero]
    linarith [h.1]
  exact Int.lt_add_one_iff.mp ((zpow_lt_zpow_iff_right₀ one_lt_two).mp hpow)

theorem IsExponentOf.eq {exponent other : Int} {x : ℚ} (h : IsExponentOf exponent x)
    (h' : IsExponentOf other x) : exponent = other :=
  le_antisymm (h.le_of_lt h'.2) (h'.le_of_lt h.2)

/-- A quotient of natural numbers lies between the powers of two that their lengths give. -/
theorem div_mem_of_log2 (hnum : num ≠ 0) (hden : den ≠ 0) :
    (2 : ℚ) ^ ((Nat.log2 num : Int) - Nat.log2 den - 1) < num / den ∧
      (num : ℚ) / den < 2 ^ ((Nat.log2 num : Int) - Nat.log2 den + 1) := by
  have hpos : (0 : ℚ) < den := by exact_mod_cast Nat.pos_of_ne_zero hden
  have hnumlow : (2 : ℚ) ^ Nat.log2 num ≤ num := by exact_mod_cast Nat.log2_self_le hnum
  have hnumhigh : (num : ℚ) < 2 ^ (Nat.log2 num + 1) := by exact_mod_cast Nat.lt_log2_self
  have hdenlow : (2 : ℚ) ^ Nat.log2 den ≤ den := by exact_mod_cast Nat.log2_self_le hden
  have hdenhigh : (den : ℚ) < 2 ^ (Nat.log2 den + 1) := by exact_mod_cast Nat.lt_log2_self
  constructor
  · rw [lt_div_iff₀ hpos]
    calc (2 : ℚ) ^ ((Nat.log2 num : Int) - Nat.log2 den - 1) * den
        < 2 ^ ((Nat.log2 num : Int) - Nat.log2 den - 1) * 2 ^ (Nat.log2 den + 1) := by gcongr
      _ = 2 ^ Nat.log2 num := by
          rw [← zpow_natCast, ← zpow_natCast, ← zpow_add₀ two_ne_zero]
          congr 1
          push_cast
          ring
      _ ≤ num := hnumlow
  · rw [div_lt_iff₀ hpos]
    calc (num : ℚ) < 2 ^ (Nat.log2 num + 1) := hnumhigh
      _ = 2 ^ ((Nat.log2 num : Int) - Nat.log2 den + 1) * 2 ^ Nat.log2 den := by
          rw [← zpow_natCast, ← zpow_natCast, ← zpow_add₀ two_ne_zero]
          congr 1
          push_cast
          ring
      _ ≤ 2 ^ ((Nat.log2 num : Int) - Nat.log2 den + 1) * den := by gcongr

theorem isExponentOf_quotientExponent (hnum : num ≠ 0) (hden : den ≠ 0) :
    IsExponentOf (quotientExponent num den) ((num : ℚ) / den) := by
  obtain ⟨hlow, hhigh⟩ := div_mem_of_log2 hnum hden
  have hbottom := scaled_snd_pos (Nat.pos_of_ne_zero hden) num
  unfold quotientExponent
  generalize hguess : (Nat.log2 num : Int) - (Nat.log2 den : Int) - 52 = guess
  have htwo : (0 : ℚ) < 2 ^ guess := by positivity
  have hlow' : 2 ^ 51 * (2 : ℚ) ^ guess < num / den := by
    rw [← zpow_natCast, ← zpow_add₀ two_ne_zero]
    convert hlow using 2
    push_cast
    omega
  have hhigh' : (num : ℚ) / den < 2 ^ 53 * 2 ^ guess := by
    rw [← zpow_natCast, ← zpow_add₀ two_ne_zero]
    convert hhigh using 2
    push_cast
    omega
  -- the test compares the quotient, in units of the guess, with the least number of 53 bits
  have htest : (scaled num den (-guess)).1 < (scaled num den (-guess)).2 * powerOfTwo 52 ↔
      (num : ℚ) / den < 2 ^ 52 * 2 ^ guess := by
    have hpos : (0 : ℚ) < (scaled num den (-guess)).2 := by exact_mod_cast hbottom _
    rw [← Nat.cast_lt (α := ℚ), Nat.cast_mul, ← div_lt_iff₀' hpos, scaled_div, zpow_neg,
      ← div_eq_mul_inv, div_lt_iff₀ htwo, show ((powerOfTwo 52 : Nat) : ℚ) = 2 ^ 52 by
        norm_num [powerOfTwo]]
  dsimp only
  split
  · next h =>
      rw [htest] at h
      constructor <;> rw [zpow_sub_one₀ two_ne_zero] <;> linarith
  · next h =>
      rw [htest, not_lt] at h
      exact ⟨h, hhigh'⟩

/-- Rounding in terms of the exponent. -/
theorem ofQuotient_eq_canonical (negative : Bool) (hnum : num ≠ 0) (hden : den ≠ 0)
    {exponent : Int} (hexponent : max leastExponent (quotientExponent num den) = exponent) :
    ofQuotient negative num den =
      canonical negative
        (roundDiv (scaled num den (-exponent)).1 (scaled num den (-exponent)).2) exponent := by
  have hsome : ¬((decide (num = 0) || decide (den = 0)) = true) := by simp [hnum, hden]
  subst hexponent
  exact if_neg hsome

/-- The quotient in units of an exponent. -/
theorem scaled_neg_div (num den : Nat) (exponent : Int) :
    ((scaled num den (-exponent)).1 : ℚ) / (scaled num den (-exponent)).2 =
      num / den / 2 ^ exponent := by
  rw [scaled_div, zpow_neg, ← div_eq_mul_inv]

/-- The exponent of a rounded quotient: the least one, or the one with 53 bits. -/
theorem max_quotientExponent_eq (hnum : num ≠ 0) (hden : den ≠ 0) {exponent : Int}
    (hleast : leastExponent ≤ exponent) (hhigh : (num : ℚ) / den < 2 ^ 53 * 2 ^ exponent)
    (hlow : 2 ^ 52 * 2 ^ exponent ≤ (num : ℚ) / den ∨ exponent = leastExponent) :
    max leastExponent (quotientExponent num den) = exponent := by
  have hexponent := isExponentOf_quotientExponent hnum hden
  rcases hlow with hlow | rfl
  · rw [hexponent.eq ⟨hlow, hhigh⟩, max_eq_right hleast]
  · exact max_eq_left (hexponent.le_of_lt hhigh)

end Quotient

/-! ## The interval of a number -/

section Canonical

variable {mantissa : Nat} {exponent : Int} (negative : Bool)

/-- Without a carry only the range of the exponent matters. -/
theorem canonical_of_lt (hbits : mantissa < 2 ^ 53) :
    canonical negative mantissa exponent =
      if mantissa = 0 then .finite negative 0 leastExponent
      else if exponent > greatestExponent then .infinite negative
      else .finite negative mantissa exponent := by
  have hcarry : mantissa ≠ powerOfTwo 53 := Nat.ne_of_lt hbits
  rw [canonical, if_neg hcarry]

/-- A carry gives the next power of two. -/
theorem canonical_carry :
    canonical negative (2 ^ 53) exponent =
      if exponent + 1 > greatestExponent then .infinite negative
      else .finite negative (2 ^ 52) (exponent + 1) := by
  have hcarry : 2 ^ 53 = powerOfTwo 53 := rfl
  have hpos : powerOfTwo 52 ≠ 0 := by decide
  rw [canonical, if_pos hcarry]
  exact if_neg hpos

end Canonical

section Interval

variable {num den mantissa : Nat} {exponent : Int}

theorem reachBelow_le (mantissa : Nat) (exponent : Int) : reachBelow mantissa exponent ≤ 2 := by
  rw [reachBelow]
  split <;> decide

theorem ReadsAs.pos {x : ℚ} (h : ReadsAs mantissa exponent x) (hpos : 0 < mantissa) : 0 < x := by
  have hreach : (reachBelow mantissa exponent : ℚ) ≤ 2 := by
    exact_mod_cast reachBelow_le mantissa exponent
  have hone : (1 : ℚ) ≤ mantissa := by exact_mod_cast hpos
  have hunit : (0 : ℚ) < 2 ^ exponent := by positivity
  exact lt_of_lt_of_le (mul_pos (by linarith) hunit) h.low

/-- A quotient with the exponent of the number is rounded to it. -/
theorem ofQuotient_eq_of_exponent (negative : Bool) (hnum : num ≠ 0) (hden : den ≠ 0)
    (hcanonical : IsCanonical mantissa exponent) (hpos : 0 < mantissa)
    (hreads : ReadsAs mantissa exponent ((num : ℚ) / den))
    (hexponent : max leastExponent (quotientExponent num den) = exponent) :
    ofQuotient negative num den = .finite negative mantissa exponent := by
  have hbottom := scaled_snd_pos (Nat.pos_of_ne_zero hden) num
  have hunit : (0 : ℚ) < 2 ^ exponent := by positivity
  have hreach : (reachBelow mantissa exponent : ℚ) ≤ 2 := by
    exact_mod_cast reachBelow_le mantissa exponent
  have hhalf : ((mantissa : ℚ) - 1 / 2) * 2 ^ exponent ≤
      (mantissa - reachBelow mantissa exponent / 4) * 2 ^ exponent :=
    mul_le_mul_of_nonneg_right (by linarith) hunit.le
  rw [ofQuotient_eq_canonical negative hnum hden hexponent, roundDiv_eq (hbottom _)]
  · rw [canonical_of_lt negative hcanonical.bits, if_neg (Nat.ne_of_gt hpos),
      if_neg (not_lt.mpr hcanonical.le_greatest)]
  · rw [scaled_neg_div, le_div_iff₀ hunit]
    exact hhalf.trans hreads.low
  · rw [scaled_neg_div, div_le_iff₀ hunit]
    exact hreads.high
  · rw [scaled_neg_div, lt_div_iff₀ hunit, div_lt_iff₀ hunit]
    exact hreads.tie.imp_right fun h => ⟨hhalf.trans_lt h.1, h.2⟩

/-- A quotient just below a power of two is rounded to it by a carry. -/
theorem ofQuotient_eq_of_carry (negative : Bool) (hnum : num ≠ 0) (hden : den ≠ 0)
    (hleast : leastExponent < exponent) (hgreatest : exponent ≤ greatestExponent)
    (hlow : (2 ^ 52 - 1 / 4) * 2 ^ exponent ≤ (num : ℚ) / den)
    (hhigh : (num : ℚ) / den < 2 ^ 52 * 2 ^ exponent) :
    ofQuotient negative num den = .finite negative (2 ^ 52) exponent := by
  have hbottom := scaled_snd_pos (Nat.pos_of_ne_zero hden) num
  have hunit : (0 : ℚ) < 2 ^ (exponent - 1) := by positivity
  have hdouble : (2 : ℚ) ^ exponent = 2 * 2 ^ (exponent - 1) := by
    rw [zpow_sub_one₀ two_ne_zero]
    ring
  rw [hdouble] at hlow hhigh
  have hexponent := max_quotientExponent_eq hnum hden (Int.le_sub_one_of_lt hleast)
    (by linarith) (Or.inl (by linarith))
  have hround : roundDiv (scaled num den (-(exponent - 1))).1 (scaled num den (-(exponent - 1))).2 =
      2 ^ 53 := by
    apply roundDiv_eq (hbottom _)
    · rw [scaled_neg_div, le_div_iff₀ hunit]
      push_cast
      linarith
    · rw [scaled_neg_div, div_le_iff₀ hunit]
      push_cast
      linarith
    · exact Or.inl (by decide)
  rw [ofQuotient_eq_canonical negative hnum hden hexponent, hround, canonical_carry,
    Int.sub_add_cancel, if_neg (not_lt.mpr hgreatest)]

/-- **A quotient in the interval of a number is rounded to the number.** -/
theorem ofQuotient_eq_of_readsAs (negative : Bool) (hnum : num ≠ 0) (hden : den ≠ 0)
    (hcanonical : IsCanonical mantissa exponent) (hpos : 0 < mantissa)
    (hreads : ReadsAs mantissa exponent ((num : ℚ) / den)) :
    ofQuotient negative num den = .finite negative mantissa exponent := by
  have hunit : (0 : ℚ) < 2 ^ exponent := by positivity
  by_cases hsame : 2 ^ 52 * 2 ^ exponent ≤ (num : ℚ) / den ∨ exponent = leastExponent
  · have hbits : (mantissa : ℚ) + 1 ≤ 2 ^ 53 := by exact_mod_cast hcanonical.bits
    have hbelow : (num : ℚ) / den < 2 ^ 53 * 2 ^ exponent :=
      hreads.high.trans_lt (mul_lt_mul_of_pos_right (by linarith) hunit)
    exact ofQuotient_eq_of_exponent negative hnum hden hcanonical hpos hreads
      (max_quotientExponent_eq hnum hden hcanonical.least_le hbelow hsame)
  · -- the quotient has one bit less, so it lies below the least number with this exponent
    obtain ⟨hless, hexponent⟩ := not_or.mp hsame
    rw [not_le] at hless
    have hreach : (reachBelow mantissa exponent : ℚ) ≤ 2 := by
      exact_mod_cast reachBelow_le mantissa exponent
    have hlt : (mantissa : ℚ) < 2 ^ 52 + 1 := by
      have := lt_of_mul_lt_mul_right (hreads.low.trans_lt hless) hunit.le
      linarith
    have hmantissa : mantissa = 2 ^ 52 := by
      have hlt' : mantissa < 2 ^ 52 + 1 := by exact_mod_cast hlt
      have hfull := hcanonical.full.resolve_right hexponent
      omega
    have hleast : leastExponent < exponent :=
      lt_of_le_of_ne hcanonical.least_le fun h => hexponent h.symm
    have hone : reachBelow mantissa exponent = 1 := by
      rw [reachBelow, hmantissa]
      simp [powerOfTwo, hleast]
    have hlow := hreads.low
    rw [hone, hmantissa] at hlow
    push_cast at hlow
    rw [hmantissa]
    exact ofQuotient_eq_of_carry negative hnum hden hleast hcanonical.le_greatest hlow hless

end Interval

/-! ## Rounding stays canonical -/

section Closed

variable {num den : Nat}

theorem isCanonical_zero : IsCanonical 0 leastExponent :=
  ⟨by decide, le_refl _, by decide, Or.inr rfl⟩

theorem le_roundDiv {bound : Nat} (hden : 0 < den) (h : (bound : ℚ) ≤ num / den) :
    bound ≤ roundDiv num den := by
  have hle : bound ≤ num / den := by
    rw [le_div_iff₀ (by exact_mod_cast hden)] at h
    exact (Nat.le_div_iff_mul_le hden).mpr (by exact_mod_cast h)
  rw [roundDiv]
  split
  · exact hle
  · split <;> omega

theorem roundDiv_le {bound : Nat} (hden : 0 < den) (h : (num : ℚ) / den < bound) :
    roundDiv num den ≤ bound := by
  have hlt : num / den < bound := by
    rw [div_lt_iff₀ (by exact_mod_cast hden)] at h
    exact (Nat.div_lt_iff_lt_mul hden).mpr (by exact_mod_cast h)
  rw [roundDiv]
  split
  · exact hlt.le
  · split <;> omega

/-- What the mantissa of a rounded quotient can be. -/
theorem roundDiv_scaled_mem (hnum : num ≠ 0) (hden : den ≠ 0) {exponent : Int}
    (hexponent : max leastExponent (quotientExponent num den) = exponent) :
    roundDiv (scaled num den (-exponent)).1 (scaled num den (-exponent)).2 ≤ 2 ^ 53 ∧
      (2 ^ 52 ≤ roundDiv (scaled num den (-exponent)).1 (scaled num den (-exponent)).2 ∨
        exponent = leastExponent) := by
  have hunit : (0 : ℚ) < 2 ^ exponent := by positivity
  have hbottom := scaled_snd_pos (Nat.pos_of_ne_zero hden) num (-exponent)
  obtain ⟨hlow, hhigh⟩ := isExponentOf_quotientExponent hnum hden
  constructor
  · apply roundDiv_le hbottom
    have hle : (2 : ℚ) ^ quotientExponent num den ≤ 2 ^ exponent :=
      zpow_le_zpow_right₀ one_le_two (hexponent ▸ le_max_right _ _)
    rw [scaled_neg_div, div_lt_iff₀ hunit]
    push_cast
    linarith
  · rcases le_total (quotientExponent num den) leastExponent with hle | hle
    · exact Or.inr (by rw [← hexponent, max_eq_left hle])
    · rw [max_eq_right hle] at hexponent
      subst hexponent
      refine Or.inl (le_roundDiv hbottom ?_)
      rw [scaled_neg_div, le_div_iff₀ hunit]
      exact_mod_cast hlow

/-- What `canonical` makes of a mantissa that may have carried. -/
theorem isCanonical_of_canonical {negative sign : Bool} {mantissa found : Nat}
    {exponent place : Int} (hbits : mantissa ≤ 2 ^ 53) (hleast : leastExponent ≤ exponent)
    (hfull : 2 ^ 52 ≤ mantissa ∨ exponent = leastExponent)
    (h : canonical negative mantissa exponent = .finite sign found place) :
    IsCanonical found place := by
  rcases Nat.lt_or_eq_of_le hbits with hlt | rfl
  · rw [canonical_of_lt negative hlt] at h
    split at h
    · cases h
      exact isCanonical_zero
    · split at h
      · cases h
      · next hrange =>
          cases h
          exact ⟨hlt, hleast, not_lt.mp hrange, hfull⟩
  · rw [canonical_carry] at h
    split at h
    · cases h
    · next hrange =>
        cases h
        exact ⟨by decide, by omega, not_lt.mp hrange, Or.inl le_rfl⟩

/-- A rounded quotient is canonical. -/
theorem isCanonical_of_ofQuotient {negative sign : Bool} {mantissa : Nat} {exponent : Int}
    (h : ofQuotient negative num den = .finite sign mantissa exponent) :
    IsCanonical mantissa exponent := by
  by_cases hnum : num = 0
  · rw [ofQuotient, if_pos (by simp [hnum])] at h
    cases h
    exact isCanonical_zero
  by_cases hden : den = 0
  · rw [ofQuotient, if_pos (by simp [hden])] at h
    cases h
    exact isCanonical_zero
  rw [ofQuotient_eq_canonical negative hnum hden rfl] at h
  obtain ⟨hbits, hfull⟩ := roundDiv_scaled_mem hnum hden rfl
  exact isCanonical_of_canonical hbits (le_max_left _ _) hfull h

theorem roundDiv_lt {bound : Nat} (hden : 0 < den) (h : (num : ℚ) / den < bound - 1 / 2) :
    roundDiv num den < bound := by
  have hsplit : (num : ℚ) / den = (num / den : Nat) + (num % den : Nat) / den :=
    div_eq_whole_add_rest hden
  have hwhole : num / den < bound := by
    have hrest : (0 : ℚ) ≤ (num % den : Nat) / den := by positivity
    have hlt : ((num / den : Nat) : ℚ) < bound := by linarith
    exact_mod_cast hlt
  rw [roundDiv]
  split
  · exact hwhole
  · next hrest =>
      -- with a rest of a half or more the whole part is further below the bound
      rw [twice_rest_lt_iff hden, not_lt] at hrest
      have hlt : ((num / den : Nat) : ℚ) + 1 < bound := by linarith
      have hnext : num / den + 1 < bound := by exact_mod_cast hlt
      split <;> omega

/-- The least value that is rounded to an infinite number: half a unit above the greatest finite
one. -/
def infiniteFrom : ℚ := (2 ^ 53 - 1 / 2) * 2 ^ greatestExponent

theorem infiniteFrom_pos : 0 < infiniteFrom :=
  mul_pos (by norm_num) (by positivity)

theorem canonical_eq_infinite_of_lt {negative : Bool} {mantissa : Nat} {exponent : Int}
    (hpos : mantissa ≠ 0) (hbits : mantissa ≤ 2 ^ 53) (hexponent : greatestExponent < exponent) :
    canonical negative mantissa exponent = .infinite negative := by
  rcases Nat.lt_or_eq_of_le hbits with hlt | rfl
  · rw [canonical_of_lt negative hlt, if_neg hpos, if_pos hexponent]
  · rw [canonical_carry, if_pos (by omega)]

theorem canonical_ne_infinite {negative sign : Bool} {mantissa : Nat} {exponent : Int}
    (hbits : mantissa ≤ 2 ^ 53) (hexponent : exponent ≤ greatestExponent)
    (hcarry : exponent = greatestExponent → mantissa < 2 ^ 53) :
    canonical negative mantissa exponent ≠ .infinite sign := by
  rcases Nat.lt_or_eq_of_le hbits with hlt | rfl
  · rw [canonical_of_lt negative hlt, if_neg (not_lt.mpr hexponent)]
    split <;> nofun
  · have hless : exponent ≠ greatestExponent := fun h => Nat.lt_irrefl _ (hcarry h)
    rw [canonical_carry, if_neg (by omega)]
    nofun

section Range

variable (negative : Bool) (hnum : num ≠ 0) (hden : den ≠ 0)

include hnum hden

/-- Past the greatest exponent everything is infinite. -/
theorem ofQuotient_eq_infinite_of_le (h : 2 ^ 53 * 2 ^ greatestExponent ≤ (num : ℚ) / den) :
    ofQuotient negative num den = .infinite negative := by
  obtain ⟨_, hhigh⟩ := isExponentOf_quotientExponent hnum hden
  have hpow : (2 : ℚ) ^ greatestExponent < 2 ^ quotientExponent num den := by linarith
  have hexponent : greatestExponent < quotientExponent num den :=
    (zpow_lt_zpow_iff_right₀ one_lt_two).mp hpow
  have hmax : greatestExponent < max leastExponent (quotientExponent num den) :=
    lt_max_of_lt_right hexponent
  obtain ⟨hbits, hfull⟩ := roundDiv_scaled_mem hnum hden rfl
  have hpos := hfull.resolve_right fun hleast => absurd (hleast ▸ hmax) (by decide)
  rw [ofQuotient_eq_canonical negative hnum hden rfl]
  exact canonical_eq_infinite_of_lt (by omega) hbits hmax

/-- Half a unit below that a quotient is rounded up to a power of two past the greatest exponent. -/
theorem ofQuotient_eq_infinite_of_carry (hlow : infiniteFrom ≤ (num : ℚ) / den)
    (hhigh : (num : ℚ) / den < 2 ^ 53 * 2 ^ greatestExponent) :
    ofQuotient negative num den = .infinite negative := by
  have hunit : (0 : ℚ) < 2 ^ greatestExponent := by positivity
  have hbottom := scaled_snd_pos (Nat.pos_of_ne_zero hden) num (-greatestExponent)
  have hfull : 2 ^ 52 * 2 ^ greatestExponent ≤ (num : ℚ) / den :=
    le_trans (mul_le_mul_of_nonneg_right (by norm_num) hunit.le) hlow
  have hexponent := max_quotientExponent_eq hnum hden (by decide) hhigh (Or.inl hfull)
  have hround : roundDiv (scaled num den (-greatestExponent)).1 (scaled num den (-greatestExponent)).2 =
      2 ^ 53 := by
    apply roundDiv_eq hbottom
    · rw [scaled_neg_div, le_div_iff₀ hunit]
      push_cast
      exact hlow
    · rw [scaled_neg_div, div_le_iff₀ hunit]
      push_cast
      linarith
    · exact Or.inl (by decide)
  rw [ofQuotient_eq_canonical negative hnum hden hexponent, hround, canonical_carry,
    if_pos (by omega)]

/-- Everything else is finite. -/
theorem ofQuotient_ne_infinite {sign : Bool} (h : (num : ℚ) / den < infiniteFrom) :
    ofQuotient negative num den ≠ .infinite sign := by
  have hunit : (0 : ℚ) < 2 ^ greatestExponent := by positivity
  have hbelow : (num : ℚ) / den < 2 ^ 53 * 2 ^ greatestExponent :=
    h.trans (mul_lt_mul_of_pos_right (by norm_num) hunit)
  have hexponent : max leastExponent (quotientExponent num den) ≤ greatestExponent :=
    max_le (by decide) ((isExponentOf_quotientExponent hnum hden).le_of_lt hbelow)
  obtain ⟨hbits, _⟩ := roundDiv_scaled_mem hnum hden rfl
  rw [ofQuotient_eq_canonical negative hnum hden rfl]
  refine canonical_ne_infinite hbits hexponent fun hgreatest => ?_
  rw [hgreatest]
  apply roundDiv_lt (scaled_snd_pos (Nat.pos_of_ne_zero hden) num _)
  rw [scaled_neg_div, div_lt_iff₀ hunit]
  push_cast
  exact h

end Range

/-- **What is rounded to a finite number.** -/
theorem isFinite_ofQuotient_iff (negative : Bool) (num den : Nat) :
    (ofQuotient negative num den).isFinite = true ↔ (num : ℚ) / den < infiniteFrom := by
  by_cases hzero : num = 0 ∨ den = 0
  · have hround : ofQuotient negative num den = .finite negative 0 leastExponent :=
      if_pos (by simpa using hzero)
    have hvalue : (num : ℚ) / den = 0 := by
      rcases hzero with rfl | rfl <;> simp
    rw [hround, hvalue]
    exact iff_of_true rfl infiniteFrom_pos
  obtain ⟨hnum, hden⟩ := not_or.mp hzero
  rcases lt_or_ge ((num : ℚ) / den) infiniteFrom with hless | hfrom
  · refine iff_of_true ?_ hless
    cases hround : ofQuotient negative num den with
    | finite sign mantissa exponent => rfl
    | infinite sign => exact absurd hround (ofQuotient_ne_infinite negative hnum hden hless)
  · have hround : ofQuotient negative num den = .infinite negative := by
      rcases lt_or_ge ((num : ℚ) / den) (2 ^ 53 * 2 ^ greatestExponent) with hbelow | habove
      · exact ofQuotient_eq_infinite_of_carry negative hnum hden hfrom hbelow
      · exact ofQuotient_eq_infinite_of_le negative hnum hden habove
    rw [hround]
    exact iff_of_false nofun (not_lt.mpr hfrom)

/-- A quotient of a number below `2 ^ 64` is far from the infinite numbers. -/
theorem isFinite_ofQuotient_of_lt (negative : Bool) (hnum : num < 2 ^ 64) (den : Nat) :
    (ofQuotient negative num den).isFinite = true := by
  rw [isFinite_ofQuotient_iff]
  have hle : (num : ℚ) / den ≤ num := by
    rcases Nat.eq_zero_or_pos den with rfl | hpos
    · simp
    · exact div_le_self (Nat.cast_nonneg num) (by exact_mod_cast hpos)
  have hunit : (2 : ℚ) ^ (12 : Int) ≤ 2 ^ greatestExponent :=
    zpow_le_zpow_right₀ one_le_two (by decide)
  calc (num : ℚ) / den ≤ num := hle
    _ < 2 ^ 64 := by exact_mod_cast hnum
    _ = 2 ^ 52 * 2 ^ (12 : Int) := by norm_num
    _ ≤ (2 ^ 53 - 1 / 2) * 2 ^ greatestExponent :=
        mul_le_mul (by norm_num) hunit (by positivity) (by norm_num)

end Closed

end WorkflowGraph.Number.Binary64
