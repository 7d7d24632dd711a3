import WorkflowGraph.Proofs.Rounding

/-!
# The shortest decimal reads back

A finite number is written with as few digits as its interval allows.  Seventeen digits are always
enough, so the search for them succeeds (`readsAs_shortest`), and whatever spells the same decimal
is read as the number (`ofDecimal_eq_of_shortest`).  Which decimals are read as a finite number at
all is said by `isFinite_ofDecimal_iff`.
-/

namespace WorkflowGraph.Number.Binary64

/-- The value of a number and a power of ten. -/
def decimalValue (number : Nat) (power : Int) : ℚ := number * 10 ^ power

/-! ## Decimals as quotients -/

theorem decimalQuotient_div (number : Nat) (power : Int) :
    ((decimalQuotient number power).1 : ℚ) / (decimalQuotient number power).2 =
      decimalValue number power := by
  cases power with
  | ofNat n => simp [decimalQuotient, decimalValue, powerOfTen]
  | negSucc n =>
      simp only [decimalQuotient, decimalValue, powerOfTen, Nat.pow_eq, zpow_negSucc]
      push_cast
      rw [div_eq_mul_inv]

theorem decimalQuotient_snd_pos (number : Nat) (power : Int) :
    0 < (decimalQuotient number power).2 := by
  cases power with
  | ofNat n => exact Nat.one_pos
  | negSucc n => exact Nat.pow_pos (by decide)

theorem decimalQuotient_fst_ne_zero {number : Nat} (h : number ≠ 0) (power : Int) :
    (decimalQuotient number power).1 ≠ 0 := by
  cases power with
  | ofNat n => exact Nat.mul_ne_zero h (Nat.ne_of_gt (Nat.pow_pos (by decide)))
  | negSucc n => exact h

theorem dividedByTen_div (num den : Nat) (power : Int) :
    ((dividedByTen num den power).1 : ℚ) / (dividedByTen num den power).2 =
      num / den / 10 ^ power := by
  cases power with
  | ofNat n =>
      simp only [dividedByTen, powerOfTen, Nat.pow_eq, Int.ofNat_eq_natCast, zpow_natCast]
      push_cast
      rw [div_mul_eq_div_div]
  | negSucc n =>
      simp only [dividedByTen, powerOfTen, Nat.pow_eq, zpow_negSucc, div_inv_eq_mul]
      push_cast
      ring

theorem dividedByTen_snd_pos {den : Nat} (hden : 0 < den) (num : Nat) (power : Int) :
    0 < (dividedByTen num den power).2 := by
  cases power with
  | ofNat n => exact Nat.mul_pos hden (Nat.pow_pos (by decide))
  | negSucc n => exact hden

/-- How many digits a decimal has before its point. -/
theorem decimalValue_mem {number : Nat} (h : number ≠ 0) (power : Int) :
    (10 : ℚ) ^ (((digits number).length : Int) + power - 1) ≤ decimalValue number power ∧
      decimalValue number power < 10 ^ (((digits number).length : Int) + power) := by
  have hlow : (10 : ℚ) ^ ((digits number).length - 1) ≤ number := by
    exact_mod_cast pow_length_digits_le h
  have hhigh : (number : ℚ) < 10 ^ (digits number).length := by
    exact_mod_cast lt_pow_length_digits number
  have hlength := length_digits_pos number
  have hunit : (0 : ℚ) < 10 ^ power := by positivity
  constructor
  · calc (10 : ℚ) ^ (((digits number).length : Int) + power - 1)
        = 10 ^ ((digits number).length - 1) * 10 ^ power := by
          rw [← zpow_natCast, ← zpow_add₀ (by norm_num)]
          congr 1
          omega
      _ ≤ decimalValue number power := mul_le_mul_of_nonneg_right hlow hunit.le
  · calc decimalValue number power < 10 ^ (digits number).length * 10 ^ power :=
          mul_lt_mul_of_pos_right hhigh hunit
      _ = 10 ^ (((digits number).length : Int) + power) := by
          rw [← zpow_natCast, ← zpow_add₀ (by norm_num)]

/-! ## The interval of a number -/

section Within

variable {low high number mantissa : Nat} {exponent power : Int}

/-- Two natural numbers as bounds of a quotient, compared without a division. -/
theorem within_iff (low high : Nat) {a b : Nat} (hb : 0 < b) :
    (low * b ≤ a ↔ (low : ℚ) ≤ a / b) ∧ (a ≤ high * b ↔ (a : ℚ) / b ≤ high) ∧
      (low * b < a ↔ (low : ℚ) < a / b) ∧ (a < high * b ↔ (a : ℚ) / b < high) := by
  have hb' : (0 : ℚ) < b := by exact_mod_cast hb
  rw [le_div_iff₀ hb', div_le_iff₀ hb', lt_div_iff₀ hb', div_lt_iff₀ hb']
  norm_cast

/-- The test for an interval compares rationals. -/
theorem decimalWithin_iff {closed : Bool} :
    decimalWithin low high exponent closed number power = true ↔
      (low : ℚ) * 2 ^ exponent ≤ decimalValue number power ∧
      decimalValue number power ≤ high * 2 ^ exponent ∧
      (closed = true ∨ ((low : ℚ) * 2 ^ exponent < decimalValue number power ∧
        decimalValue number power < high * 2 ^ exponent)) := by
  have hpos := scaled_snd_pos (decimalQuotient_snd_pos number power)
    (decimalQuotient number power).1 (-exponent)
  obtain ⟨hle, hge, hlt, hgt⟩ := within_iff low high hpos
  have hunit : (0 : ℚ) < 2 ^ exponent := by positivity
  rw [scaled_neg_div, decimalQuotient_div] at hle hge hlt hgt
  rw [le_div_iff₀ hunit] at hle
  rw [div_le_iff₀ hunit] at hge
  rw [lt_div_iff₀ hunit] at hlt
  rw [div_lt_iff₀ hunit] at hgt
  rw [decimalWithin]
  cases closed with
  | true => simp [hle, hge]
  | false =>
      simp only [Bool.false_eq_true, if_false, Bool.and_eq_true, decide_eq_true_eq, hlt, hgt,
        false_or]
      exact ⟨fun h => ⟨h.1.le, h.2.le, h⟩, fun h => h.2.2⟩

/-- **The test of a decimal is the one of its value.** -/
theorem readsBack_iff (hpos : 0 < mantissa) :
    readsBack mantissa exponent number power = true ↔
      ReadsAs mantissa exponent (decimalValue number power) := by
  have hreach := reachBelow_le mantissa exponent
  have hquarter : (2 : ℚ) ^ (exponent - 2) = 2 ^ exponent / 4 := by
    rw [zpow_sub₀ two_ne_zero]
    norm_num
  have hlow : ((4 * mantissa - reachBelow mantissa exponent : Nat) : ℚ) * 2 ^ (exponent - 2) =
      (mantissa - reachBelow mantissa exponent / 4) * 2 ^ exponent := by
    rw [Nat.cast_sub (by omega), hquarter]
    push_cast
    ring
  have hhigh : ((4 * mantissa + 2 : Nat) : ℚ) * 2 ^ (exponent - 2) =
      (mantissa + 1 / 2) * 2 ^ exponent := by
    rw [hquarter]
    push_cast
    ring
  rw [readsBack, decimalWithin_iff, hlow, hhigh, beq_iff_eq]
  exact ⟨fun h => ⟨h.1, h.2.1, h.2.2⟩, fun h => ⟨h.low, h.high, h.tie⟩⟩

theorem two_pow_lt_ten_pow : (2 : ℚ) ^ 1075 < 10 ^ 400 := by
  calc (2 : ℚ) ^ 1075 < 2 ^ (3 * 400) := pow_lt_pow_right₀ one_lt_two (by decide)
    _ = (2 ^ 3) ^ 400 := pow_mul _ _ _
    _ ≤ 10 ^ 400 := pow_le_pow_left₀ (by norm_num) (by norm_num) _

theorem past_greatest_lt : (2 : ℚ) ^ 53 * 2 ^ greatestExponent < 10 ^ (400 : Int) := by
  calc (2 : ℚ) ^ 53 * 2 ^ greatestExponent = 2 ^ (1024 : Int) := by
        rw [← zpow_natCast, ← zpow_add₀ two_ne_zero]
        rfl
    _ < 2 ^ (1075 : Int) := zpow_lt_zpow_right₀ one_lt_two (by decide)
    _ < 10 ^ (400 : Int) := two_pow_lt_ten_pow

/-- The values that are read as a finite number are far from the ends of the range. -/
theorem ReadsAs.mem {x : ℚ} (h : ReadsAs mantissa exponent x)
    (hcanonical : IsCanonical mantissa exponent) (hpos : 0 < mantissa) :
    (10 : ℚ) ^ (-400 : Int) < x ∧ x < 10 ^ (400 : Int) := by
  have hreach : (reachBelow mantissa exponent : ℚ) ≤ 2 := by
    exact_mod_cast reachBelow_le mantissa exponent
  have hone : (1 : ℚ) ≤ mantissa := by exact_mod_cast hpos
  have hbits : (mantissa : ℚ) + 1 ≤ 2 ^ 53 := by exact_mod_cast hcanonical.bits
  have hunit : (0 : ℚ) < 2 ^ exponent := by positivity
  have hleast : (2 : ℚ) ^ (-1074 : Int) ≤ 2 ^ exponent :=
    zpow_le_zpow_right₀ one_le_two hcanonical.least_le
  have hgreatest : (2 : ℚ) ^ exponent ≤ 2 ^ greatestExponent :=
    zpow_le_zpow_right₀ one_le_two hcanonical.le_greatest
  constructor
  · calc (10 : ℚ) ^ (-400 : Int) < 2 ^ (-1075 : Int) := by
          rw [zpow_neg, zpow_neg]
          exact inv_strictAnti₀ (by positivity) two_pow_lt_ten_pow
      _ = 1 / 2 * 2 ^ (-1074 : Int) := by
          rw [show (-1075 : Int) = -1074 - 1 by decide, zpow_sub_one₀ two_ne_zero]
          ring
      _ ≤ (mantissa - reachBelow mantissa exponent / 4) * 2 ^ exponent := by
          apply mul_le_mul (by linarith) hleast (by positivity) (by linarith)
      _ ≤ x := h.low
  · calc x ≤ (mantissa + 1 / 2) * 2 ^ exponent := h.high
      _ ≤ 2 ^ 53 * 2 ^ greatestExponent := by
          apply mul_le_mul (by linarith) hgreatest hunit.le (by positivity)
      _ < 10 ^ (400 : Int) := past_greatest_lt

/-- **A decimal in the interval of a number is read as the number.** -/
theorem ofDecimal_eq_of_readsAs (negative : Bool) (hcanonical : IsCanonical mantissa exponent)
    (hpos : 0 < mantissa) (hreads : ReadsAs mantissa exponent (decimalValue number power)) :
    ofDecimal negative number power = .finite negative mantissa exponent := by
  have hnumber : number ≠ 0 := by
    rintro rfl
    have := hreads.pos hpos
    simp [decimalValue] at this
  obtain ⟨hlow, hhigh⟩ := decimalValue_mem hnumber power
  obtain ⟨hmin, hmax⟩ := hreads.mem hcanonical hpos
  have hsmall : ¬((digits number).length : Int) + power < -400 := by
    intro h
    have : (10 : ℚ) ^ (((digits number).length : Int) + power) ≤ 10 ^ (-400 : Int) :=
      zpow_le_zpow_right₀ (by norm_num) h.le
    linarith
  have hlarge : ¬((digits number).length : Int) + power > 400 := by
    intro h
    have : (10 : ℚ) ^ (400 : Int) ≤ 10 ^ (((digits number).length : Int) + power - 1) :=
      zpow_le_zpow_right₀ (by norm_num) (by omega)
    linarith
  have hguard : ¬((decide (number = 0) ||
      decide (((digits number).length : Int) + power < -400)) = true) := by
    simp [hnumber, hsmall]
  rw [ofDecimal, if_neg hguard, if_neg hlarge]
  apply ofQuotient_eq_of_readsAs negative (decimalQuotient_fst_ne_zero hnumber power)
    (Nat.ne_of_gt (decimalQuotient_snd_pos number power)) hcanonical hpos
  rw [decimalQuotient_div]
  exact hreads

/-- A decimal that is read as a finite number is read canonically. -/
theorem isCanonical_of_ofDecimal {negative sign : Bool}
    (h : ofDecimal negative number power = .finite sign mantissa exponent) :
    IsCanonical mantissa exponent := by
  rw [ofDecimal] at h
  split at h
  · cases h
    exact isCanonical_zero
  · split at h
    · cases h
    · exact isCanonical_of_ofQuotient h

theorem infiniteFrom_mem : (10 : ℚ) ^ (-400 : Int) < infiniteFrom ∧ infiniteFrom < 10 ^ (400 : Int) := by
  have hunit : (1 : ℚ) ≤ 2 ^ greatestExponent := one_le_zpow₀ one_le_two (by decide)
  constructor
  · calc (10 : ℚ) ^ (-400 : Int) < 10 ^ (0 : Int) := zpow_lt_zpow_right₀ (by norm_num) (by decide)
      _ = 1 * 1 := by norm_num
      _ ≤ (2 ^ 53 - 1 / 2) * 2 ^ greatestExponent :=
          mul_le_mul (by norm_num) hunit (by norm_num) (by norm_num)
  · calc infiniteFrom < 2 ^ 53 * 2 ^ greatestExponent :=
          mul_lt_mul_of_pos_right (by norm_num) (by positivity)
      _ < 10 ^ (400 : Int) := past_greatest_lt

/-- **Which decimals are read as finite numbers.** -/
theorem isFinite_ofDecimal_iff (negative : Bool) (number : Nat) (power : Int) :
    (ofDecimal negative number power).isFinite = true ↔
      decimalValue number power < infiniteFrom := by
  obtain ⟨hmin, hmax⟩ := infiniteFrom_mem
  rw [ofDecimal]
  split
  · next hguard =>
      refine iff_of_true rfl ?_
      by_cases hnumber : number = 0
      · rw [hnumber]
        simpa [decimalValue] using infiniteFrom_pos
      · have hsmall : ((digits number).length : Int) + power < -400 := by simpa [hnumber] using hguard
        have hpow : (10 : ℚ) ^ (((digits number).length : Int) + power) ≤ 10 ^ (-400 : Int) :=
          zpow_le_zpow_right₀ (by norm_num) hsmall.le
        linarith [(decimalValue_mem hnumber power).2]
  · next hguard =>
      obtain ⟨hnumber, _⟩ : number ≠ 0 ∧ _ := by simpa using hguard
      split
      · next hlarge =>
          have hpow : (10 : ℚ) ^ (400 : Int) ≤ 10 ^ (((digits number).length : Int) + power - 1) :=
            zpow_le_zpow_right₀ (by norm_num) (by omega)
          refine iff_of_false nofun (not_lt.mpr ?_)
          linarith [(decimalValue_mem hnumber power).1]
      · rw [isFinite_ofQuotient_iff, decimalQuotient_div]

end Within

/-! ## The search for the digits -/

section Search

variable {mantissa : Nat} {exponent : Int}

/-- The value of a mantissa and an exponent. -/
def binaryValue (mantissa : Nat) (exponent : Int) : ℚ := mantissa * 2 ^ exponent

theorem binaryValue_pos (hpos : 0 < mantissa) (exponent : Int) :
    0 < binaryValue mantissa exponent := by
  have : (0 : ℚ) < mantissa := by exact_mod_cast hpos
  exact mul_pos this (by positivity)

/-- The multiple of a power of ten nearest to a number. -/
def nearest (mantissa : Nat) (exponent power : Int) : Nat :=
  if (quotientBy mantissa exponent power).2 then (quotientBy mantissa exponent power).1 + 1
  else (quotientBy mantissa exponent power).1

/-- The multiple of a power of ten next to a number on the other side. -/
def secondNearest (mantissa : Nat) (exponent power : Int) : Nat :=
  if (quotientBy mantissa exponent power).2 then (quotientBy mantissa exponent power).1
  else (quotientBy mantissa exponent power).1 + 1

/-- One more length: the two multiples are tried in order. -/
theorem shortestFrom_succ (mantissa : Nat) (exponent place : Int) (left count : Nat) :
    shortestFrom mantissa exponent place (left + 1) count =
      if readsBack mantissa exponent (nearest mantissa exponent (place - count + 1))
          (place - count + 1) then
        (nearest mantissa exponent (place - count + 1), place - count + 1)
      else if readsBack mantissa exponent (secondNearest mantissa exponent (place - count + 1))
          (place - count + 1) then
        (secondNearest mantissa exponent (place - count + 1), place - count + 1)
      else shortestFrom mantissa exponent place left (count + 1) := by
  rw [shortestFrom, nearest, secondNearest]
  generalize quotientBy mantissa exponent (place - count + 1) = quotient
  obtain ⟨below, half⟩ := quotient
  cases half <;> rfl

/-- The nearest multiple is at most half a step away. -/
theorem nearest_near (mantissa : Nat) (exponent power : Int) :
    (nearest mantissa exponent power - 1 / 2 : ℚ) ≤ binaryValue mantissa exponent / 10 ^ power ∧
      binaryValue mantissa exponent / 10 ^ power ≤ nearest mantissa exponent power + 1 / 2 := by
  let quotient := dividedByTen (scaled mantissa 1 exponent).1 (scaled mantissa 1 exponent).2 power
  have hpos : 0 < quotient.2 := dividedByTen_snd_pos (scaled_snd_pos Nat.one_pos _ _) _ _
  have hvalue : binaryValue mantissa exponent / 10 ^ power = (quotient.1 : ℚ) / quotient.2 := by
    rw [dividedByTen_div, scaled_div, Nat.cast_one, div_one, binaryValue]
  have hless : 2 * (quotient.1 % quotient.2) < quotient.2 ↔ _ := twice_rest_lt_iff hpos
  have hone : ((quotient.1 % quotient.2 : Nat) : ℚ) / quotient.2 < 1 := rest_div_lt_one hpos
  have hzero : (0 : ℚ) ≤ (quotient.1 % quotient.2 : Nat) / quotient.2 := by positivity
  have hquotient : quotientBy mantissa exponent power =
      (quotient.1 / quotient.2, decide (2 * (quotient.1 % quotient.2) ≥ quotient.2)) := rfl
  rw [hvalue, div_eq_whole_add_rest hpos, nearest, hquotient]
  by_cases hhalf : 2 * (quotient.1 % quotient.2) < quotient.2
  · have hpart := hless.mp hhalf
    rw [if_neg (by simpa using hhalf)]
    constructor <;> linarith
  · have hpart := not_lt.mp (mt hless.mpr hhalf)
    rw [if_pos (by simpa using hhalf)]
    push_cast
    constructor <;> linarith

/-- A quotient has about as many digits as its numerator has more than its denominator. -/
theorem pow_length_sub_le {top bottom : Nat} (htop : top ≠ 0) (hbottom : 0 < bottom) :
    (10 : ℚ) ^ (((digits top).length : Int) - (digits bottom).length - 1) ≤ top / bottom := by
  have hlow : (10 : ℚ) ^ ((digits top).length - 1) ≤ top := by
    exact_mod_cast pow_length_digits_le htop
  have hhigh : (bottom : ℚ) ≤ 10 ^ (digits bottom).length := by
    exact_mod_cast (lt_pow_length_digits bottom).le
  have hlength := length_digits_pos top
  rw [le_div_iff₀ (by exact_mod_cast hbottom)]
  calc (10 : ℚ) ^ (((digits top).length : Int) - (digits bottom).length - 1) * bottom
      ≤ 10 ^ (((digits top).length : Int) - (digits bottom).length - 1) *
          10 ^ (digits bottom).length := by gcongr
    _ = 10 ^ ((digits top).length - 1) := by
        rw [← zpow_natCast, ← zpow_natCast, ← zpow_add₀ (by norm_num)]
        congr 1
        omega
    _ ≤ top := hlow

/-- The leading digit stands at most at its place. -/
theorem pow_leadingPlace_le (hpos : 0 < mantissa) (exponent : Int) :
    (10 : ℚ) ^ leadingPlace mantissa exponent ≤ binaryValue mantissa exponent := by
  have hbottom := scaled_snd_pos Nat.one_pos mantissa exponent
  have hvalue := scaled_div mantissa 1 exponent
  rw [Nat.cast_one, div_one, ← binaryValue] at hvalue
  have htop : (scaled mantissa 1 exponent).1 ≠ 0 := by
    intro h
    rw [h, Nat.cast_zero, zero_div] at hvalue
    exact (binaryValue_pos hpos exponent).ne hvalue
  have hlow := pow_length_sub_le htop hbottom
  rw [hvalue] at hlow
  rw [leadingPlace]
  generalize ((digits (scaled mantissa 1 exponent).1).length : Int) -
    (digits (scaled mantissa 1 exponent).2).length = place at hlow ⊢
  split
  · exact hlow
  · next hnot =>
      have hleading := dividedByTen_snd_pos hbottom (scaled mantissa 1 exponent).1 place
      have hle := Nat.cast_le (α := ℚ) |>.mpr (Nat.not_lt.mp hnot)
      rwa [← one_le_div (by exact_mod_cast hleading), dividedByTen_div, hvalue,
        one_le_div (by positivity)] at hle

/-- With seventeen digits the step is smaller than the interval. -/
theorem mantissa_lt_reach (hcanonical : IsCanonical mantissa exponent) :
    mantissa < 5 * 10 ^ 15 * reachBelow mantissa exponent := by
  have hbits := hcanonical.bits
  rw [reachBelow]
  split
  · next h =>
      have hmantissa : mantissa = 2 ^ 52 := by
        simp only [Bool.and_eq_true, decide_eq_true_eq] at h
        exact h.1
      omega
  · omega

/-- **Seventeen digits are enough**: a multiple that near to a number is read as the number. -/
theorem readsAs_nearest (hcanonical : IsCanonical mantissa exponent) {place : Int}
    (hplace : (10 : ℚ) ^ place ≤ binaryValue mantissa exponent) :
    ReadsAs mantissa exponent
      (decimalValue (nearest mantissa exponent (place - 16)) (place - 16)) := by
  obtain ⟨hlow, hhigh⟩ := nearest_near mantissa exponent (place - 16)
  have hstep : (0 : ℚ) < 10 ^ (place - 16) := by positivity
  have hunit : (0 : ℚ) < 2 ^ exponent := by positivity
  rw [le_div_iff₀ hstep] at hlow
  rw [div_le_iff₀ hstep] at hhigh
  have hsmall : (10 : ℚ) ^ (place - 16) * 10 ^ 16 ≤ mantissa * 2 ^ exponent := by
    rw [← zpow_natCast, ← zpow_add₀ (by norm_num)]
    simpa [binaryValue] using hplace
  have hreach : (mantissa : ℚ) < 5 * 10 ^ 15 * reachBelow mantissa exponent := by
    exact_mod_cast mantissa_lt_reach hcanonical
  have htwo : (reachBelow mantissa exponent : ℚ) ≤ 2 := by
    exact_mod_cast reachBelow_le mantissa exponent
  -- half a step is less than the way to the nearer end of the interval
  have hhalf : (10 : ℚ) ^ (place - 16) / 2 < reachBelow mantissa exponent / 4 * 2 ^ exponent := by
    have hscaled := mul_lt_mul_of_pos_right hreach hunit
    linarith
  have hhalf' : (reachBelow mantissa exponent / 4 : ℚ) * 2 ^ exponent ≤ 1 / 2 * 2 ^ exponent :=
    mul_le_mul_of_nonneg_right (by linarith) hunit.le
  have hbelow : (mantissa - reachBelow mantissa exponent / 4 : ℚ) * 2 ^ exponent <
      decimalValue (nearest mantissa exponent (place - 16)) (place - 16) := by
    rw [binaryValue] at hhigh
    rw [decimalValue]
    linarith
  have habove : decimalValue (nearest mantissa exponent (place - 16)) (place - 16) <
      (mantissa + 1 / 2 : ℚ) * 2 ^ exponent := by
    rw [binaryValue] at hlow
    rw [decimalValue]
    linarith
  exact ⟨hbelow.le, habove.le, Or.inr ⟨hbelow, habove⟩⟩

/-- The search finds a decimal that is read as the number: with every length it ends or goes on,
and with seventeen digits it ends. -/
theorem readsAs_shortestFrom (hcanonical : IsCanonical mantissa exponent) (hpos : 0 < mantissa)
    {place : Int} (hplace : (10 : ℚ) ^ place ≤ binaryValue mantissa exponent) (left count : Nat)
    (hcount : count + left = 17) :
    ReadsAs mantissa exponent
      (decimalValue (shortestFrom mantissa exponent place (left + 1) count).1
        (shortestFrom mantissa exponent place (left + 1) count).2) := by
  induction left generalizing count with
  | zero =>
      have hpower : place - (count : Int) + 1 = place - 16 := by omega
      have hreads := readsAs_nearest hcanonical hplace
      rw [shortestFrom_succ, hpower, if_pos ((readsBack_iff hpos).mpr hreads)]
      exact hreads
  | succ left ih =>
      rw [shortestFrom_succ]
      split
      · next h => exact (readsBack_iff hpos).mp h
      · split
        · next h => exact (readsBack_iff hpos).mp h
        · exact ih (count + 1) (by omega)

theorem decimalValue_withoutZeros (count number : Nat) (power : Int) :
    decimalValue (withoutZeros count number power).1 (withoutZeros count number power).2 =
      decimalValue number power := by
  induction count generalizing number power with
  | zero => rfl
  | succ count ih =>
      rw [withoutZeros]
      split
      · next h =>
          have hten : number % 10 = 0 := by simpa using (Bool.and_eq_true_iff.mp h).2
          have hnumber : (number : ℚ) = 10 * (number / 10 : Nat) := by
            exact_mod_cast (by omega : number = 10 * (number / 10))
          rw [ih, decimalValue, decimalValue, zpow_add_one₀ (by norm_num), hnumber]
          ring
      · rfl

/-- **The shortest decimal of a number is read as the number.** -/
theorem readsAs_shortest (hcanonical : IsCanonical mantissa exponent) (hpos : 0 < mantissa) :
    ReadsAs mantissa exponent
      (decimalValue (shortest mantissa exponent).1 (shortest mantissa exponent).2) := by
  rw [shortest, if_neg (Nat.ne_of_gt hpos)]
  rw [decimalValue_withoutZeros]
  exact readsAs_shortestFrom hcanonical hpos (pow_leadingPlace_le hpos exponent) 16 1 rfl

/-- **Whatever spells the shortest decimal is read as the number.** -/
theorem ofDecimal_eq_of_shortest (negative : Bool) (hcanonical : IsCanonical mantissa exponent)
    (hpos : 0 < mantissa) {number : Nat} {power : Int}
    (hvalue : decimalValue number power =
      decimalValue (shortest mantissa exponent).1 (shortest mantissa exponent).2) :
    ofDecimal negative number power = .finite negative mantissa exponent := by
  have hreads := readsAs_shortest hcanonical hpos
  rw [← hvalue] at hreads
  exact ofDecimal_eq_of_readsAs negative hcanonical hpos hreads

end Search

end WorkflowGraph.Number.Binary64
