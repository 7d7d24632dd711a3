import Mathlib.Algebra.Order.Ring.Nat
import Mathlib.Tactic.Ring
import WorkflowGraph.Number.Digits

/-!
# Digits read back

The digits of a number spell the number (`ofDigits_digits`), there is no zero in front of others
(`digits_ne_zero_cons`), and their count places the number between two powers of ten.
-/

namespace WorkflowGraph.Number

/-- The character of a digit. -/
def digitChar (d : Nat) : Char := Char.ofNat ('0'.toNat + d)

theorem isDigit_digitChar : ∀ {d : Nat}, d < 10 → (digitChar d).isDigit = true := by decide

theorem toNat_digitChar : ∀ {d : Nat}, d < 10 → (digitChar d).toNat - '0'.toNat = d := by decide

theorem digitChar_ne_zero : ∀ {d : Nat}, d < 10 → d ≠ 0 → digitChar d ≠ '0' := by decide

theorem digitsOnto_succ (count n : Nat) (rest : List Char) :
    digitsOnto (count + 1) n rest =
      if n < 10 then digitChar (n % 10) :: rest
      else digitsOnto count (n / 10) (digitChar (n % 10) :: rest) := rfl

theorem digitsOnto_append (count n : Nat) (rest : List Char) :
    digitsOnto count n rest = digitsOnto count n [] ++ rest := by
  induction count generalizing n rest with
  | zero => rfl
  | succ count ih =>
      rw [digitsOnto_succ, digitsOnto_succ]
      split
      · rfl
      · rw [ih, ih _ [_], List.append_assoc, List.singleton_append]

/-- Any bound above the number is enough. -/
theorem digitsOnto_eq_of_lt {count other n : Nat} (hcount : n < count) (hother : n < other)
    (rest : List Char) : digitsOnto count n rest = digitsOnto other n rest := by
  induction count generalizing other n rest with
  | zero => omega
  | succ count ih =>
      obtain ⟨other, rfl⟩ : ∃ k, other = k + 1 := ⟨other - 1, by omega⟩
      rw [digitsOnto_succ, digitsOnto_succ]
      split
      · rfl
      · exact ih (by omega) (by omega) _

/-- The last digit is the rest modulo ten, and the digits before it are those of the quotient. -/
theorem digits_eq (n : Nat) :
    digits n = if n < 10 then [digitChar n] else digits (n / 10) ++ [digitChar (n % 10)] := by
  rw [digits, digitsOnto_succ]
  split
  · next h => rw [Nat.mod_eq_of_lt h]
  · rw [digitsOnto_append, digits,
      digitsOnto_eq_of_lt (show n / 10 < n by omega) (Nat.lt_succ_self _)]

/-- Induction over the digits of a number from its last one on. -/
theorem digits_induction {motive : Nat → List Char → Prop}
    (single : ∀ n, n < 10 → motive n [digitChar n])
    (more : ∀ n, 10 ≤ n → motive (n / 10) (digits (n / 10)) →
      motive n (digits (n / 10) ++ [digitChar (n % 10)]))
    (n : Nat) : motive n (digits n) := by
  induction n using Nat.strongRecOn with
  | ind n ih =>
      rw [digits_eq]
      split
      · next h => exact single n h
      · next h => exact more n (by omega) (ih (n / 10) (by omega))

theorem isDigit_of_mem_digits {n : Nat} {c : Char} : c ∈ digits n → c.isDigit = true := by
  induction n using digits_induction with
  | single n h =>
      intro hc
      rw [List.mem_singleton.mp hc]
      exact isDigit_digitChar h
  | more n _ ih =>
      intro hc
      rcases List.mem_append.mp hc with hc | hc
      · exact ih hc
      · rw [List.mem_singleton.mp hc]
        exact isDigit_digitChar (Nat.mod_lt _ (by decide))

theorem digits_ne_nil (n : Nat) : digits n ≠ [] := by
  rw [digits_eq]
  split <;> simp

theorem foldl_ofDigits (n : Nat) (text : List Char) :
    text.foldl (fun n c => 10 * n + (c.toNat - '0'.toNat)) n =
      n * 10 ^ text.length + ofDigits text := by
  induction text generalizing n with
  | nil => simp [ofDigits]
  | cons c text ih =>
      have hcons : ofDigits (c :: text) =
          text.foldl (fun n c => 10 * n + (c.toNat - '0'.toNat)) (10 * 0 + (c.toNat - '0'.toNat)) :=
        rfl
      rw [hcons, List.foldl_cons, ih, ih, List.length_cons]
      ring

/-- Digits in front count as many places more as there are digits behind them. -/
theorem ofDigits_append (front back : List Char) :
    ofDigits (front ++ back) = ofDigits front * 10 ^ back.length + ofDigits back := by
  rw [ofDigits, List.foldl_append, foldl_ofDigits]
  rfl

@[simp] theorem ofDigits_replicate_zero (count : Nat) :
    ofDigits (List.replicate count '0') = 0 := by
  induction count with
  | zero => rfl
  | succ count ih =>
      rw [List.replicate_succ, ← List.singleton_append, ofDigits_append, ih]
      exact Nat.zero_mul _

/-- **The digits of a number spell it.** -/
@[simp] theorem ofDigits_digits (n : Nat) : ofDigits (digits n) = n := by
  induction n using digits_induction with
  | single n h => simpa [ofDigits] using toNat_digitChar h
  | more n h ih =>
      have hlast : ofDigits [digitChar (n % 10)] = n % 10 := by
        simpa [ofDigits] using toNat_digitChar (Nat.mod_lt n (by decide))
      rw [ofDigits_append, ih, hlast, List.length_singleton, Nat.pow_one]
      omega

/-- The first digit of a number other than zero is not zero. -/
theorem head_digits_ne {n : Nat} (hn : n ≠ 0) : ∃ c rest, digits n = c :: rest ∧ c ≠ '0' := by
  induction n using digits_induction with
  | single n h => exact ⟨_, [], rfl, digitChar_ne_zero h hn⟩
  | more n h ih =>
      obtain ⟨c, rest, heq, hc⟩ := ih (by omega)
      exact ⟨c, _, by rw [heq, List.cons_append], hc⟩

/-- No zero stands in front of other digits. -/
theorem digits_ne_zero_cons (n : Nat) (c : Char) (rest : List Char) :
    digits n ≠ '0' :: c :: rest := by
  intro heq
  rcases Nat.eq_zero_or_pos n with rfl | hpos
  · simp [digits_eq] at heq
  · obtain ⟨first, others, hfirst, hne⟩ := head_digits_ne (Nat.ne_of_gt hpos)
    rw [heq] at hfirst
    exact hne (List.cons.inj hfirst).1.symm

theorem length_digits_pos (n : Nat) : 0 < (digits n).length :=
  List.length_pos_iff.mpr (digits_ne_nil n)

theorem lt_pow_length_digits (n : Nat) : n < 10 ^ (digits n).length := by
  induction n using digits_induction with
  | single n h => simpa using h
  | more n h ih =>
      rw [List.length_append, List.length_singleton, Nat.pow_succ]
      omega

theorem pow_length_digits_le {n : Nat} (hn : n ≠ 0) : 10 ^ ((digits n).length - 1) ≤ n := by
  induction n using digits_induction with
  | single n h => simpa using Nat.one_le_iff_ne_zero.mpr hn
  | more n h ih =>
      have hlow := ih (by omega)
      have hsucc : (digits (n / 10)).length = (digits (n / 10)).length - 1 + 1 :=
        (Nat.sub_add_cancel (length_digits_pos _)).symm
      rw [List.length_append, List.length_singleton, Nat.add_sub_cancel, hsucc, Nat.pow_succ]
      omega

end WorkflowGraph.Number
