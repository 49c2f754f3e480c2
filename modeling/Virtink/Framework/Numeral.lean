import Mathlib.Data.Nat.Digits.Lemmas

/-! # Digits Read in Another Base

    A number is written in one base and its digits are read in another one.
    Read in the base they were written in, they are worth the number; read in a
    greater base they are worth more, unless there is only one digit.
-/

namespace Numeral

/-- What the digits of `n` in base `written` are worth in base `read`. -/
def reread (written read n : Nat) : Nat := Nat.ofDigits read (Nat.digits written n)

section reread
variable {written read n : Nat}

theorem reread_self (base n : Nat) : reread base base n = n := Nat.ofDigits_digits base n

/-- The last digit of a number and those before it. -/
theorem reread_step (hbase : 1 < written) (n : Nat) :
    reread written read n = read * reread written read (n / written) + n % written := by
  by_cases hn : n = 0
  · subst hn
    simp [reread]
  · rw [reread, Nat.digits_def' hbase (Nat.pos_of_ne_zero hn), Nat.ofDigits_cons, Nat.add_comm]
    rfl

/-- A single digit is worth the same in all bases. -/
theorem reread_of_lt (h : n < written) : reread written read n = n := by
  by_cases hn : n = 0
  · subst hn
    simp [reread]
  · simp [reread, Nat.digits_of_lt written n hn h]

theorem le_reread (hbase : 1 < written) (h : written ≤ read) (n : Nat) :
    n ≤ reread written read n := by
  induction n using Nat.strong_induction_on with
  | _ n ih =>
    by_cases hn : n < written
    · exact (reread_of_lt hn).ge
    · have hdiv : n / written < n := Nat.div_lt_self (by omega) hbase
      calc n = written * (n / written) + n % written := (Nat.div_add_mod n written).symm
        _ ≤ read * reread written read (n / written) + n % written :=
            Nat.add_le_add_right (Nat.mul_le_mul h (ih _ hdiv)) _
        _ = reread written read n := (reread_step hbase n).symm

/-- **A greater base**: exactly the numbers with one digit are read correctly. -/
theorem reread_eq_iff (hbase : 1 < written) (h : written < read) :
    reread written read n = n ↔ n < written := by
  constructor
  · intro heq
    by_contra hn
    -- some digit stands before the last one, and it counts for more
    have hpos : 0 < n / written := Nat.div_pos (by omega) (by omega)
    have hlt : n < reread written read n := by
      calc n = written * (n / written) + n % written := (Nat.div_add_mod n written).symm
        _ < read * (n / written) + n % written :=
            Nat.add_lt_add_right (Nat.mul_lt_mul_of_pos_right h hpos) _
        _ ≤ read * reread written read (n / written) + n % written :=
            Nat.add_le_add_right (Nat.mul_le_mul_left _ (le_reread hbase h.le _)) _
        _ = reread written read n := (reread_step hbase n).symm
    omega
  · exact reread_of_lt

/-- `k` digits stay `k` digits. -/
theorem reread_lt_pow (hbase : 1 < written) (h : written ≤ read) {k : Nat} (hn : n < written ^ k) :
    reread written read n < read ^ k := by
  induction k generalizing n with
  | zero =>
    have hzero : n = 0 := by simpa using hn
    subst hzero
    simp [reread]
  | succ k ih =>
    have hdiv : n / written < written ^ k := by
      rw [Nat.div_lt_iff_lt_mul (by omega), ← Nat.pow_succ]
      exact hn
    have hmod : n % written < read := Nat.lt_of_lt_of_le (Nat.mod_lt _ (by omega)) h
    calc reread written read n
        = read * reread written read (n / written) + n % written := reread_step hbase n
      _ < read * reread written read (n / written) + read := by omega
      _ = read * (reread written read (n / written) + 1) := (Nat.mul_succ _ _).symm
      _ ≤ read * read ^ k := Nat.mul_le_mul_left _ (ih hdiv)
      _ = read ^ (k + 1) := (Nat.pow_succ').symm

end reread

end Numeral
