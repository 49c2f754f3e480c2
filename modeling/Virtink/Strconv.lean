import Virtink.Framework.Numeral

/-! # Numbers in Texts

    What the components of this repository use of the package `strconv`, with
    the texts of its errors. A number that was written in base 16 is read in any
    greater base without an error, and as itself in base 16
    (`parseInt_toDigits`).
-/

namespace Virtink

open Numeral

/-! ### Readers -/

/-- The value of a digit in a base up to 36. -/
def digitValue (c : Char) : Option Nat :=
  if '0' ≤ c ∧ c ≤ '9' then some (c.toNat - '0'.toNat)
  else if 'a' ≤ c ∧ c ≤ 'z' then some (c.toNat - 'a'.toNat + 10)
  else if 'A' ≤ c ∧ c ≤ 'Z' then some (c.toNat - 'A'.toNat + 10)
  else none

/-- The loop of `strconv.ParseUint`; `n` is what the digits before are worth. -/
def scanDigits (base max : Nat) : Nat → List Char → Except String Nat
  | n, [] => .ok n
  | n, c :: rest =>
      match digitValue c with
      | none => .error "invalid syntax"
      | some d =>
          if base ≤ d then .error "invalid syntax"
          else if max < n * base + d then .error "value out of range"
          else scanDigits base max (n * base + d) rest

/-- The sign of a number and its digits. -/
def splitSign : List Char → Bool × List Char
  | '-' :: rest => (true, rest)
  | '+' :: rest => (false, rest)
  | l => (false, l)

/-- `strconv.ParseInt`. -/
def parseInt (s : String) (base bitSize : Nat) : Except String Int :=
  let failed e := .error ("strconv.ParseInt: parsing \"" ++ s ++ "\": " ++ e)
  let (neg, digits) := splitSign s.toList
  if digits = [] then failed "invalid syntax"
  else
    match scanDigits base (2 ^ bitSize - 1) 0 digits with
    | .error e => failed e
    | .ok n =>
        if neg then
          if 2 ^ (bitSize - 1) < n then failed "value out of range" else .ok (-n)
        else if 2 ^ (bitSize - 1) ≤ n then failed "value out of range"
        else .ok n

/-- `strconv.Atoi`, which is `ParseInt` in base 10 and 64 bits under its own
    name. -/
def atoi (s : String) : Except String Int :=
  let failed e := .error ("strconv.Atoi: parsing \"" ++ s ++ "\": " ++ e)
  let (neg, digits) := splitSign s.toList
  if digits = [] then failed "invalid syntax"
  else
    match scanDigits 10 (2 ^ 64 - 1) 0 digits with
    | .error e => failed e
    | .ok n =>
        if neg then
          if 2 ^ 63 < n then failed "value out of range" else .ok (-n)
        else if 2 ^ 63 ≤ n then failed "value out of range"
        else .ok n

theorem atoi_eq_ok {s : String} {n : Int} : atoi s = .ok n ↔ parseInt s 10 64 = .ok n := by
  unfold atoi parseInt
  dsimp only
  split
  · simp
  · split
    · simp
    · split
      · split <;> simp_all
      · split <;> simp_all

/-! ### Accepted Texts -/

/-- A text without a minus sign has none in front. -/
theorem splitSign_of_not_mem {l : List Char} (h : '-' ∉ l) : (splitSign l).1 = false := by
  unfold splitSign
  split
  · exact absurd List.mem_cons_self h
  · rfl
  · rfl

/-- A number that is written without a sign is not negative. -/
theorem parseInt_nonneg {s : String} {base bitSize : Nat} {n : Int}
    (h : parseInt s base bitSize = .ok n) (hs : '-' ∉ s.toList) : 0 ≤ n := by
  have hneg := splitSign_of_not_mem hs
  unfold parseInt at h
  dsimp only at h
  rw [hneg] at h
  split at h
  · cases h
  · split at h
    · cases h
    · rw [if_neg (by decide)] at h
      split at h
      · cases h
      · cases h
        exact Int.natCast_nonneg _

/-- What is read fits the width. -/
theorem parseInt_lt {s : String} {base bitSize : Nat} {n : Int}
    (h : parseInt s base bitSize = .ok n) : n < 2 ^ (bitSize - 1) := by
  unfold parseInt at h
  dsimp only at h
  split at h
  · cases h
  · split at h
    · cases h
    · split at h
      · split at h
        · cases h
        · cases h
          have hpos : (0 : Int) < 2 ^ (bitSize - 1) := by positivity
          omega
      · split at h
        · cases h
        · next hrange =>
          cases h
          have hlt := Nat.lt_of_not_le hrange
          exact_mod_cast hlt

/-- All characters that were read are digits. -/
theorem digits_of_scanDigits {base max n m : Nat} {l : List Char}
    (h : scanDigits base max n l = .ok m) : ∀ c ∈ l, (digitValue c).isSome := by
  induction l generalizing n with
  | nil => simp
  | cons c rest ih =>
    simp only [scanDigits] at h
    split at h
    · cases h
    · next d hd =>
      split at h
      · cases h
      · split at h
        · cases h
        · intro x hx
          rcases List.mem_cons.mp hx with rfl | hx
          · simp [hd]
          · exact ih h x hx

/-- All characters of a number are signs or digits. -/
theorem digits_of_parseInt {s : String} {base bitSize : Nat} {n : Int}
    (h : parseInt s base bitSize = .ok n) :
    ∀ c ∈ s.toList, c = '-' ∨ c = '+' ∨ (digitValue c).isSome := by
  have hscan : ∃ m, scanDigits base (2 ^ bitSize - 1) 0 (splitSign s.toList).2 = .ok m := by
    unfold parseInt at h
    dsimp only at h
    split at h
    · cases h
    · split at h
      · cases h
      · next m hm => exact ⟨m, hm⟩
  obtain ⟨m, hm⟩ := hscan
  have hdigits := digits_of_scanDigits hm
  intro c hc
  unfold splitSign at hdigits
  split at hdigits
  · next rest hs =>
    rw [hs] at hc
    rcases List.mem_cons.mp hc with rfl | hc
    · exact .inl rfl
    · exact .inr (.inr (hdigits c hc))
  · next rest hs =>
    rw [hs] at hc
    rcases List.mem_cons.mp hc with rfl | hc
    · exact .inr (.inl rfl)
    · exact .inr (.inr (hdigits c hc))
  · exact .inr (.inr (hdigits c hc))

/-! ### Written in Base 16 -/

theorem digitValue_digitChar {d : Nat} (h : d < 16) : digitValue d.digitChar = some d := by
  interval_cases d <;> decide

/-- The characters of a number in base 16. -/
theorem mem_toDigits {n : Nat} {c : Char} (h : c ∈ Nat.toDigits 16 n) :
    ∃ d < 16, c = Nat.digitChar d := by
  induction n using Nat.strong_induction_on with
  | _ n ih =>
    by_cases hn : n < 16
    · rw [Nat.toDigits_of_lt_base hn, List.mem_singleton] at h
      exact ⟨n, hn, h⟩
    · rw [Nat.toDigits_of_base_le (by decide) (by omega), List.mem_append,
        List.mem_singleton] at h
      rcases h with h | h
      · exact ih (n / 16) (by omega) h
      · exact ⟨n % 16, by omega, h⟩

/-- Characters other than digits are not in a number. -/
theorem not_mem_toDigits {c : Char} (hc : digitValue c = none) (n : Nat) :
    c ∉ Nat.toDigits 16 n := by
  intro h
  obtain ⟨d, hd, rfl⟩ := mem_toDigits h
  rw [digitValue_digitChar hd] at hc
  cases hc

theorem scanDigits_append {base max n m : Nat} {l l' : List Char}
    (h : scanDigits base max n l = .ok m) :
    scanDigits base max n (l ++ l') = scanDigits base max m l' := by
  induction l generalizing n with
  | nil =>
    cases h
    rfl
  | cons c rest ih =>
    simp only [scanDigits] at h
    simp only [List.cons_append, scanDigits]
    split at h
    · cases h
    · split at h
      · cases h
      · split at h
        · cases h
        · next hbase hmax => rw [if_neg hbase, if_neg hmax, ih h]

theorem scanDigits_singleton {base max n d : Nat} (hd : d < 16) (hbase : 16 ≤ base)
    (hmax : n * base + d ≤ max) : scanDigits base max n [d.digitChar] = .ok (n * base + d) := by
  simp only [scanDigits, digitValue_digitChar hd]
  rw [if_neg (by omega), if_neg (by omega)]

/-- **Scan**: what the digits of a number are worth in a base that has them. -/
theorem scanDigits_toDigits {base max : Nat} (hbase : 16 ≤ base) (n : Nat)
    (hmax : reread 16 base n ≤ max) :
    scanDigits base max 0 (Nat.toDigits 16 n) = .ok (reread 16 base n) := by
  induction n using Nat.strong_induction_on with
  | _ n ih =>
    by_cases hn : n < 16
    · rw [reread_of_lt hn] at hmax ⊢
      rw [Nat.toDigits_of_lt_base hn, scanDigits_singleton hn hbase (by omega), Nat.zero_mul,
        Nat.zero_add]
    · have hstep : reread 16 base n = reread 16 base (n / 16) * base + n % 16 := by
        rw [reread_step (by decide) n, Nat.mul_comm]
      have hle : reread 16 base (n / 16) ≤ reread 16 base (n / 16) * base :=
        Nat.le_mul_of_pos_right _ (by omega)
      rw [Nat.toDigits_of_base_le (by decide) (by omega),
        scanDigits_append (ih (n / 16) (by omega) (by omega)),
        scanDigits_singleton (Nat.mod_lt _ (by decide)) hbase (by omega), hstep]

/-- A number in base 16 has no sign. -/
theorem splitSign_toDigits (n : Nat) :
    splitSign (Nat.toDigits 16 n) = (false, Nat.toDigits 16 n) := by
  unfold splitSign
  split
  · next heq => exact absurd (heq ▸ List.mem_cons_self) (not_mem_toDigits (by decide) n)
  · next heq => exact absurd (heq ▸ List.mem_cons_self) (not_mem_toDigits (by decide) n)
  · rfl

/-- **Read back**: a number in base 16, read in a base that has its digits. -/
theorem parseInt_toDigits {base bitSize : Nat} (hbase : 16 ≤ base) (n : Nat)
    (h : reread 16 base n < 2 ^ (bitSize - 1)) :
    parseInt (String.ofList (Nat.toDigits 16 n)) base bitSize = .ok (reread 16 base n : Int) := by
  have hpow : 2 ^ (bitSize - 1) ≤ 2 ^ bitSize := Nat.pow_le_pow_right (by decide) (by omega)
  have hscan : scanDigits base (2 ^ bitSize - 1) 0 (Nat.toDigits 16 n) =
      .ok (reread 16 base n) := scanDigits_toDigits hbase n (by omega)
  unfold parseInt
  dsimp only
  rw [String.toList_ofList, splitSign_toDigits, if_neg Nat.toDigits_ne_nil, hscan]
  dsimp only
  rw [if_neg (by decide), if_neg (by omega)]

end Virtink
