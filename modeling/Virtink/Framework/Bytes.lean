import Mathlib.Data.Nat.Digits.Lemmas
import Mathlib.Data.Set.Card

/-! # Numbers in Bytes

    Byte strings as numbers, the most significant byte first. Adding one byte by
    byte, with a carry, adds one to the number (`value_increment`). A mask whose
    first bits are set cuts the number down to a multiple of a power of two
    (`value_land_prefixMask`), so the strings that agree under such a mask are
    the numbers of one block (`ncard_block`).
-/

namespace Bytes

/-! ### Values -/

/-- The number, the most significant byte first. -/
def value (l : List UInt8) : Nat := Nat.ofDigits 256 (l.reverse.map UInt8.toNat)

theorem value_append (l m : List UInt8) :
    value (l ++ m) = value l * 256 ^ m.length + value m := by
  simp only [value, List.reverse_append, List.map_append, Nat.ofDigits_append, List.length_map,
    List.length_reverse]
  ring

theorem value_cons (b : UInt8) (l : List UInt8) :
    value (b :: l) = b.toNat * 256 ^ l.length + value l := by
  have hsingle : value [b] = b.toNat := by simp [value]
  rw [← hsingle]
  exact value_append [b] l

theorem value_lt (l : List UInt8) : value l < 256 ^ l.length := by
  have hlt := Nat.ofDigits_lt_base_pow_length (b := 256) (l := l.reverse.map UInt8.toNat)
    (by decide) (by simp only [List.mem_map]; rintro x ⟨b, -, rfl⟩; exact b.toNat_lt)
  simpa [value] using hlt

/-- The number determines the bytes. -/
theorem value_injective {l m : List UInt8} (hlength : l.length = m.length)
    (h : value l = value m) : l = m := by
  induction l generalizing m with
  | nil => exact (List.eq_nil_of_length_eq_zero hlength.symm).symm
  | cons b l ih =>
    cases m with
    | nil => cases hlength
    | cons c m =>
      have hrest : l.length = m.length := Nat.succ.inj hlength
      rw [value_cons, value_cons, hrest] at h
      have hl : value l < 256 ^ m.length := hrest ▸ value_lt l
      have hm := value_lt m
      -- quotient and remainder of one number
      have hquot : b.toNat = c.toNat := by
        have hdiv := congrArg (· / 256 ^ m.length) h
        simpa [Nat.add_comm, Nat.add_mul_div_right, Nat.div_eq_of_lt hl, Nat.div_eq_of_lt hm]
          using hdiv
      rw [hquot] at h
      rw [UInt8.toNat_inj.mp hquot, ih hrest (Nat.add_left_cancel h)]

/-- Every number that fits is the number of a byte string. -/
theorem exists_value (n : Nat) {v : Nat} (hv : v < 256 ^ n) :
    ∃ l : List UInt8, l.length = n ∧ value l = v := by
  induction n generalizing v with
  | zero =>
    have hzero : v = 0 := by simpa using hv
    exact ⟨[], rfl, hzero.symm⟩
  | succ n ih =>
    obtain ⟨l, hlength, hl⟩ := ih (v := v % 256 ^ n) (Nat.mod_lt _ (by positivity))
    have hdiv : v / 256 ^ n < 256 := by
      rw [Nat.div_lt_iff_lt_mul (by positivity), ← Nat.pow_succ']
      exact hv
    have hbyte : (UInt8.ofNat (v / 256 ^ n)).toNat = v / 256 ^ n := by
      rw [UInt8.toNat_ofNat']
      exact Nat.mod_eq_of_lt hdiv
    refine ⟨UInt8.ofNat (v / 256 ^ n) :: l, by simp [hlength], ?_⟩
    rw [value_cons, hl, hlength, hbyte]
    exact Nat.div_add_mod' v (256 ^ n)

theorem value_take (l : List UInt8) (k : Nat) :
    value (l.take k) = value l / 256 ^ (l.length - k) := by
  have hsplit : value l = value (l.take k) * 256 ^ (l.length - k) + value (l.drop k) := by
    rw [← List.length_drop, ← value_append, List.take_append_drop]
  have hdrop : value (l.drop k) < 256 ^ (l.length - k) := by
    rw [← List.length_drop]
    exact value_lt _
  rw [hsplit, Nat.add_comm, Nat.add_mul_div_right _ _ (by positivity), Nat.div_eq_of_lt hdrop,
    Nat.zero_add]

/-- The first bytes do not change as long as the number stays in their block. -/
theorem take_eq_of_value {l m : List UInt8} (hlength : l.length = m.length) {k : Nat}
    (h : value l / 256 ^ (m.length - k) = value m / 256 ^ (m.length - k)) :
    l.take k = m.take k := by
  apply value_injective
  · rw [List.length_take, List.length_take, hlength]
  · rw [value_take, value_take, hlength, h]

/-! ### Adding One -/

/-- Add one, the least significant byte first: go on as long as a byte wraps. -/
def carry : List UInt8 → List UInt8
  | [] => []
  | b :: l => if b + 1 ≠ 0 then (b + 1) :: l else (b + 1) :: carry l

/-- Add one, the most significant byte first. -/
def increment (l : List UInt8) : List UInt8 := (carry l.reverse).reverse

theorem length_carry (l : List UInt8) : (carry l).length = l.length := by
  induction l with
  | nil => rfl
  | cons b l ih =>
    simp only [carry]
    split
    · rfl
    · simp [ih]

@[simp] theorem length_increment (l : List UInt8) : (increment l).length = l.length := by
  simp [increment, length_carry]

/-- A byte wraps exactly if it is the last one. -/
theorem add_one_eq_zero {b : UInt8} : b + 1 = 0 ↔ b.toNat = 255 := by
  have hb := b.toNat_lt
  rw [← UInt8.toNat_inj, UInt8.toNat_add]
  simp only [UInt8.toNat_one, UInt8.toNat_zero]
  omega

theorem ofDigits_carry (l : List UInt8) :
    Nat.ofDigits 256 ((carry l).map UInt8.toNat) =
      (Nat.ofDigits 256 (l.map UInt8.toNat) + 1) % 256 ^ l.length := by
  induction l with
  | nil => simp [carry]
  | cons b l ih =>
    have hrest : Nat.ofDigits 256 (l.map UInt8.toNat) < 256 ^ l.length := by
      have hlt := value_lt l.reverse
      simpa [value] using hlt
    have hb := b.toNat_lt
    simp only [carry]
    split
    · next hne =>
      have hb' : b.toNat ≠ 255 := fun heq => hne (add_one_eq_zero.mpr heq)
      have hadd : (b + 1).toNat = b.toNat + 1 := by
        rw [UInt8.toNat_add, UInt8.toNat_one]
        omega
      simp only [List.map_cons, Nat.ofDigits_cons, hadd, List.length_cons, Nat.pow_succ']
      rw [Nat.mod_eq_of_lt]
      · omega
      · generalize 256 ^ l.length = k at hrest ⊢
        omega
    · next hwrap =>
      have hb' : b.toNat = 255 := add_one_eq_zero.mp (not_not.mp hwrap)
      have hzero : (b + 1).toNat = 0 := by
        rw [not_not.mp hwrap]
        rfl
      simp only [List.map_cons, Nat.ofDigits_cons, hzero, ih, hb', List.length_cons, Nat.pow_succ']
      rw [show 255 + 256 * Nat.ofDigits 256 (l.map UInt8.toNat) + 1 =
        256 * (Nat.ofDigits 256 (l.map UInt8.toNat) + 1) by ring, Nat.mul_mod_mul_left, Nat.zero_add]

/-- **Adding one** byte by byte, up to the size of the string. -/
theorem value_increment (l : List UInt8) :
    value (increment l) = (value l + 1) % 256 ^ l.length := by
  have hcarry := ofDigits_carry l.reverse
  simpa [value, increment] using hcarry

/-! ### Masks -/

/-- The bytes of both strings, bit by bit. -/
def land (l m : List UInt8) : List UInt8 := List.zipWith (· &&& ·) l m

/-- A mask of so many bytes, the first `ones` bits of which are set. -/
def prefixMask : Nat → Nat → List UInt8
  | _, 0 => []
  | ones, n + 1 =>
      if 8 ≤ ones then 0xff :: prefixMask (ones - 8) n
      else (~~~((0xff : UInt8) >>> UInt8.ofNat ones)) :: prefixMask 0 n

@[simp] theorem length_prefixMask (ones n : Nat) : (prefixMask ones n).length = n := by
  induction n generalizing ones with
  | zero => rfl
  | succ n ih =>
    simp only [prefixMask]
    split <;> simp [ih]

theorem length_land {l m : List UInt8} (h : l.length = m.length) :
    (land l m).length = l.length := by
  simp [land, h]

/-- The last byte that a mask reaches. -/
theorem toNat_land_byte (b : UInt8) {ones : Nat} (h : ones < 8) :
    (b &&& ~~~((0xff : UInt8) >>> UInt8.ofNat ones)).toNat =
      b.toNat / 2 ^ (8 - ones) * 2 ^ (8 - ones) := by
  have hall : ∀ ones : Fin 8, ∀ b : Fin 256,
      (UInt8.ofNat b.val &&& ~~~((0xff : UInt8) >>> UInt8.ofNat ones.val)).toNat =
        b.val / 2 ^ (8 - ones.val) * 2 ^ (8 - ones.val) := by decide +kernel
  have hb := hall ⟨ones, h⟩ ⟨b.toNat, b.toNat_lt⟩
  simpa using hb

theorem value_land_zero (l : List UInt8) : value (land l (prefixMask 0 l.length)) = 0 := by
  induction l with
  | nil => rfl
  | cons b l ih =>
    have hbyte := toNat_land_byte b (show 0 < 8 by decide)
    have hlength : (land l (prefixMask 0 l.length)).length = l.length :=
      length_land (length_prefixMask 0 l.length).symm
    show value ((b &&& _) :: land l (prefixMask 0 l.length)) = 0
    rw [value_cons, ih, hlength, hbyte, Nat.div_eq_of_lt b.toNat_lt]
    simp

theorem pow_256 (n : Nat) : 256 ^ n = 2 ^ (8 * n) := by
  rw [Nat.pow_mul]

/-- **A mask** cuts a number down to a multiple of the power of two that it leaves
    open. The induction follows the bytes: the mask covers a byte, or ends in it. -/
theorem value_land_prefixMask {l : List UInt8} {ones : Nat} (h : ones ≤ 8 * l.length) :
    value (land l (prefixMask ones l.length)) =
      value l / 2 ^ (8 * l.length - ones) * 2 ^ (8 * l.length - ones) := by
  induction l generalizing ones with
  | nil => simp [land, prefixMask]
  | cons b l ih =>
    have hlength : ∀ ones, (land l (prefixMask ones l.length)).length = l.length :=
      fun ones => length_land (length_prefixMask ones l.length).symm
    simp only [List.length_cons] at h
    by_cases hbyte : 8 ≤ ones
    · have hland : land (b :: l) (prefixMask ones (l.length + 1)) =
          b :: land l (prefixMask (ones - 8) l.length) := by
        simp only [prefixMask, if_pos hbyte]
        show (b &&& 0xff) :: _ = _
        rw [show (0xff : UInt8) = -1 by decide, UInt8.and_neg_one]
        rfl
      obtain ⟨k, hk⟩ : 2 ^ (8 * l.length - (ones - 8)) ∣ 256 ^ l.length := by
        rw [pow_256]
        exact Nat.pow_dvd_pow 2 (by omega)
      have hpos : 0 < 2 ^ (8 * l.length - (ones - 8)) := by positivity
      rw [List.length_cons, hland, value_cons, hlength, ih (by omega), value_cons,
        show 8 * (l.length + 1) - ones = 8 * l.length - (ones - 8) by omega, hk,
        show b.toNat * (2 ^ (8 * l.length - (ones - 8)) * k) =
          2 ^ (8 * l.length - (ones - 8)) * (b.toNat * k) by ring,
        Nat.mul_add_div hpos]
      ring
    · have hland : land (b :: l) (prefixMask ones (l.length + 1)) =
          (b &&& ~~~((0xff : UInt8) >>> UInt8.ofNat ones)) :: land l (prefixMask 0 l.length) := by
        simp only [prefixMask, if_neg hbyte]
        rfl
      have hpow : 2 ^ (8 * (l.length + 1) - ones) = 256 ^ l.length * 2 ^ (8 - ones) := by
        rw [pow_256, ← Nat.pow_add]
        congr 1
        omega
      have hdiv : value (b :: l) / 256 ^ l.length = b.toNat := by
        rw [value_cons, Nat.add_comm, Nat.add_mul_div_right _ _ (by positivity),
          Nat.div_eq_of_lt (value_lt l), Nat.zero_add]
      rw [List.length_cons, hland, value_cons, hlength, value_land_zero,
        toNat_land_byte b (by omega), hpow, ← Nat.div_div_eq_div_mul, hdiv]
      ring

/-- Two strings agree under a mask exactly if their numbers are in one block. -/
theorem land_eq_iff {l m : List UInt8} {ones : Nat} (hlength : l.length = m.length)
    (h : ones ≤ 8 * m.length) :
    land l (prefixMask ones m.length) = land m (prefixMask ones m.length) ↔
      value l / 2 ^ (8 * m.length - ones) = value m / 2 ^ (8 * m.length - ones) := by
  have hpos : 0 < 2 ^ (8 * m.length - ones) := by positivity
  have hl := value_land_prefixMask (show ones ≤ 8 * l.length from hlength ▸ h)
  have hm := value_land_prefixMask h
  rw [hlength] at hl
  constructor
  · intro heq
    rw [heq, hm] at hl
    exact (Nat.eq_of_mul_eq_mul_right hpos hl).symm
  · intro heq
    apply value_injective
    · rw [length_land (by simp [hlength]), length_land (by simp), hlength]
    · rw [hl, hm, heq]

/-- **A block** of numbers has as many byte strings as its size says. -/
theorem ncard_block {n k v : Nat} (hk : k ≤ 8 * n) (hv : v < 256 ^ n) :
    {l : List UInt8 | l.length = n ∧ value l / 2 ^ k = v / 2 ^ k}.ncard = 2 ^ k := by
  have hpos : 0 < 2 ^ k := by positivity
  have hblock : v / 2 ^ k * 2 ^ k + 2 ^ k ≤ 256 ^ n := by
    obtain ⟨q, hq⟩ : 2 ^ k ∣ 256 ^ n := pow_256 n ▸ Nat.pow_dvd_pow 2 hk
    have hlt : v / 2 ^ k < q := by
      rw [Nat.div_lt_iff_lt_mul hpos, Nat.mul_comm, ← hq]
      exact hv
    rw [hq, ← Nat.succ_mul, Nat.mul_comm]
    exact Nat.mul_le_mul_left _ hlt
  have himage : value '' {l : List UInt8 | l.length = n ∧ value l / 2 ^ k = v / 2 ^ k} =
      Set.Ico (v / 2 ^ k * 2 ^ k) (v / 2 ^ k * 2 ^ k + 2 ^ k) := by
    ext x
    simp only [Set.mem_image, Set.mem_ofPred_eq, Set.mem_Ico]
    constructor
    · rintro ⟨l, ⟨-, hl⟩, rfl⟩
      rw [← hl]
      exact ⟨Nat.div_mul_le_self _ _, Nat.lt_div_mul_add hpos⟩
    · rintro ⟨hlow, hhigh⟩
      obtain ⟨l, hlength, rfl⟩ := exists_value n (v := x) (by omega)
      refine ⟨l, ⟨hlength, ?_⟩, rfl⟩
      exact Nat.div_eq_of_lt_le hlow (by rw [Nat.succ_mul]; exact hhigh)
  have hinj : Set.InjOn value {l : List UInt8 | l.length = n ∧ value l / 2 ^ k = v / 2 ^ k} := by
    rintro l ⟨hl, -⟩ m ⟨hm, -⟩ heq
    exact value_injective (hl.trans hm.symm) heq
  rw [← hinj.ncard_image, himage, ← Finset.coe_Ico, Set.ncard_coe_finset,
    Nat.card_Ico]
  omega

end Bytes
