import Virtink.Admission.Updates
import Virtink.Net

/-! # The Capacity of a CIDR

    `ValidateCIDR` computes the size of a subnet as `1 << (bits - ones)`, in an
    `int` of 64 bits. The size of an IPv6 subnet with a prefix of 65 bits or
    less does not fit: the shift yields a negative number or zero, and the
    subnet is rejected as too small (`cidr_capacity_iff`).
-/

namespace Virtink

open Net

/-- A shift whose result fits. -/
theorem shiftLeftOne_of_le {k : Nat} (h : k ≤ 62) : shiftLeftOne k = 2 ^ k := if_pos (by omega)

/-- A shift whose result does not fit. -/
theorem shiftLeftOne_nonpos {k : Nat} (h : 62 < k) : shiftLeftOne k ≤ 0 := by
  unfold shiftLeftOne
  rw [if_neg (by omega)]
  split <;> decide

/-- `ValidateCIDR` reports no error exactly for the subnets that are large
    enough. -/
def CapacityJudged (p : Parser) (lib : Library) (cidr : String) (capacity : Int) (path : String) :
    Prop :=
  validateCIDR (p.library lib) cidr capacity path = [] ↔
    ∃ n, p.parseCIDR cidr = .ok n ∧ capacity ≤ (n.addresses.ncard : Int)

/-- What is reported of a text that denotes a subnet. -/
theorem validateCIDR_of_ok {p : Parser} {lib : Library} {cidr path : String} {capacity : Int}
    {n : Subnet} (h : p.parseCIDR cidr = .ok n) :
    validateCIDR (p.library lib) cidr capacity path = [] ↔ capacity ≤ shiftLeftOne n.hostBits := by
  have hne : cidr ≠ "" := by
    rintro rfl
    obtain ⟨e, he⟩ := p.empty
    rw [he] at h
    cases h
  have hmask : (p.library lib).parseCIDR cidr = .ok ⟨n.ones, n.bits⟩ := by
    simp only [Parser.library, h, Except.map]
  simp only [validateCIDR, if_neg hne, hmask, check_eq_nil, decide_eq_false_iff_not, not_lt]
  rfl

/-- What is reported of any other text. -/
theorem validateCIDR_of_error {p : Parser} {lib : Library} {cidr path e : String} {capacity : Int}
    (h : p.parseCIDR cidr = .error e) :
    validateCIDR (p.library lib) cidr capacity path ≠ [] := by
  have hmask : (p.library lib).parseCIDR cidr = .error e := by
    simp only [Parser.library, h, Except.map]
  unfold validateCIDR
  split
  · simp
  · simp [hmask]

/-- **Capacity is judged correctly** for exactly the texts that denote no subnet,
    or one with at most 62 open bits: for every capacity that an `int` holds. -/
theorem cidr_capacity_iff {p : Parser} {lib : Library} {cidr path : String} {capacity : Int}
    (hlow : 1 ≤ capacity) (hhigh : capacity ≤ 2 ^ 63 - 1) :
    CapacityJudged p lib cidr capacity path ↔
      ∀ n, p.parseCIDR cidr = .ok n → n.hostBits ≤ 62 := by
  unfold CapacityJudged
  cases hparse : p.parseCIDR cidr with
  | error e => simp [validateCIDR_of_error hparse]
  | ok n =>
    have honly : (∃ m, Except.ok n = (Except.ok m : Except String Subnet) ∧
        capacity ≤ (m.addresses.ncard : Int)) ↔ capacity ≤ 2 ^ n.hostBits := by
      rw [show (2 : Int) ^ n.hostBits = ((2 ^ n.hostBits : Nat) : Int) by push_cast; rfl,
        ← n.ncard_addresses]
      constructor
      · rintro ⟨m, hm, hle⟩
        cases hm
        exact hle
      · intro hle
        exact ⟨n, rfl, hle⟩
    rw [validateCIDR_of_ok hparse, honly]
    constructor
    · intro hjudged m hm
      cases hm
      by_contra hbits
      -- the subnet is large enough for every `int`, and the shift says it is empty
      have hpow : (2 : Int) ^ 63 ≤ 2 ^ n.hostBits := pow_le_pow_right₀ (by decide) (by omega)
      have hshift := shiftLeftOne_nonpos (show 62 < n.hostBits by omega)
      have hle := hjudged.mpr (by omega)
      omega
    · intro hbits
      rw [shiftLeftOne_of_le (hbits n rfl)]

namespace Sample

/-- The subnet `10.0.2.0/30`. -/
def subnetV4 : Subnet where
  ip := [10, 0, 2, 0]
  ones := 30
  family := by decide
  ones_le := by decide
  masked := by decide

/-- The subnet `fd00::/64`. -/
def subnetV6 : Subnet where
  ip := 0xfd :: List.replicate 15 0
  ones := 64
  family := by decide
  ones_le := by decide
  masked := by decide

/-- `ParseCIDR` on the texts of these subnets. -/
def parser : Parser where
  parseCIDR cidr :=
    if cidr = "10.0.2.0/30" then .ok subnetV4
    else if cidr = "fd00::/64" then .ok subnetV6
    else .error ("invalid CIDR address: " ++ cidr)
  empty := ⟨_, rfl⟩
  text n := if n.ip = subnetV4.ip then "10.0.2.0/30" else "fd00::/64"

end Sample

/-- A subnet of four addresses is large enough for four. -/
theorem cidr_capacity_sample :
    CapacityJudged Sample.parser Sample.library "10.0.2.0/30" 4 "cidr" := by
  refine (cidr_capacity_iff (by decide) (by decide)).mpr ?_
  intro n hn
  cases (show Except.ok Sample.subnetV4 = Except.ok n from hn)
  decide

/-- `fd00::/64` has 2 ^ 64 addresses, and is rejected for having less than four. -/
theorem large_subnet_rejected :
    Sample.parser.parseCIDR "fd00::/64" = .ok Sample.subnetV6 ∧
    Sample.subnetV6.addresses.ncard = 2 ^ 64 ∧
    validateCIDR (Sample.parser.library Sample.library) "fd00::/64" 4 "cidr" =
      [{ type := .invalid, field := "cidr", badValue := "fd00::/64",
         detail := "must contain at least 4 IPs" }] ∧
    ¬ CapacityJudged Sample.parser Sample.library "fd00::/64" 4 "cidr" := by
  have hparse : Sample.parser.parseCIDR "fd00::/64" = .ok Sample.subnetV6 := rfl
  have hsize : Sample.subnetV6.addresses.ncard = 2 ^ 64 := Sample.subnetV6.ncard_addresses
  refine ⟨hparse, hsize, by decide, ?_⟩
  intro hjudged
  have hnone := hjudged.mpr ⟨_, hparse, by rw [hsize]; decide⟩
  revert hnone
  decide

end Virtink
