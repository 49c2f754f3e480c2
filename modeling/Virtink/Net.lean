import Virtink.Admission.VM
import Virtink.Framework.Bytes

/-! # Addresses and Subnets

    What the components of this repository use of the package `net`. An address
    is its bytes, 4 of them for IPv4 and 16 for IPv6; an IPv4 address may also
    stand in the last 4 of 16 bytes, and `Contains` takes it for the same
    address. A subnet is what `ParseCIDR` returns: its address has no bit set
    behind the prefix, and the mask is that of the prefix.

    How the text of an address is read is a parameter (`Parser`).
-/

namespace Virtink.Net

open Bytes

/-- `net.IP`. -/
abbrev IP := List UInt8

/-- `net.IPNet`, as `ParseCIDR` returns it. -/
structure Subnet where
  ip      : IP
  /-- The length of the prefix. -/
  ones    : Nat
  family  : ip.length = 4 ∨ ip.length = 16
  ones_le : ones ≤ 8 * ip.length
  masked  : land ip (prefixMask ones ip.length) = ip

namespace Subnet
variable (n : Subnet)

/-- The length of an address. -/
def bits : Nat := 8 * n.ip.length

/-- The mask, `CIDRMask` of the two lengths. -/
def mask : List UInt8 := prefixMask n.ones n.ip.length

/-- The bits that the prefix leaves open. -/
def hostBits : Nat := n.bits - n.ones

/-- The addresses of the subnet: those of its family with its prefix. -/
def addresses : Set IP := {ip | ip.length = n.ip.length ∧ land ip n.mask = n.ip}

end Subnet

/-! ### Containment -/

/-- What precedes an IPv4 address in 16 bytes. -/
def v4InV6Prefix : List UInt8 := [0, 0, 0, 0, 0, 0, 0, 0, 0, 0, 0xff, 0xff]

/-- `IP.To4`. -/
def to4 (ip : IP) : Option IP :=
  if ip.length = 4 then some ip
  else if ip.length = 16 ∧ ip.take 12 = v4InV6Prefix then some (ip.drop 12)
  else none

/-- `networkNumberAndMask`; mask and address of a subnet have the same length. -/
def Subnet.numberAndMask (n : Subnet) : IP × List UInt8 :=
  match to4 n.ip with
  | none => (n.ip, n.mask)
  | some ip => (ip, if n.mask.length = 16 then n.mask.drop 12 else n.mask)

/-- `IPNet.Contains`. -/
def Subnet.contains (n : Subnet) (ip : IP) : Bool :=
  let (number, mask) := n.numberAndMask
  let ip := (to4 ip).getD ip
  if ip.length ≠ number.length then false else decide (land number mask = land ip mask)

/-! ### Parsing -/

/-- `ParseCIDR` and `IPNet.String`. -/
structure Parser where
  parseCIDR : String → Except String Subnet
  empty     : ∃ e, parseCIDR "" = .error e
  text      : Subnet → String

/-- The validation of VMs with this parser; `IPMask.Size` of the mask of a prefix
    is its length and that of an address. -/
def Parser.library (p : Parser) (lib : Library) : Library :=
  { lib with parseCIDR := fun cidr => (p.parseCIDR cidr).map (fun n => ⟨n.ones, n.bits⟩) }

/-! ### The Addresses of a Subnet -/

section subnet
variable (n : Subnet)

theorem Subnet.hostBits_le : n.hostBits ≤ 8 * n.ip.length := Nat.sub_le _ _

/-- The addresses of a subnet are a block of numbers. -/
theorem Subnet.mem_addresses {ip : IP} :
    ip ∈ n.addresses ↔
      ip.length = n.ip.length ∧ value ip / 2 ^ n.hostBits = value n.ip / 2 ^ n.hostBits := by
  constructor
  · rintro ⟨hlength, hland⟩
    refine ⟨hlength, (land_eq_iff hlength n.ones_le).mp ?_⟩
    rw [n.masked]
    exact hland
  · rintro ⟨hlength, hblock⟩
    have hland := (land_eq_iff hlength n.ones_le).mpr hblock
    rw [n.masked] at hland
    exact ⟨hlength, hland⟩

/-- **Size**: the number of addresses that the open bits allow. -/
theorem Subnet.ncard_addresses : n.addresses.ncard = 2 ^ n.hostBits := by
  have hset : n.addresses =
      {ip | ip.length = n.ip.length ∧ value ip / 2 ^ n.hostBits = value n.ip / 2 ^ n.hostBits} := by
    ext ip
    exact n.mem_addresses
  rw [hset]
  exact ncard_block n.hostBits_le (value_lt n.ip)

/-- The network address is a multiple of the size. -/
theorem Subnet.dvd_value : 2 ^ n.hostBits ∣ value n.ip := by
  have hvalue := value_land_prefixMask n.ones_le
  rw [n.masked] at hvalue
  exact Dvd.intro_left _ hvalue.symm

/-- The network address and the addresses right behind it. -/
theorem Subnet.mem_of_value {ip : IP} (hlength : ip.length = n.ip.length) {k : Nat}
    (hvalue : value ip = value n.ip + k) (hk : k < 2 ^ n.hostBits) : ip ∈ n.addresses := by
  refine n.mem_addresses.mpr ⟨hlength, ?_⟩
  obtain ⟨q, hq⟩ := n.dvd_value
  have hpos : 0 < 2 ^ n.hostBits := by positivity
  rw [hvalue, hq, Nat.mul_add_div hpos, Nat.div_eq_of_lt hk, Nat.add_zero,
    Nat.mul_div_cancel_left _ hpos]

/-- The subnet ends with the addresses of its family at the latest. -/
theorem Subnet.value_add_le : value n.ip + 2 ^ n.hostBits ≤ 256 ^ n.ip.length := by
  obtain ⟨q, hq⟩ := n.dvd_value
  obtain ⟨r, hr⟩ : 2 ^ n.hostBits ∣ 256 ^ n.ip.length :=
    pow_256 _ ▸ Nat.pow_dvd_pow 2 n.hostBits_le
  have hlt := value_lt n.ip
  rw [hq, hr] at hlt ⊢
  have hqr : q < r := Nat.lt_of_mul_lt_mul_left hlt
  rw [← Nat.mul_succ]
  exact Nat.mul_le_mul_left _ hqr

/-- The first address of a subnet. -/
def Subnet.IsFirst (ip : IP) : Prop := ip ∈ n.addresses ∧ ∀ x ∈ n.addresses, value ip ≤ value x

/-- The last address of a subnet. -/
def Subnet.IsLast (ip : IP) : Prop := ip ∈ n.addresses ∧ ∀ x ∈ n.addresses, value x ≤ value ip

/-- An address that a host can have. -/
structure Subnet.Usable (ip : IP) : Prop where
  mem       : ip ∈ n.addresses
  not_first : ¬ n.IsFirst ip
  not_last  : ¬ n.IsLast ip

/-- An address between the network address and the last one. -/
theorem Subnet.usable_of_value {ip : IP} (hlength : ip.length = n.ip.length) {k : Nat}
    (hvalue : value ip = value n.ip + k) (hpos : 0 < k) (hk : k + 1 < 2 ^ n.hostBits) :
    n.Usable ip := by
  refine ⟨n.mem_of_value hlength hvalue (by omega), ?_, ?_⟩
  · intro hfirst
    have hle := hfirst.2 n.ip (n.mem_of_value rfl (Nat.add_zero _).symm (by omega))
    omega
  · intro hlast
    obtain ⟨x, hx, hxvalue⟩ := exists_value n.ip.length (v := value n.ip + (k + 1))
      (by have hend := n.value_add_le; omega)
    have hle := hlast.2 x (n.mem_of_value hx hxvalue hk)
    omega

/-- `Contains` says so of an address of the subnet if the bytes that tell IPv4 in
    16 bytes from IPv6 are those of the network address. -/
theorem Subnet.contains_of_mem {ip : IP} (hmem : ip ∈ n.addresses)
    (htake : n.ip.length = 16 → ip.take 12 = n.ip.take 12) : n.contains ip = true := by
  obtain ⟨hlength, hland⟩ := hmem
  have hequal : land n.ip n.mask = land ip n.mask := by
    rw [hland]
    exact n.masked
  have hdrop : land (n.ip.drop 12) (n.mask.drop 12) = land (ip.drop 12) (n.mask.drop 12) := by
    simp only [land, ← List.drop_zipWith]
    exact congrArg (List.drop 12) hequal
  have hmask : n.mask.length = n.ip.length := length_prefixMask _ _
  rcases n.family with hfour | hsixteen
  · -- 4 bytes each
    simp only [contains, numberAndMask, to4, hfour, hlength.trans hfour, if_true, hmask]
    simp [hequal, hlength.trans hfour]
  · have htake := htake hsixteen
    by_cases hmapped : n.ip.take 12 = v4InV6Prefix
    · -- both stand in the last 4 of 16 bytes
      simp [contains, numberAndMask, to4, hsixteen, hlength.trans hsixteen, hmask, htake, hmapped,
        hdrop]
    · simp [contains, numberAndMask, to4, hsixteen, hlength.trans hsixteen, htake, hmapped, hequal]

end subnet

end Virtink.Net
