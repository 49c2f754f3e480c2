import Virtink.Admission.CIDR
import Virtink.Prerunner.Config

/-! # Masquerade Networks

    `setupMasqueradeNetwork` takes two addresses of the CIDR of an interface:
    the one behind the network address for the bridge in the pod and the next
    one for the VM. The webhook has accepted the CIDR with a capacity of four,
    so neither of them is the first or the last address of the subnet
    (`masquerade_addresses_usable`).
-/

namespace Virtink.Prerunner

open Bytes Net

/-! ### The Source -/

/-- `nextIP`. -/
def nextIP (p : Parser) (ip : IP) (subnet : Option Subnet) : Except String IP :=
  let next := increment ip
  match subnet with
  | none => .ok next
  | some n =>
      if n.contains next then .ok next
      else .error ("no more available IP in subnet \"" ++ p.text n ++ "\"")

/-- What setting up links leaves to others: netlink, `iptables` and the DHCP
    server. An address with a mask is an `IPNet`. -/
structure Links.Stack where
  /-- `netlink.LinkByName`, as far as the MTU goes. -/
  linkByName : String → Except String Int
  createBridge : String → IP × List UInt8 → Int → Except String Unit
  iptables : List String → Except String Unit
  createTap : String → String → Int → Except String Unit
  parseMAC : String → Except String String
  startDHCPServer : String → String → IP × List UInt8 → IP → Except String Unit
  /-- `IP.String`. -/
  ipText : IP → String

/-- An error with the name of what failed. -/
def named {α : Type} (what : String) : Except String α → Except String α
  | .error e => .error (what ++ ": " ++ e)
  | .ok a => .ok a

section setup
variable (p : Parser) (stack : Links.Stack)

/-- `setupMasqueradeNetwork`. -/
def setupMasqueradeNetwork (linkName cidr : String) (netConfig : NetConfig) :
    Except String NetConfig := do
  let subnet ← named "parse CIDR" (p.parseCIDR cidr)
  let bridgeIP ← named "generate bridge IP" (nextIP p subnet.ip (some subnet))
  let mtu ← named "get link" (stack.linkByName linkName)
  let bridgeName := "br-" ++ linkName
  named "create bridge" (stack.createBridge bridgeName (bridgeIP, subnet.mask) mtu)
  let vmIP ← named "generate vm IP" (nextIP p bridgeIP (some subnet))
  named "add masquerade rule"
    (stack.iptables ["-t", "nat", "-A", "POSTROUTING", "-o", linkName, "-j", "MASQUERADE"])
  named "add prerouting rule"
    (stack.iptables ["-t", "nat", "-A", "PREROUTING", "-i", linkName, "-j", "DNAT",
      "--to-destination", stack.ipText vmIP])
  let tapName := "tap-" ++ linkName
  named "create tap" (stack.createTap bridgeName tapName mtu)
  let vmMAC ← named "parse VM MAC" (stack.parseMAC netConfig.mac)
  named "start DHCP server"
    (stack.startDHCPServer bridgeName vmMAC (vmIP, subnet.mask) bridgeIP)
  pure { netConfig with mtu := mtu, tap := tapName }

/-- Setting up the links once both addresses are known. -/
def connect (linkName : String) (mask : List UInt8) (bridgeIP vmIP : IP) (netConfig : NetConfig) :
    Except String NetConfig := do
  let mtu ← named "get link" (stack.linkByName linkName)
  named "create bridge" (stack.createBridge ("br-" ++ linkName) (bridgeIP, mask) mtu)
  named "add masquerade rule"
    (stack.iptables ["-t", "nat", "-A", "POSTROUTING", "-o", linkName, "-j", "MASQUERADE"])
  named "add prerouting rule"
    (stack.iptables ["-t", "nat", "-A", "PREROUTING", "-i", linkName, "-j", "DNAT",
      "--to-destination", stack.ipText vmIP])
  named "create tap" (stack.createTap ("br-" ++ linkName) ("tap-" ++ linkName) mtu)
  let vmMAC ← named "parse VM MAC" (stack.parseMAC netConfig.mac)
  named "start DHCP server"
    (stack.startDHCPServer ("br-" ++ linkName) vmMAC (vmIP, mask) bridgeIP)
  pure { netConfig with mtu := mtu, tap := "tap-" ++ linkName }

end setup

/-! ### The Next Address -/

/-- **Carry**: the next address is the next number. -/
theorem value_nextIP {p : Parser} {ip next : IP} {subnet : Option Subnet}
    (h : nextIP p ip subnet = .ok next) :
    next.length = ip.length ∧ value next = (value ip + 1) % 2 ^ (8 * ip.length) := by
  have hnext : next = increment ip := by
    unfold nextIP at h
    dsimp only at h
    split at h
    · exact (Except.ok.inj h).symm
    · split at h
      · exact (Except.ok.inj h).symm
      · cases h
  rw [hnext, length_increment, value_increment, pow_256]
  exact ⟨rfl, rfl⟩

/-- An accepted subnet leaves two bits open at least. -/
theorem two_le_of_shiftLeftOne {k : Nat} (h : 4 ≤ shiftLeftOne k) : 2 ≤ k := by
  by_contra hk
  have hsmall : k = 0 ∨ k = 1 := by omega
  rcases hsmall with rfl | rfl <;> revert h <;> decide

/-- The call of `nextIP` on an address among the first of a subnet that leaves two
    bits open. -/
theorem nextIP_ok (p : Parser) {n : Subnet} {ip : IP} (hbits : 2 ≤ n.hostBits)
    (hlength : ip.length = n.ip.length) {k : Nat} (hvalue : value ip = value n.ip + k)
    (hk : k < 3) :
    ∃ next, nextIP p ip (some n) = .ok next ∧ next.length = n.ip.length ∧
      value next = value n.ip + (k + 1) := by
  have hfour : 2 ^ 2 ≤ 2 ^ n.hostBits := Nat.pow_le_pow_right (by decide) hbits
  have hend := n.value_add_le
  have hnext : (increment ip).length = n.ip.length := by rw [length_increment, hlength]
  have hnextValue : value (increment ip) = value n.ip + (k + 1) := by
    rw [value_increment, hlength, hvalue, Nat.mod_eq_of_lt (by omega)]
    omega
  have hmem := n.mem_of_value hnext hnextValue (by omega)
  have hcontains : n.contains (increment ip) = true := by
    refine n.contains_of_mem hmem ?_
    intro hsixteen
    -- only the last two bits have changed
    have hdvd : 2 ^ 2 ∣ value n.ip := Nat.dvd_trans (Nat.pow_dvd_pow 2 hbits) n.dvd_value
    refine take_eq_of_value hnext ?_
    rw [hsixteen, hnextValue, show 256 ^ (16 - 12) = 2 ^ 2 * 2 ^ 30 by decide,
      ← Nat.div_div_eq_div_mul, ← Nat.div_div_eq_div_mul]
    congr 1
    omega
  refine ⟨increment ip, ?_, hnext, hnextValue⟩
  simp only [nextIP, hcontains, if_true]

/-! ### Usable Addresses -/

/-- Both addresses of a masquerade network. -/
structure MasqueradeAddresses (p : Parser) (cidr : String) (n : Subnet) (bridgeIP vmIP : IP) :
    Prop where
  parsed   : p.parseCIDR cidr = .ok n
  bridge   : nextIP p n.ip (some n) = .ok bridgeIP
  vm       : nextIP p bridgeIP (some n) = .ok vmIP
  bridgeOk : n.Usable bridgeIP
  vmOk     : n.Usable vmIP
  distinct : bridgeIP ≠ vmIP

/-- **Masquerade addresses are usable.** For every CIDR that the webhook accepts,
    both calls of `nextIP` succeed with different addresses between the first
    and the last one of the subnet, and setting up the network goes on with
    them. -/
theorem masquerade_addresses_usable {p : Parser} {lib : Library} {cidr path : String}
    (hvalid : validateCIDR (p.library lib) cidr 4 path = []) :
    (∃ n bridgeIP vmIP, MasqueradeAddresses p cidr n bridgeIP vmIP ∧
      ∀ stack linkName netConfig, setupMasqueradeNetwork p stack linkName cidr netConfig =
        connect stack linkName n.mask bridgeIP vmIP netConfig) ∧
    ∀ (ip next : IP) (subnet : Option Subnet), nextIP p ip subnet = .ok next →
      value next = (value ip + 1) % 2 ^ (8 * ip.length) := by
  refine ⟨?_, fun _ _ _ h => (value_nextIP h).2⟩
  cases hparse : p.parseCIDR cidr with
  | error e => exact absurd hvalid (validateCIDR_of_error hparse)
  | ok n =>
    have hbits := two_le_of_shiftLeftOne ((validateCIDR_of_ok hparse).mp hvalid)
    have hfour : 2 ^ 2 ≤ 2 ^ n.hostBits := Nat.pow_le_pow_right (by decide) hbits
    obtain ⟨bridgeIP, hbridge, hbridgeLength, hbridgeValue⟩ :=
      nextIP_ok p hbits rfl (Nat.add_zero (value n.ip)).symm (by decide)
    obtain ⟨vmIP, hvm, hvmLength, hvmValue⟩ :=
      nextIP_ok p hbits hbridgeLength hbridgeValue (by decide)
    refine ⟨n, bridgeIP, vmIP, ⟨hparse, hbridge, hvm, ?_, ?_, ?_⟩, ?_⟩
    · exact n.usable_of_value hbridgeLength hbridgeValue (by omega) (by omega)
    · exact n.usable_of_value hvmLength hvmValue (by omega) (by omega)
    · rintro rfl
      omega
    · intro stack linkName netConfig
      simp only [setupMasqueradeNetwork, hparse, hbridge, hvm, named, connect, bind, Except.bind]

/-- The two addresses of `10.0.2.0/30` that are left for hosts. -/
theorem masquerade_addresses_sample :
    validateCIDR (Sample.parser.library Sample.library) "10.0.2.0/30" 4 "cidr" = [] ∧
    MasqueradeAddresses Sample.parser "10.0.2.0/30" Sample.subnetV4 [10, 0, 2, 1] [10, 0, 2, 2] := by
  have hvalid : validateCIDR (Sample.parser.library Sample.library) "10.0.2.0/30" 4 "cidr" = [] := by
    decide
  refine ⟨hvalid, ?_⟩
  obtain ⟨⟨n, bridgeIP, vmIP, haddresses, -⟩, -⟩ := masquerade_addresses_usable hvalid
  obtain rfl : Sample.subnetV4 = n := Except.ok.inj haddresses.parsed
  obtain rfl : [10, 0, 2, 1] = bridgeIP := Except.ok.inj haddresses.bridge
  obtain rfl : [10, 0, 2, 2] = vmIP := Except.ok.inj haddresses.vm
  exact haddresses

end Virtink.Prerunner
