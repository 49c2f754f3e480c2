import Virtink.Admission.Defaults
import Virtink.References

/-! # The Count of vCPUs

    `MutateVM`, `ValidateVMSpec` and `buildVMConfig` each multiply the sockets
    of a VM by the cores per socket, in 32 bits and without comparing the
    product to anything a user could not exceed. The topology that the prerunner
    emits has both factors as they are. The counts agree with it exactly as long
    as the product fits 32 bits.
-/

namespace Virtink

/-- The count of vCPUs as a natural number. -/
def CPU.count (cpu : CPU) : Nat := cpu.sockets.toNat * cpu.coresPerSocket.toNat

/-- All components have the count of vCPUs that the user asks for. -/
structure CountsAgree (spec : VMSpec) (cfg : Prerunner.VmConfig) : Prop where
  /-- `MutateVM`: the request that it fills in. -/
  request   : ResourceList.quantity (some (rsList (mutateInstance spec))) "cpu" =
    .units spec.instance_.cpu.count
  /-- `ValidateVMSpec`: the request that it compares. -/
  validated : spec.instance_.cpu.dedicatedCPUPlacement = true →
    (spec.resources.requests.quantity "cpu").value = spec.instance_.cpu.count
  /-- `buildVMConfig`: the counts, the pinning and the topology. -/
  boot      : cfg.cpus.bootVcpus = spec.instance_.cpu.count
  max       : cfg.cpus.maxVcpus = spec.instance_.cpu.count
  pinned    : spec.instance_.cpu.dedicatedCPUPlacement = true →
    cfg.cpus.affinity.length = spec.instance_.cpu.count
  topology  : cfg.cpus.packages * cfg.cpus.diesPerPackage * cfg.cpus.coresPerDie *
    cfg.cpus.threadsPerCore = spec.instance_.cpu.count
  positive  : 1 ≤ spec.instance_.cpu.count

/-- A product that fits is the product of the numbers. -/
theorem numVCPUs_eq_count {cpu : CPU} (h : cpu.count < 2 ^ 32) :
    Prerunner.numVCPUs cpu = cpu.count := by
  rw [Prerunner.numVCPUs, UInt32.toNat_mul]
  exact Nat.mod_eq_of_lt h

/-- The counts of an accepted VM are not zero. -/
theorem count_ne_zero_of_validateVM {lib : Library} {vm : VM} {oldVM : Option VM}
    (h : validateVM lib vm oldVM = []) :
    vm.spec.instance_.cpu.sockets ≠ 0 ∧ vm.spec.instance_.cpu.coresPerSocket ≠ 0 := by
  simp only [validateVM, validateVMSpec, validateInstance, validateCPU, List.append_eq_nil_iff,
    check_eq_nil, beq_eq_false_iff_ne] at h
  obtain ⟨⟨⟨⟨-, ⟨⟨⟨⟨⟨hsockets, hcores⟩, -⟩, -⟩, -⟩, -⟩, -⟩, -⟩, -⟩, -⟩ := h
  exact ⟨hsockets, hcores⟩

/-- The request that an accepted VM with dedicated CPUs has. -/
theorem request_of_validateVM {lib : Library} {vm : VM} {oldVM : Option VM}
    (h : validateVM lib vm oldVM = [])
    (hdedicated : vm.spec.instance_.cpu.dedicatedCPUPlacement = true) :
    (vm.spec.resources.requests.quantity "cpu").value =
      Prerunner.numVCPUs vm.spec.instance_.cpu := by
  simp only [validateVM, validateVMSpec, validateDedicated, hdedicated, if_true,
    List.append_eq_nil_iff, validatePinned_eq_nil, decide_eq_false_iff_not, ne_eq, not_not] at h
  obtain ⟨⟨⟨⟨⟨⟨⟨-, hvalue, -⟩, -⟩, -⟩, -⟩, -⟩, -⟩, -⟩ := h
  exact hvalue

/-- The pinning that the prerunner emits. -/
theorem affinity_length {host : Prerunner.Host} {cpu : CPU}
    {affinity : List Prerunner.CpuAffinity} (h : Prerunner.cpuAffinity host cpu = .ok affinity)
    (hdedicated : cpu.dedicatedCPUPlacement = true) :
    affinity.length = Prerunner.numVCPUs cpu := by
  simp only [Prerunner.cpuAffinity, hdedicated, if_true] at h
  split at h
  · cases h
  · next pcpus _ =>
    by_cases hlength : pcpus.length = Prerunner.numVCPUs cpu
    · simp only [hlength, ne_eq, not_true_eq_false, if_false, Except.ok.injEq] at h
      rw [← h, List.length_map, List.length_zipIdx, hlength]
    · simp [hlength] at h

/-- **The count of vCPUs does not wrap** exactly if it fits 32 bits: for every
    accepted VM and the configuration that the prerunner emits for it. -/
theorem vcpu_counts_agree_iff {lib : Library} {vm : VM} {oldVM : Option VM}
    {host : Prerunner.Host} {cfg : Prerunner.VmConfig} (haccepted : validateVM lib vm oldVM = [])
    (hcfg : Prerunner.buildVMConfig host vm.spec = .ok cfg) :
    CountsAgree vm.spec cfg ↔ vm.spec.instance_.cpu.count < 2 ^ 32 := by
  obtain ⟨affinity, _, _, _, _, haffinity, -, -, -, -, rfl⟩ :=
    Prerunner.buildVMConfig_eq_ok.mp hcfg
  constructor
  · intro h
    -- what was computed in 32 bits is small
    have hboot : Prerunner.numVCPUs vm.spec.instance_.cpu = vm.spec.instance_.cpu.count := h.boot
    rw [← hboot]
    exact UInt32.toNat_lt _
  · intro hfits
    have hcount := numVCPUs_eq_count hfits
    obtain ⟨hsockets, hcores⟩ := count_ne_zero_of_validateVM haccepted
    refine ⟨?_, fun hdedicated => ?_, hcount, hcount, fun hdedicated => ?_, ?_, ?_⟩
    · rw [← hcount]
      show Quantity.units ((defaultCPU _).coresPerSocket * (defaultCPU _).sockets).toNat = _
      rw [defaultCPU, if_neg hsockets, if_neg hcores, UInt32.mul_comm]
      rfl
    · rw [request_of_validateVM haccepted hdedicated, hcount]
    · exact (affinity_length haffinity hdedicated).trans hcount
    · show vm.spec.instance_.cpu.sockets.toNat * 1 * vm.spec.instance_.cpu.coresPerSocket.toNat * 1
        = _
      rw [Nat.mul_one, Nat.mul_one]
      rfl
    · have hpos : ∀ n : UInt32, n ≠ 0 → 0 < n.toNat :=
        fun n hn => Nat.pos_of_ne_zero fun hzero => hn (UInt32.toNat_inj.mp hzero)
      exact Nat.mul_pos (hpos _ hsockets) (hpos _ hcores)

namespace Sample

/-- A machine with so many CPUs. -/
def withCPUs (sockets coresPerSocket : UInt32) : VM :=
  { name := "vm"
    uid := "vm-uid"
    spec := {
      instance_ := {
        cpu := { sockets := sockets, coresPerSocket := coresPerSocket }
        memory := { size := .units 1073741824 } } } }

end Sample

/-- Two sockets with four cores each. -/
theorem vcpu_counts_agree_sample :
    ∃ cfg, Prerunner.buildVMConfig (plainHost 8) (Sample.withCPUs 2 4).spec = .ok cfg ∧
      cfg.cpus.bootVcpus = 8 ∧ CountsAgree (Sample.withCPUs 2 4).spec cfg := by
  have haccepted : validateVM Sample.library (Sample.withCPUs 2 4) none = [] := by decide
  have hcfg : Prerunner.buildVMConfig (plainHost 8) (Sample.withCPUs 2 4).spec = .ok _ := rfl
  exact ⟨_, hcfg, rfl, (vcpu_counts_agree_iff haccepted hcfg).mpr (by decide)⟩

/-- The webhook accepts 65536 sockets with 65536 cores each; the hypervisor is
    told to boot with no vCPU at all and a topology of 2 ^ 32. -/
theorem vcpu_count_wraps :
    validateVM Sample.library (Sample.withCPUs 65536 65536) none = [] ∧
    ∃ cfg, Prerunner.buildVMConfig (plainHost 0) (Sample.withCPUs 65536 65536).spec = .ok cfg ∧
      cfg.cpus.bootVcpus = 0 ∧ cfg.cpus.maxVcpus = 0 ∧
      cfg.cpus.packages * cfg.cpus.diesPerPackage * cfg.cpus.coresPerDie *
        cfg.cpus.threadsPerCore = 2 ^ 32 ∧
      ¬ CountsAgree (Sample.withCPUs 65536 65536).spec cfg := by
  refine ⟨by decide, _, rfl, by decide, by decide, by decide, fun h => ?_⟩
  have hboot := h.boot
  revert hboot
  decide

end Virtink
