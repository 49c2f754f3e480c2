import Mathlib.Data.Set.Function
import Virtink.CPUCount
import Virtink.Prerunner.CPUSet

/-! # The Pinning of Dedicated CPUs

    A VM with dedicated CPUs gets one CPU of its container for each vCPU. The
    container's CPUs are read from its CPU set file, as a set; the prerunner
    sorts them and hands them out in this order, after comparing their number
    only. This is a bijection that keeps the order
    (`dedicated_cpus_pinned`).
-/

namespace Virtink.Prerunner

open CPUSet

/-- What the prerunner gets from the CPU set file of its container: an error, or
    the members of the set, after visiting them in some order. -/
def Reads (host : Host) (file : Except String String) : Prop :=
  ∃ r, (CPUSet.get file).Returns r ∧
    match r with
    | .error e => host.cpuset = .error e
    | .ok set => ∃ visited, Visits set visited ∧
        host.cpuset = .ok ((toSlice visited).map Int.toNat)

/-- Every vCPU below `n` has one CPU of the set: each CPU is used, no CPU is used
    twice, and later vCPUs have later CPUs. -/
def Pinned (set : Finset Int) (n : Nat) (affinity : List CpuAffinity) : Prop :=
  ∃ cpu : Nat → Nat,
    affinity = (List.range n).map (fun i => { vcpu := i, hostCpus := [cpu i] }) ∧
    Set.BijOn (fun i => (cpu i : Int)) (Set.Iio n) set ∧
    ∀ i j, i < j → j < n → cpu i < cpu j

/-- The CPUs in their order, as the loop over the vCPUs hands them out. -/
theorem pinned_of_sorted {set : Finset Int} {pcpus : List Nat}
    (hsorted : pcpus.Pairwise (· < ·)) (hmem : ∀ c : Int, c ∈ set ↔ ∃ p ∈ pcpus, (p : Int) = c) :
    Pinned set pcpus.length
      (pcpus.zipIdx.map (fun (c, i) => { vcpu := i, hostCpus := [c] })) := by
  have hincreasing : ∀ i j, i < j → j < pcpus.length → pcpus.getD i 0 < pcpus.getD j 0 := by
    intro i j hij hj
    have hlt := List.pairwise_iff_getElem.mp hsorted i j (by omega) hj hij
    simpa [List.getD_eq_getElem?_getD, List.getElem?_eq_getElem hj,
      List.getElem?_eq_getElem (Nat.lt_trans hij hj)] using hlt
  refine ⟨fun i => pcpus.getD i 0, ?_, ⟨?_, ?_, ?_⟩, hincreasing⟩
  · refine List.ext_getElem (by simp) ?_
    intro i hi _
    have hlength : i < pcpus.length := by simpa using hi
    simp [List.getElem?_eq_getElem hlength]
  · intro i hi
    have hlength : i < pcpus.length := hi
    refine (hmem _).mpr ⟨pcpus[i], List.getElem_mem hlength, ?_⟩
    simp [List.getElem?_eq_getElem hlength]
  · intro i hi j hj heq
    have hcpu : pcpus.getD i 0 = pcpus.getD j 0 := Int.natCast_inj.mp heq
    rcases Nat.lt_trichotomy i j with hlt | heq | hgt
    · exact absurd hcpu (hincreasing i j hlt hj).ne
    · exact heq
    · exact absurd hcpu (hincreasing j i hgt hi).ne'
  · intro c hc
    obtain ⟨p, hp, rfl⟩ := (hmem c).mp hc
    obtain ⟨i, hi, rfl⟩ := List.getElem_of_mem hp
    refine ⟨i, hi, ?_⟩
    simp [List.getElem?_eq_getElem hi]

/-- The slice of a set without negative members. -/
theorem toNat_toSlice {set : Finset Int} {visited : List Int} (hvisits : Visits set visited)
    (hnonneg : ∀ c ∈ set, 0 ≤ c) :
    ((toSlice visited).map Int.toNat).Pairwise (· < ·) ∧
      ∀ c : Int, c ∈ set ↔ ∃ p ∈ (toSlice visited).map Int.toNat, (p : Int) = c := by
  have hmem := mem_toSlice hvisits
  constructor
  · rw [List.pairwise_map]
    refine (toSlice_increasing hvisits).imp_of_mem ?_
    intro a b ha _ hlt
    have hle := hnonneg a ((hmem a).mp ha)
    omega
  · intro c
    rw [← hmem c]
    constructor
    · intro hc
      exact ⟨c.toNat, List.mem_map_of_mem hc, Int.toNat_of_nonneg (hnonneg c ((hmem c).mp hc))⟩
    · rintro ⟨p, hp, rfl⟩
      obtain ⟨c, hc, rfl⟩ := List.mem_map.mp hp
      rwa [Int.toNat_of_nonneg (hnonneg c ((hmem c).mp hc))]

theorem length_toSlice {set : Finset Int} {visited : List Int} (hvisits : Visits set visited) :
    ((toSlice visited).map Int.toNat).length = set.card := by
  have hset : visited.toFinset = set := by
    ext c
    rw [List.mem_toFinset, hvisits.mem]
  have hlength : (toSlice visited).length = visited.length :=
    (List.mergeSort_perm visited _).length_eq
  rw [List.length_map, hlength, ← hset, List.toFinset_card_of_nodup hvisits.nodup]

/-- What `buildVMConfig` does after the CPUs succeeds: the disks, the file systems
    and the links. -/
def RestBuilds (host : Host) (spec : VMSpec) : Prop :=
  ∃ disks fs status links,
    diskConfigs (blockVolumes host) spec.volumes spec.instance_.disks = .ok disks ∧
    Loop.collect [] List.append (fsConfig host spec.volumes) spec.instance_.fileSystems = .ok fs ∧
    networkStatusList host = .ok status ∧
    interfacesLinks host status spec.networks spec.instance_.interfaces = .ok links

/-- **Dedicated CPUs are pinned one to one.** For every VM with dedicated CPUs and
    every CPU set file that the parser accepts, the prerunner fails because the
    numbers of CPUs and vCPUs differ; or every vCPU that the hypervisor boots
    with has a CPU of the file of its own in the configuration, which is emitted
    if the rest of it can be built. -/
theorem dedicated_cpus_pinned {host : Host} {vm : VM} {content : String} {set : Finset Int}
    (hdedicated : vm.spec.instance_.cpu.dedicatedCPUPlacement = true)
    (hparse : (parse (trimSpace content)).Returns (.ok set)) (hhost : Reads host (.ok content)) :
    (∀ c, c ∈ set ↔ CPUSet.Denotes (trimSpace content) c) ∧
    ((set.card ≠ numVCPUs vm.spec.instance_.cpu ∧
      buildVMConfig host vm.spec = .error "number of pCPUs and vCPUs must match") ∨
    (set.card = numVCPUs vm.spec.instance_.cpu ∧
      ((∃ cfg, buildVMConfig host vm.spec = .ok cfg) ↔ RestBuilds host vm.spec) ∧
      ∀ cfg, buildVMConfig host vm.spec = .ok cfg →
        cfg.cpus.bootVcpus = numVCPUs vm.spec.instance_.cpu ∧
        Pinned set (numVCPUs vm.spec.instance_.cpu) cfg.cpus.affinity)) := by
  obtain ⟨r, hr, hcpuset⟩ := hhost
  obtain rfl : r = .ok set := hr.unique hparse
  obtain ⟨visited, hvisits, hcpuset⟩ := hcpuset
  obtain ⟨hsorted, hmem⟩ := toNat_toSlice hvisits (parse_nonneg hparse)
  have hlength := length_toSlice hvisits
  refine ⟨(parse_ok hparse).2, ?_⟩
  by_cases hcount : set.card = numVCPUs vm.spec.instance_.cpu
  · right
    have haffinity : cpuAffinity host vm.spec.instance_.cpu =
        .ok (((toSlice visited).map Int.toNat).zipIdx.map
          (fun (c, i) => { vcpu := i, hostCpus := [c] })) := by
      simp only [cpuAffinity, hdedicated, if_true, hcpuset]
      rw [if_neg (by rw [hlength, hcount]; simp)]
    have hpinned := pinned_of_sorted hsorted hmem
    rw [hlength, hcount] at hpinned
    refine ⟨hcount, ⟨?_, ?_⟩, ?_⟩
    · rintro ⟨cfg, hcfg⟩
      obtain ⟨-, disks, fs, status, links, -, hdisks, hfs, hstatus, hlinks, -⟩ :=
        buildVMConfig_eq_ok.mp hcfg
      exact ⟨disks, fs, status, links, hdisks, hfs, hstatus, hlinks⟩
    · rintro ⟨disks, fs, status, links, hdisks, hfs, hstatus, hlinks⟩
      exact ⟨_, buildVMConfig_eq_ok.mpr
        ⟨_, disks, fs, status, links, haffinity, hdisks, hfs, hstatus, hlinks, rfl⟩⟩
    · intro cfg hcfg
      obtain ⟨affinity, disks, fs, status, links, hok, -, -, -, -, rfl⟩ :=
        buildVMConfig_eq_ok.mp hcfg
      rw [haffinity] at hok
      cases hok
      exact ⟨rfl, hpinned⟩
  · left
    have haffinity : cpuAffinity host vm.spec.instance_.cpu =
        .error "number of pCPUs and vCPUs must match" := by
      simp only [cpuAffinity, hdedicated, if_true, hcpuset]
      rw [if_pos (by rw [hlength]; exact hcount)]
    refine ⟨hcount, ?_⟩
    simp only [buildVMConfig, haffinity]
    rfl

/-- A container with the CPUs 2 and 3. -/
def pinningHost : Host := { plainHost 0 with cpuset := .ok [2, 3] }

theorem pinningHost_reads : Reads pinningHost (.ok "2-3\n") := by
  refine ⟨.ok {3, 2}, ⟨3, rfl⟩, [2, 3], ⟨by decide, ?_⟩, ?_⟩
  · intro c
    simp [or_comm]
  · have hsorted : toSlice [2, 3] = [2, 3] := List.mergeSort_of_pairwise (by decide)
    rw [hsorted]
    rfl

/-- A machine with two dedicated CPUs. -/
def pinnedVM : VM where
  name := "vm"
  uid := "vm-uid"
  spec := {
    instance_ := {
      cpu := { sockets := 1, coresPerSocket := 2, dedicatedCPUPlacement := true }
      memory := { size := .units 1073741824 } } }

/-- Its vCPUs run on the CPUs 2 and 3. -/
theorem dedicated_cpus_pinned_sample :
    ∃ cfg, buildVMConfig pinningHost pinnedVM.spec = .ok cfg ∧ cfg.cpus.bootVcpus = 2 ∧
      cfg.cpus.affinity = [{ vcpu := 0, hostCpus := [2] }, { vcpu := 1, hostCpus := [3] }] ∧
      Pinned {3, 2} 2 cfg.cpus.affinity := by
  have hdedicated : pinnedVM.spec.instance_.cpu.dedicatedCPUPlacement = true := rfl
  have hparse : (parse (trimSpace "2-3\n")).Returns (.ok {3, 2}) := ⟨3, rfl⟩
  rcases (dedicated_cpus_pinned hdedicated hparse pinningHost_reads).2 with
    ⟨hne, -⟩ | ⟨-, -, hpinned⟩
  · exact absurd (by decide) hne
  · exact ⟨_, rfl, rfl, rfl, (hpinned _ rfl).2⟩

end Virtink.Prerunner
