import Virtink.Admission.Updates
import Virtink.Controller.PodParts
import Virtink.Prerunner.Config

/-! # References between the Lists of a Spec

    An interface belongs to the network of the same name and a disk to the
    volume of the same name. The webhook validates each list on its own and
    never compares two of them, so an accepted VM need not have these partners:
    the pod builder then fails on the network without an interface, and the
    prerunner leaves the disk without a volume out.

    Given the partners, both builders do what they should.
-/

namespace Virtink

open Prerunner

/-! ### Partners -/

/-- Every network has an interface, every interface a network and every disk a
    volume. -/
structure VMSpec.Referenced (spec : VMSpec) : Prop where
  networks   : ∀ n ∈ spec.networks, ∃ i ∈ spec.instance_.interfaces, i.name = n.name
  interfaces : ∀ i ∈ spec.instance_.interfaces, ∃ n ∈ spec.networks, n.name = i.name
  disks      : ∀ d ∈ spec.instance_.disks, ∃ v ∈ spec.volumes, v.name = d.name

/-- The same as a comparison of the lists of names. -/
def VMSpec.namesMatch (spec : VMSpec) : Bool :=
  (spec.networks.map (·.name)).all ((spec.instance_.interfaces.map (·.name)).contains ·) &&
  (spec.instance_.interfaces.map (·.name)).all ((spec.networks.map (·.name)).contains ·) &&
  (spec.instance_.disks.map (·.name)).all ((spec.volumes.map (·.name)).contains ·)

theorem VMSpec.referenced_iff (spec : VMSpec) : spec.Referenced ↔ spec.namesMatch = true := by
  constructor
  · intro h
    simp only [namesMatch, Bool.and_eq_true, List.all_map, List.all_eq_true, Function.comp_apply,
      List.contains_eq_mem, decide_eq_true_eq, List.mem_map]
    exact ⟨⟨h.networks, h.interfaces⟩, h.disks⟩
  · intro h
    simp only [namesMatch, Bool.and_eq_true, List.all_map, List.all_eq_true, Function.comp_apply,
      List.contains_eq_mem, decide_eq_true_eq, List.mem_map] at h
    exact ⟨h.1.1, h.1.2, h.2⟩

/-! ### Surroundings in Order -/

/-- The claim of a volume is there, and populated if a DataVolume fills it. -/
def ClaimReady (env : BuildEnv) (v : Volume) : Prop :=
  ∃ pvc, env.pvc v.pvcName = .ok (some pvc) ∧
    ∀ dv, v.dataVolume = some dv → env.isPopulated pvc dv.volumeName = .ok true

/-- A NAD that a vhost-user interface can use. -/
def NAD.Supported (nad : NAD) : Prop :=
  ∃ cfg, nad.config = .ok cfg ∧ (cfg.type = "kube-ovn" ∨ cfg.type = "userspace")

/-- All claims and NADs that the spec refers to are there and usable. -/
structure BuildEnv.Ready (env : BuildEnv) (spec : VMSpec) : Prop where
  claims : ∀ v ∈ spec.volumes,
    v.persistentVolumeClaim.isSome = true ∨ v.dataVolume.isSome = true → ClaimReady env v
  nads : ∀ n ∈ spec.networks, ∀ m, n.multus = some m → ∃ nad,
    env.nad m.networkName = .ok nad ∧
    ∀ i ∈ spec.instance_.interfaces, i.name = n.name → i.vhostUser = true → nad.Supported

/-- Everything the prerunner does apart from the disks succeeds. -/
structure Prerunner.Host.Works (host : Host) (spec : VMSpec) : Prop where
  cpus  : ∃ a, cpuAffinity host spec.instance_.cpu = .ok a
  fs    : ∃ c, Loop.collect [] List.append (fsConfig host spec.volumes)
    spec.instance_.fileSystems = .ok c
  links : ∃ status links, networkStatusList host = .ok status ∧
    interfacesLinks host status spec.networks spec.instance_.interfaces = .ok links

/-! ### Building the Pod -/

/-- With its claim in order a volume contributes its parts. -/
theorem volumeParts_ok {env : BuildEnv} {vm : VM} {v : Volume} (hv : v.Single)
    (hclaim : v.persistentVolumeClaim.isSome = true ∨ v.dataVolume.isSome = true →
      ClaimReady env v) :
    ∃ p, volumeParts env vm v = .ok p := by
  cases hv with
  | containerDisk | cloudInit | containerRootfs => exact ⟨_, rfl⟩
  | persistentVolumeClaim hname =>
    obtain ⟨pvc, hpvc, -⟩ := hclaim (.inl rfl)
    simp only [Volume.pvcName] at hpvc
    simp [volumeParts, awaitReady, isReady, isBlock, getPVC, Volume.pvcName, hname, hpvc]
  | dataVolume hname =>
    obtain ⟨pvc, hpvc, hpopulated⟩ := hclaim (.inr rfl)
    simp only [Volume.pvcName] at hpvc
    simp [volumeParts, awaitReady, isReady, isBlock, getPVC, Volume.pvcName, hname, hpvc,
      hpopulated _ rfl]

theorem volumesParts_ok {env : BuildEnv} {vm : VM} (hvm : vm.spec.Accepted)
    (henv : env.Ready vm.spec) : ∃ p, volumesParts env vm vm.spec.volumes = .ok p := by
  refine Loop.collect_ok_iff.mpr ?_
  intro v hv
  exact volumeParts_ok (hvm.volumes_single v hv) (henv.claims v hv)

/-- A network with an interface contributes its parts, however many userspace
    interfaces there were before. -/
theorem networkParts_ok {env : BuildEnv} {vm : VM} {network : Network} (i n : Nat)
    (hiface : ∃ iface ∈ vm.spec.instance_.interfaces, iface.name = network.name)
    (hnad : ∀ m, network.multus = some m → ∃ nad, env.nad m.networkName = .ok nad ∧
      ∀ iface ∈ vm.spec.instance_.interfaces, iface.name = network.name →
        iface.vhostUser = true → nad.Supported) :
    ∃ r, networkParts env vm i n network = .ok r := by
  obtain ⟨iface₀, hmem₀, hname₀⟩ := hiface
  cases hfind : vm.spec.instance_.interfaces.find? (·.name == network.name) with
  | none =>
    have hnone := List.find?_eq_none.mp hfind iface₀ hmem₀
    simp [hname₀] at hnone
  | some iface =>
    have hmem := List.mem_of_find?_eq_some hfind
    have hname : iface.name = network.name := by simpa using List.find?_some hfind
    cases hmultus : network.multus with
    | none => exact ⟨_, by simp only [networkParts, hfind, hmultus]; rfl⟩
    | some m =>
      obtain ⟨nad, hget, hsupported⟩ := hnad m hmultus
      by_cases hvhost : iface.vhostUser = true
      · obtain ⟨cfg, hcfg, htype⟩ := hsupported iface hmem hname hvhost
        rcases htype with htype | htype
        · simp [networkParts, hfind, hmultus, hget, hvhost, vhostUserParts, hcfg, htype]
        · simp [networkParts, hfind, hmultus, hget, hvhost, vhostUserParts, hcfg, htype]
      · simp [networkParts, hfind, hmultus, hget, hvhost]

/-- The loop over the networks goes through if every pass would. -/
theorem networksParts_ok {env : BuildEnv} {vm : VM} {l : List Network}
    (h : ∀ network ∈ l, ∀ i n, ∃ r, networkParts env vm i n network = .ok r) :
    ∀ i n, ∃ p, networksParts env vm i n l = .ok p := by
  induction l with
  | nil => intro i n; exact ⟨_, rfl⟩
  | cons network l ih =>
    intro i n
    obtain ⟨⟨p, n'⟩, hp⟩ := h network List.mem_cons_self i n
    obtain ⟨q, hq⟩ := ih (fun m hm => h m (List.mem_cons_of_mem _ hm)) (i + 1) n'
    exact ⟨p ++ q, by simp only [networksParts, hp, hq]⟩

/-- With partners for the networks, and claims and NADs in order, the pod is
    built. -/
theorem buildVMPod_ok {env : BuildEnv} {vm : VM} (hvm : vm.spec.Accepted)
    (href : ∀ n ∈ vm.spec.networks, ∃ i ∈ vm.spec.instance_.interfaces, i.name = n.name)
    (henv : env.Ready vm.spec) : ∃ pod, buildVMPod env vm = .ok pod := by
  obtain ⟨p, hp⟩ := volumesParts_ok hvm henv
  have hnetworks : ∀ network ∈ vm.spec.networks, ∀ i n,
      ∃ r, networkParts env vm i n network = .ok r := by
    intro network hnetwork i n
    exact networkParts_ok i n (href network hnetwork) (henv.nads network hnetwork)
  obtain ⟨q, hq⟩ := networksParts_ok hnetworks 0 0
  exact ⟨_, buildVMPod_eq_ok.mpr ⟨p, q, hp, hq, rfl⟩⟩

/-! ### Building the Configuration -/

/-- A volume with one source has a path. -/
theorem diskPath_ok {v : Volume} (hv : v.Single) (block : List String) :
    ∃ path, diskPath block v = .ok path := by
  cases hv <;> exact ⟨_, rfl⟩

/-- A disk with a volume contributes one configuration, with its own id. -/
theorem diskConfig_ok {volumes : List Volume} (hvolumes : ∀ v ∈ volumes, v.Single)
    (block : List String) {d : Disk} (hd : ∃ v ∈ volumes, v.name = d.name) :
    ∃ c, diskConfig block volumes d = .ok [c] ∧ c.id = d.name := by
  obtain ⟨v₀, hv₀, hname₀⟩ := hd
  cases hfind : volumes.find? (·.name == d.name) with
  | none =>
    have hnone := List.find?_eq_none.mp hfind v₀ hv₀
    simp [hname₀] at hnone
  | some v =>
    obtain ⟨path, hpath⟩ := diskPath_ok (hvolumes v (List.mem_of_find?_eq_some hfind)) block
    exact ⟨_, by simp only [diskConfig, hfind, hpath]; rfl, rfl⟩

/-- With a volume for every disk, the loop emits one configuration per disk. -/
theorem diskConfigs_ok {volumes : List Volume} (hvolumes : ∀ v ∈ volumes, v.Single)
    (block : List String) {disks : List Disk}
    (hdisks : ∀ d ∈ disks, ∃ v ∈ volumes, v.name = d.name) :
    ∃ cs, diskConfigs block volumes disks = .ok cs ∧
      cs.map (·.id) = disks.map (·.name) := by
  have hpass : ∀ d ∈ disks, ∃ c, diskConfig block volumes d = .ok [c] ∧ c.id = d.name :=
    fun d hd => diskConfig_ok hvolumes block (hdisks d hd)
  have hall : ∀ d ∈ disks, ∃ b, diskConfig block volumes d = .ok b := by
    intro d hd
    obtain ⟨c, hc, -⟩ := hpass d hd
    exact ⟨[c], hc⟩
  obtain ⟨cs, hcs⟩ := Loop.collect_ok_iff.mpr hall
  refine ⟨cs, hcs, ?_⟩
  have hfield := Loop.collect_field (g := fun cs : List DiskConfig => cs.map (·.id))
    (h := fun d : Disk => [d.name]) rfl (fun b c => List.map_append) ?_ hcs
  · rw [hfield, List.map_eq_flatMap]
  · intro d hd b hb
    obtain ⟨c, hc, hid⟩ := hpass d hd
    rw [hc] at hb
    cases hb
    simp [hid]

theorem buildVMConfig_ok {host : Host} {spec : VMSpec} (hspec : spec.Accepted)
    (href : ∀ d ∈ spec.instance_.disks, ∃ v ∈ spec.volumes, v.name = d.name)
    (hhost : host.Works spec) :
    ∃ cfg, buildVMConfig host spec = .ok cfg ∧
      cfg.disks.map (·.id) = spec.instance_.disks.map (·.name) := by
  obtain ⟨a, ha⟩ := hhost.cpus
  obtain ⟨fs, hfs⟩ := hhost.fs
  obtain ⟨status, links, hstatus, hlinks⟩ := hhost.links
  obtain ⟨cs, hcs, hids⟩ := diskConfigs_ok hspec.volumes_single (blockVolumes host) href
  exact ⟨configOf host spec a cs fs links,
    buildVMConfig_eq_ok.mpr ⟨a, cs, fs, status, links, ha, hcs, hfs, hstatus, hlinks, rfl⟩, hids⟩

/-! ### Without a Partner -/

/-- Surroundings in which every claim and every NAD is in order. -/
def plainEnv : BuildEnv where
  prerunnerImageName := "virt-prerunner"
  pvc _ := .ok (some {})
  isPopulated _ _ := .ok true
  nad _ := .ok { config := .ok { type := "userspace" } }
  base64 s := s
  networksJSON _ := ""
  vmData _ := ""

theorem plainEnv_ready (spec : VMSpec) : plainEnv.Ready spec where
  claims _ _ _ := ⟨{}, rfl, fun _ _ => rfl⟩
  nads _ _ _ _ := ⟨_, rfl, fun _ _ _ _ => ⟨{ type := "userspace" }, rfl, .inr rfl⟩⟩

/-- The loop over the networks stops at one without an interface. -/
theorem exists_iface_of_networksParts {env : BuildEnv} {vm : VM} {l : List Network} {i n : Nat}
    {p : PodParts} (h : networksParts env vm i n l = .ok p) :
    ∀ network ∈ l, ∃ iface ∈ vm.spec.instance_.interfaces, iface.name = network.name := by
  intro network hnetwork
  obtain ⟨j, m, r, hpass⟩ := (networksParts_passes h).1 network hnetwork
  simp only [networkParts] at hpass
  split at hpass
  · cases hpass
  · next iface hfind =>
    exact ⟨iface, List.mem_of_find?_eq_some hfind, by simpa using List.find?_some hfind⟩

/-- A pod that was built has an interface for every network. -/
theorem exists_iface_of_buildVMPod {env : BuildEnv} {vm : VM} {pod : VMPod}
    (h : buildVMPod env vm = .ok pod) :
    ∀ network ∈ vm.spec.networks, ∃ iface ∈ vm.spec.instance_.interfaces,
      iface.name = network.name := by
  obtain ⟨_, _, -, hnetworks, -⟩ := buildVMPod_eq_ok.mp h
  exact exists_iface_of_networksParts hnetworks

/-- A container in which everything works, with `n` CPUs. -/
def plainHost (n : Nat) : Host where
  getenv _ := ""
  cpuset := .ok (List.range n)
  mkdirSockets := .ok ()
  startVirtiofsd _ _ := .ok ()
  exists_ _ := true
  networkStatus _ := .ok []
  setupBridgeNetwork _ _ c := .ok c
  setupMasqueradeNetwork _ _ c := .ok c
  setupVhostUserNetwork _ c := .ok c

theorem plainHost_interfaceLinks (n : Nat) (status : List NetworkStatus) (iface : Interface)
    (link : String) (i : Nat) : ∃ l, interfaceLinks (plainHost n) status iface link i = .ok l := by
  simp only [interfaceLinks]
  split <;> exact ⟨_, rfl⟩

theorem plainHost_ifaceNetworks (n : Nat) (status : List NetworkStatus) (iface : Interface)
    {networks : List Network} (hnetworks : ∀ m ∈ networks, m.Single) (i : Nat) :
    ∃ l, ifaceNetworks (plainHost n) status iface i networks = .ok l := by
  induction networks generalizing i with
  | nil => exact ⟨_, rfl⟩
  | cons network networks ih =>
    obtain ⟨rest, hrest⟩ := ih (fun m hm => hnetworks m (List.mem_cons_of_mem _ hm)) (i + 1)
    have hlink : ∃ link, linkName network i = .ok link := by
      cases hnetworks network List.mem_cons_self <;> exact ⟨_, rfl⟩
    obtain ⟨link, hlink⟩ := hlink
    obtain ⟨links, hlinks⟩ := plainHost_interfaceLinks n status iface link i
    simp only [ifaceNetworks, hlink, hlinks, hrest]
    split <;> exact ⟨_, rfl⟩

theorem plainHost_works {spec : VMSpec} (hspec : spec.Accepted) :
    (plainHost (numVCPUs spec.instance_.cpu)).Works spec where
  cpus := by
    simp only [cpuAffinity, plainHost, List.length_range]
    split
    · simp
    · exact ⟨_, rfl⟩
  fs := by
    refine Loop.collect_ok_iff.mpr ?_
    intro fs _
    simp only [fsConfig, plainHost]
    split <;> exact ⟨_, rfl⟩
  links := by
    have hlinks : ∃ links, interfacesLinks (plainHost (numVCPUs spec.instance_.cpu)) []
        spec.networks spec.instance_.interfaces = .ok links :=
      Loop.collect_ok_iff.mpr
        (fun iface _ => plainHost_ifaceNetworks _ _ iface hspec.networks_single 0)
    obtain ⟨links, h⟩ := hlinks
    exact ⟨[], links, rfl, h⟩

/-- The ids that the loop over the disks emits: those of disks with a volume. -/
theorem diskConfigs_ids {block : List String} {volumes : List Volume} {disks : List Disk}
    {cs : List DiskConfig} (h : diskConfigs block volumes disks = .ok cs) :
    cs.map (·.id) = (disks.filter (fun d => volumes.any (·.name == d.name))).map (·.name) := by
  have hfield := Loop.collect_field (g := fun cs : List DiskConfig => cs.map (·.id))
    (h := fun d : Disk => if volumes.any (·.name == d.name) then [d.name] else [])
    rfl (fun b c => List.map_append) ?_ h
  · rw [hfield, Loop.flatMap_ite]
  · intro d _ b hb
    simp only [diskConfig] at hb
    split at hb
    · next hfind =>
      cases hb
      have hnone : volumes.any (·.name == d.name) = false := by
        simpa [List.find?_eq_none] using hfind
      simp [hnone]
    · next v hfind =>
      have hname : v.name = d.name := by simpa using List.find?_some hfind
      have hsome : volumes.any (·.name == d.name) = true :=
        List.any_eq_true.mpr ⟨v, List.mem_of_find?_eq_some hfind, by simp [hname]⟩
      split at hb
      · cases hb
      · cases hb
        simp [hsome]

/-- One configuration per disk means a volume for every disk. -/
theorem exists_volume_of_diskConfigs {block : List String} {volumes : List Volume}
    {disks : List Disk} {cs : List DiskConfig} (h : diskConfigs block volumes disks = .ok cs)
    (hids : cs.map (·.id) = disks.map (·.name)) :
    ∀ d ∈ disks, ∃ v ∈ volumes, v.name = d.name := by
  rw [diskConfigs_ids h] at hids
  have hlength := congrArg List.length hids
  rw [List.length_map, List.length_map, List.length_filter_eq_length_iff] at hlength
  intro d hd
  simpa using hlength d hd

/-! ### The Whole Picture -/

/-- Whenever claims and NADs are in order, the pod is built. -/
def PodBuilds (vm : VM) : Prop :=
  ∀ env : BuildEnv, env.Ready vm.spec → ∃ pod, buildVMPod env vm = .ok pod

/-- Whenever the rest of the prerunner works, it emits one configuration for
    every disk. -/
def DisksEmitted (vm : VM) : Prop :=
  ∀ host : Host, host.Works vm.spec → ∃ cfg, buildVMConfig host vm.spec = .ok cfg ∧
    cfg.disks.map (·.id) = vm.spec.instance_.disks.map (·.name)

theorem podBuilds_iff {vm : VM} (hvm : vm.spec.Accepted) :
    PodBuilds vm ↔
      ∀ n ∈ vm.spec.networks, ∃ i ∈ vm.spec.instance_.interfaces, i.name = n.name := by
  constructor
  · intro h
    obtain ⟨pod, hpod⟩ := h plainEnv (plainEnv_ready vm.spec)
    exact exists_iface_of_buildVMPod hpod
  · intro h env henv
    exact buildVMPod_ok hvm h henv

theorem disksEmitted_iff {vm : VM} (hvm : vm.spec.Accepted) :
    DisksEmitted vm ↔
      ∀ d ∈ vm.spec.instance_.disks, ∃ v ∈ vm.spec.volumes, v.name = d.name := by
  constructor
  · intro h
    obtain ⟨cfg, hcfg, hids⟩ := h _ (plainHost_works hvm)
    obtain ⟨a, cs, fs, status, links, -, hcs, -, -, -, rfl⟩ := buildVMConfig_eq_ok.mp hcfg
    exact exists_volume_of_diskConfigs hcs hids
  · intro h host hhost
    exact buildVMConfig_ok hvm h hhost

/-- What an accepted VM guarantees, exactly: the references are in order and
    both builders go through iff the lists of names match. Each builder fails
    for want of its own partners only. -/
theorem accepted_vm_references {lib : Library} {vm : VM} {oldVM : Option VM}
    (h : validateVM lib vm oldVM = []) :
    (vm.spec.Referenced ∧ PodBuilds vm ∧ DisksEmitted vm ↔ vm.spec.namesMatch = true) ∧
    (PodBuilds vm ↔
      ∀ n ∈ vm.spec.networks, ∃ i ∈ vm.spec.instance_.interfaces, i.name = n.name) ∧
    (DisksEmitted vm ↔
      ∀ d ∈ vm.spec.instance_.disks, ∃ v ∈ vm.spec.volumes, v.name = d.name) := by
  have haccepted := accepted_of_validateVM h
  refine ⟨?_, podBuilds_iff haccepted, disksEmitted_iff haccepted⟩
  constructor
  · rintro ⟨href, -, -⟩
    exact vm.spec.referenced_iff.mp href
  · intro hnames
    have href := vm.spec.referenced_iff.mpr hnames
    exact ⟨href, (podBuilds_iff haccepted).mpr href.networks,
      (disksEmitted_iff haccepted).mpr href.disks⟩

/-- The sample machine with its root disk has its references in order. -/
theorem accepted_vm_references_sample :
    (Sample.withVolumes [Sample.rootDisk]).spec.Referenced ∧
      PodBuilds (Sample.withVolumes [Sample.rootDisk]) ∧
      DisksEmitted (Sample.withVolumes [Sample.rootDisk]) := by
  have haccepted : validateVM Sample.library (Sample.withVolumes [Sample.rootDisk]) none = [] := by
    decide
  exact (accepted_vm_references haccepted).1.mpr (by decide)

namespace Sample

/-- A machine with a network that has no interface and a disk that has no
    volume. -/
def dangling : VM :=
  { name := "vm"
    uid := "vm-uid"
    spec := {
      instance_ := {
        cpu := { sockets := 1, coresPerSocket := 1 }
        memory := { size := .units 1073741824 }
        disks := [{ name := "ghost" }] }
      networks := [{ name := "default", pod := true }] } }

end Sample

/-- The webhook accepts the machine with dangling references; its pod is never
    built, and the prerunner emits no disk. -/
theorem dangling_references_accepted :
    validateVM Sample.library Sample.dangling none = [] ∧
    (∀ env, buildVMPod env Sample.dangling =
      .error (.other "interface not found for network: default")) ∧
    (∀ block, diskConfigs block Sample.dangling.spec.volumes
      Sample.dangling.spec.instance_.disks = .ok []) ∧
    ¬ Sample.dangling.spec.Referenced := by
  refine ⟨by decide, fun env => rfl, fun block => rfl, ?_⟩
  intro h
  obtain ⟨i, hi, -⟩ := h.networks _ List.mem_cons_self
  cases hi

end Virtink
