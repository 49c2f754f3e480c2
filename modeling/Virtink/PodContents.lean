import Virtink.DiskLocations
import Virtink.PodShape

/-! # What a VM Pod Relies On

    A pod that `buildVMPod` returns relies on two things: the data of its claims
    is there, and its init containers find the files they are told to use.

    Neither holds for every VM. The builder waits for a DataVolume only as long
    as its claim is not pending: with a pending claim it goes on and builds the
    pod before the import has finished (`pod_built_before_import`). And the
    secret with the network data of a cloud-init volume is mounted into the main
    container, while its path is handed to the init container
    (`network_data_not_mounted`).
-/

namespace Virtink

/-! ### Claims -/

/-- The builder takes the volume for one on a claim. -/
def Volume.onClaim (v : Volume) : Bool :=
  !v.filled && (v.persistentVolumeClaim.isSome || v.dataVolume.isSome)

/-- The import of a DataVolume has not finished, and its claim is pending. -/
def importPending (env : BuildEnv) (v : Volume) : Bool :=
  match isReady env v, getPVC env v with
  | .ok false, .ok (some pvc) => pvc.phase == .pending
  | _, _ => false

section claims
variable {env : BuildEnv} {vm : VM} {pod : VMPod} {v : Volume}

/-- What lets a volume on a claim pass: its data is there, or the import is
    pending. A claim that does not exist is found out when its mode is read. -/
theorem ready_or_pending {block : Bool} (hawait : awaitReady env v = .ok ())
    (hblock : isBlock env v = .ok block) :
    isReady env v = .ok true ∨ importPending env v = true := by
  cases hready : isReady env v with
  | error e =>
    simp only [awaitReady, hready] at hawait
    cases hawait
  | ok ready =>
    cases ready with
    | true => exact .inl rfl
    | false =>
      right
      cases hpvc : getPVC env v with
      | error e =>
        simp only [isBlock, hpvc] at hblock
        cases hblock
      | ok claim =>
        cases claim with
        | none =>
          simp only [isBlock, hpvc] at hblock
          cases hblock
        | some pvc =>
          have hphase : pvc.phase = .pending := by
            by_cases hphase : pvc.phase = .pending
            · exact hphase
            · by_cases hdata : v.dataVolume.isSome = true
              · simp [awaitReady, hready, hpvc, hdata, hphase] at hawait
              · simp [awaitReady, hready, hdata] at hawait
          simp [importPending, hready, hpvc, hphase]

/-- Of a pod that was built: the data of a volume on a claim is there unless
    its import is pending. -/
theorem isReady_iff_of_buildVMPod (hpod : buildVMPod env vm = .ok pod)
    (hv : v ∈ vm.spec.volumes) (hclaim : v.onClaim = true) :
    isReady env v = .ok true ↔ importPending env v = false := by
  simp only [Volume.onClaim, Bool.and_eq_true, Bool.not_eq_true'] at hclaim
  obtain ⟨hfilled, hsource⟩ := hclaim
  constructor
  · intro hready
    simp [importPending, hready]
  · intro hpending
    obtain ⟨p, hp, -⟩ := parts_in_pod hpod hv
    simp only [Volume.filled, Bool.or_eq_false_iff, Option.isSome_eq_false_iff,
      Option.isNone_iff_eq_none] at hfilled
    obtain ⟨⟨hdisk, hcloud⟩, hrootfs⟩ := hfilled
    simp only [volumeParts, hdisk, hcloud, hrootfs, hsource, if_true] at hp
    split at hp
    · cases hp
    · next hawait =>
      split at hp
      · cases hp
      · next block hblock =>
        rcases ready_or_pending hawait hblock with hready | hpending'
        · exact hready
        · rw [hpending] at hpending'
          cases hpending'

end claims

/-- **When a pod waits for its data.** For every VM and whatever the API server
    says about claims and DataVolumes: if a pod is built at all, then the data
    of all its volumes on claims is there exactly if no import is pending. -/
theorem pod_waits_for_data {env : BuildEnv} {vm : VM} {pod : VMPod}
    (hpod : buildVMPod env vm = .ok pod) :
    (∀ v ∈ vm.spec.volumes, v.onClaim = true → isReady env v = .ok true) ↔
      ∀ v ∈ vm.spec.volumes, v.onClaim = true → importPending env v = false := by
  constructor
  · intro h v hv hclaim
    exact (isReady_iff_of_buildVMPod hpod hv hclaim).mp (h v hv hclaim)
  · intro h v hv hclaim
    exact (isReady_iff_of_buildVMPod hpod hv hclaim).mpr (h v hv hclaim)

/-- The sample machine with a claim and its root disk. -/
theorem pod_waits_for_data_sample :
    ∃ pod, buildVMPod plainEnv (Sample.withVolumes [Sample.dataDisk, Sample.rootDisk]) = .ok pod ∧
      ∀ v ∈ [Sample.dataDisk, Sample.rootDisk], v.onClaim = true →
        isReady plainEnv v = .ok true := by
  have hpod : ∃ pod, buildVMPod plainEnv
      (Sample.withVolumes [Sample.dataDisk, Sample.rootDisk]) = .ok pod := ⟨_, rfl⟩
  obtain ⟨pod, hpod⟩ := hpod
  exact ⟨pod, hpod, (pod_waits_for_data hpod).mpr (by decide)⟩

namespace Sample

/-- A disk whose data is imported. -/
def importedDisk : Volume := { name := "data", dataVolume := some { volumeName := "import" } }

/-- A cluster in which the claim of every DataVolume is pending and nothing has
    been imported. -/
def pendingEnv : BuildEnv :=
  { plainEnv with
    pvc := fun _ => .ok (some { phase := .pending })
    isPopulated := fun _ _ => .ok false }

end Sample

/-- The webhook accepts a machine with a DataVolume, and its pod is built while
    the claim is pending and the import has not even begun. -/
theorem pod_built_before_import :
    validateVM Sample.library (Sample.withVolumes [Sample.importedDisk]) none = [] ∧
    (∃ pod, buildVMPod Sample.pendingEnv (Sample.withVolumes [Sample.importedDisk]) = .ok pod) ∧
    isReady Sample.pendingEnv Sample.importedDisk = .ok false :=
  ⟨by decide, ⟨_, rfl⟩, rfl⟩

/-! ### Files -/

/-- The text is an absolute path. -/
def isAbsolute (s : String) : Bool := s.toList.head? == some '/'

/-- The path lies under the mount. -/
def VolumeMount.Covers (m : VolumeMount) (path : String) : Prop :=
  ∃ rest, path = m.mountPath ++ "/" ++ rest

/-- Every mount of the container names a volume of the pod, and every absolute
    path in its arguments lies under one of them. -/
structure FilesMounted (pod : VMPod) (c : Container) : Prop where
  volumes : ∀ m ∈ c.volumeMounts, m.name ∈ pod.volumes.map (·.name)
  args    : ∀ arg ∈ c.args, isAbsolute arg = true → ∃ m ∈ c.volumeMounts, m.Covers arg

/-- The init container of a cloud-init volume has the path: it lies in the
    directory of the volume or, if the user data comes from a secret, in that of
    the secret. -/
def Volume.Reaches (v : Volume) (path : String) : Prop :=
  (userMount v).Covers path ∨ v.userSecret = true ∧
    VolumeMount.Covers { name := "virtink-cloud-init-user-data"
                         mountPath := mountPath "virtink-cloud-init-user-data" } path

/-- The data of the volume is where its init container finds it. The path of a
    secret with network data is only right for a volume that is named like the
    one of the secret; and what the user gives in base64 and looks like a path
    there happens to be one the container has. -/
structure Volume.DataMounted (v : Volume) : Prop where
  secret  : v.networkSecret = true → v.name = "virtink-cloud-init-network-data"
  user    : ∀ s, v.cloudInit = some s → s.userData = "" → isAbsolute s.userDataBase64 = true →
    v.Reaches s.userDataBase64
  network : ∀ s, v.cloudInit = some s → s.networkData = "" →
    isAbsolute s.networkDataBase64 = true → v.Reaches s.networkDataBase64

section files
variable {env : BuildEnv} {vm : VM} {pod : VMPod} {v : Volume}

theorem reaches_iff {s : CloudInitVolumeSource} (hv : v.cloudInit = some s) {path : String} :
    v.Reaches path ↔ ∃ m ∈ secretMounts "virtink-cloud-init-user-data" (userData env s).2 ++
      [userMount v], m.Covers path := by
  have hsecret : v.userSecret = (userData env s).2.isSome := by
    rw [userData_secret, Volume.userSecret, hv, Option.any_some]
  unfold Volume.Reaches
  rw [hsecret]
  cases (userData env s).2 <;> simp [secretMounts, or_comm]

/-- The secret with the network data is not mounted, so its path is right only
    by its name. -/
theorem reaches_networkData :
    v.Reaches "/mnt/virtink-cloud-init-network-data/value" ↔
      v.name = "virtink-cloud-init-network-data" := by
  have hpath : "/mnt/virtink-cloud-init-network-data/value" =
      "/mnt/" ++ ("virtink-cloud-init-network-data" ++ String.singleton '/' ++ "value") := by decide
  constructor
  · rintro (⟨rest, hrest⟩ | ⟨-, rest, hrest⟩)
    · have hname : v.name ++ String.singleton '/' ++ rest =
          "virtink-cloud-init-network-data" ++ String.singleton '/' ++ "value" := by
        rw [hpath] at hrest
        simp only [userMount, mountPath, String.append_assoc] at hrest
        rw [String.append_assoc, String.append_assoc]
        exact ((String.append_right_inj _).mp hrest).symm
      exact Text.eq_of_append_separator (by decide) (by decide) hname
    · -- the directory of the user data is another one
      refine absurd hrest (Text.ne_of_take 25 ?_)
      simp [mountPath, String.toList_append]
  · intro hname
    refine .inl ⟨"value", ?_⟩
    simp only [userMount, mountPath, hname]
    decide

/-- The user data in the arguments. -/
theorem userData_reached_iff (hbase64 : ∀ s, isAbsolute (env.base64 s) = false)
    {s : CloudInitVolumeSource} (hv : v.cloudInit = some s) :
    (isAbsolute (userData env s).1 = true → v.Reaches (userData env s).1) ↔
      (s.userData = "" → isAbsolute s.userDataBase64 = true → v.Reaches s.userDataBase64) := by
  have hempty : isAbsolute "" = false := rfl
  by_cases hplain : s.userData = ""
  · by_cases hencoded : s.userDataBase64 = ""
    · by_cases hsecret : s.userDataSecretName = ""
      · simp [userData, hplain, hencoded, hsecret]
      · have hreach : v.Reaches "/mnt/virtink-cloud-init-user-data/value" := by
          refine .inr ⟨by simp [Volume.userSecret, hv, hplain, hencoded, hsecret], "value", ?_⟩
          decide
        simp [userData, hplain, hencoded, hsecret, hreach, hempty]
    · simp [userData, hplain, hencoded]
  · simp [userData, hplain, hbase64]

/-- The network data in the arguments. -/
theorem networkData_reached_iff (hbase64 : ∀ s, isAbsolute (env.base64 s) = false)
    {s : CloudInitVolumeSource} (hv : v.cloudInit = some s) :
    (isAbsolute (networkData env s).1 = true → v.Reaches (networkData env s).1) ↔
      (v.networkSecret = true → v.name = "virtink-cloud-init-network-data") ∧
      (s.networkData = "" → isAbsolute s.networkDataBase64 = true →
        v.Reaches s.networkDataBase64) := by
  have hempty : isAbsolute "" = false := rfl
  by_cases hplain : s.networkData = ""
  · by_cases hencoded : s.networkDataBase64 = ""
    · by_cases hsecret : s.networkDataSecretName = ""
      · simp [networkData, Volume.networkSecret, hv, hplain, hencoded, hsecret, hempty]
      · have hpath : isAbsolute "/mnt/virtink-cloud-init-network-data/value" = true := by decide
        simp [networkData, Volume.networkSecret, hv, hplain, hencoded, hsecret, hempty, hpath,
          reaches_networkData]
    · simp [networkData, Volume.networkSecret, hv, hplain, hencoded]
  · simp [networkData, Volume.networkSecret, hv, hplain, hbase64]

/-- A number is no path. -/
theorem isAbsolute_toString (n : Int) : isAbsolute (toString n) = false := by
  show isAbsolute n.repr = false
  rw [Int.repr_eq_if]
  split
  · rw [Nat.repr_eq_ofList_toDigits, isAbsolute, String.toList_ofList, beq_eq_false_iff_ne]
    intro hslash
    -- the slash would have to be a digit
    have hdigit := Nat.isDigit_of_mem_toDigits (by decide) (by decide) (List.mem_of_head? hslash)
    revert hdigit
    decide
  · simp [isAbsolute, String.toList_append]

/-- The init containers of the instance. -/
theorem instanceParts_files {i : Instance} {c : Container}
    (hc : c ∈ (instanceParts i).initContainers) :
    (∀ m ∈ c.volumeMounts, m.name ∈ (instanceParts i).volumes.map (·.name)) ∧
      ∀ arg ∈ c.args, ∃ m ∈ c.volumeMounts, m.Covers arg := by
  cases hk : i.kernel with
  | none =>
    exfalso
    cases hh : i.memory.hugepages <;>
      simp [instanceParts, baseParts, hugepagesParts, hk, hh] at hc
  | some kernel =>
    have hkernel : c ∈ (kernelParts kernel).initContainers := by
      cases hh : i.memory.hugepages <;>
        simpa [instanceParts, baseParts, hugepagesParts, hk, hh] using hc
    rw [List.mem_singleton.mp hkernel]
    refine ⟨fun m hm => ?_, fun arg harg => ?_⟩
    · rw [List.mem_singleton.mp hm]
      simp [instanceParts, kernelParts, hk]
    · rw [List.mem_singleton.mp harg]
      refine ⟨_, List.mem_singleton_self _, "vmlinux", ?_⟩
      rw [String.append_assoc]
      rfl

/-- Absolute paths in the arguments lie under mounts of the container. -/
def Container.PathsCovered (c : Container) : Prop :=
  ∀ arg ∈ c.args, isAbsolute arg = true → ∃ m ∈ c.volumeMounts, m.Covers arg

/-- The init container of a volume that an image fills. -/
theorem imageInit_covered {image pullPolicy : String} (file : String) {args : List String}
    (hargs : ∀ arg ∈ args, isAbsolute arg = true → arg = mountPath v.name ++ "/" ++ file) :
    (imageInit v image pullPolicy args).PathsCovered :=
  fun arg harg hpath => ⟨userMount v, List.mem_singleton_self _, file, hargs arg harg hpath⟩

/-- The init container of a cloud-init volume. -/
theorem cloudInit_covered_iff (hbase64 : ∀ s, isAbsolute (env.base64 s) = false)
    {s : CloudInitVolumeSource} (hv : v.cloudInit = some s) :
    (∀ c ∈ (cloudInitParts env vm v s).initContainers, c.PathsCovered) ↔ v.DataMounted := by
  have hiso : v.Reaches (mountPath v.name ++ "/cloud-init.iso") := by
    refine .inl ⟨"cloud-init.iso", ?_⟩
    rw [String.append_assoc]
    rfl
  have hcovered : (∀ c ∈ (cloudInitParts env vm v s).initContainers, c.PathsCovered) ↔
      (isAbsolute (userData env s).1 = true → v.Reaches (userData env s).1) ∧
      (isAbsolute (networkData env s).1 = true → v.Reaches (networkData env s).1) := by
    have hword : isAbsolute "cloud-init" = false := by decide
    simp only [cloudInitParts, Container.PathsCovered, List.forall_mem_singleton,
      List.forall_mem_cons, ← reaches_iff hv, hbase64, hword, hiso, implies_true, and_true,
      Bool.false_eq_true, false_implies, true_and]
  rw [hcovered, userData_reached_iff hbase64 hv, networkData_reached_iff hbase64 hv]
  constructor
  · rintro ⟨huser, hsecret, hnetwork⟩
    refine ⟨hsecret, fun s' hs' => ?_, fun s' hs' => ?_⟩ <;>
      (rw [hv, Option.some.injEq] at hs'; subst hs'; assumption)
  · exact fun h => ⟨h.user s hv, h.secret, h.network s hv⟩

/-- A volume that is no cloud-init volume has no data to be found. -/
theorem dataMounted_of_none (hv : v.cloudInit = none) : v.DataMounted where
  secret h := by simp [Volume.networkSecret, hv] at h
  user s hs := by rw [hv] at hs; cases hs
  network s hs := by rw [hv] at hs; cases hs

/-- The mounts of the init container of a user volume. -/
theorem volumeParts_named {p : PodParts} (hv : v.Single) (h : volumeParts env vm v = .ok p)
    {c : Container} (hc : c ∈ p.initContainers) :
    ∀ m ∈ c.volumeMounts, m.name ∈ p.volumes.map (·.name) := by
  cases hv with
  | @cloudInit n s =>
    simp only [volumeParts, Except.ok.injEq] at h
    subst h
    rw [List.mem_singleton.mp hc]
    intro m hm
    rcases List.mem_append.mp hm with hm | hm
    · cases hs : (userData env s).2 with
      | none => simp [secretMounts, hs] at hm
      | some secret =>
        simp only [secretMounts, hs, Option.toList_some, List.map_cons, List.map_nil,
          List.mem_singleton] at hm
        simp [hm, cloudInitParts, secretVolumes, hs]
    · rw [List.mem_singleton.mp hm]
      simp [cloudInitParts, userMount]
  | containerDisk | containerRootfs =>
    simp only [volumeParts, Except.ok.injEq] at h
    subst h
    rw [List.mem_singleton.mp hc]
    simp [imageInit, imageParts, userMount]
  | persistentVolumeClaim | dataVolume =>
    -- a claim has no init container
    obtain ⟨block, -, hclaim⟩ := claimParts_of_volumeParts rfl rfl h
    rw [h, Except.ok.injEq] at hclaim
    subst hclaim
    cases hc

/-- The paths in the arguments of the init container of a user volume. -/
theorem volumeParts_covered_iff {p : PodParts} (hbase64 : ∀ s, isAbsolute (env.base64 s) = false)
    (hv : v.Single) (h : volumeParts env vm v = .ok p) :
    (∀ c ∈ p.initContainers, c.PathsCovered) ↔ v.DataMounted := by
  cases hv with
  | @containerDisk n s =>
    simp only [volumeParts, Except.ok.injEq] at h
    subst h
    refine iff_of_true (List.forall_mem_singleton.mpr ?_) (dataMounted_of_none rfl)
    refine imageInit_covered "disk.raw" fun arg harg _ => ?_
    rw [List.mem_singleton.mp harg, String.append_assoc]
    rfl
  | @containerRootfs n s =>
    simp only [volumeParts, Except.ok.injEq] at h
    subst h
    refine iff_of_true (List.forall_mem_singleton.mpr ?_) (dataMounted_of_none rfl)
    refine imageInit_covered "rootfs.raw" fun arg harg hpath => ?_
    rcases List.mem_pair.mp harg with rfl | rfl
    · rw [String.append_assoc]
      rfl
    · rw [isAbsolute_toString] at hpath
      cases hpath
  | @cloudInit n s =>
    simp only [volumeParts, Except.ok.injEq] at h
    subst h
    exact cloudInit_covered_iff hbase64 rfl
  | persistentVolumeClaim | dataVolume =>
    obtain ⟨block, -, hclaim⟩ := claimParts_of_volumeParts rfl rfl h
    rw [h, Except.ok.injEq] at hclaim
    subst hclaim
    exact iff_of_true (fun c hc => by cases hc) (dataMounted_of_none rfl)

/-- The init containers of a network set kernel parameters and have no
    arguments. -/
theorem networkParts_args {network : Network} {i n n' : Nat} {p : PodParts}
    (h : networkParts env vm i n network = .ok (p, n')) : ∀ c ∈ p.initContainers, c.args = [] := by
  have hbinding : ∀ iface, ∀ c ∈ (bindingParts env i iface).initContainers, c.args = [] := by
    intro iface c hc
    simp only [bindingParts, List.mem_append] at hc
    rcases hc with hc | hc <;> split at hc <;> simp at hc <;> subst hc <;> rfl
  simp only [networkParts] at h
  split at h
  · cases h
  · next iface _ =>
    split at h
    · cases h
      exact hbinding iface
    · split at h
      · cases h
      · split at h
        · split at h
          · cases h
          · next q m hq =>
            cases h
            obtain ⟨-, -, -, -, hinits, -⟩ := vhostUserParts_fields hq
            simpa [multusParts, hinits] using hbinding iface
        · cases h
          simpa [multusParts] using hbinding iface

theorem networksParts_args {l : List Network} {i n : Nat} {p : PodParts}
    (h : networksParts env vm i n l = .ok p) : ∀ c ∈ p.initContainers, c.args = [] := by
  intro c hc
  obtain ⟨network, -, j, m, q, m', hpass, hq⟩ :=
    (networksParts_passes h).2 (fun p => p.initContainers) rfl (fun _ _ => rfl) c hc
  exact networkParts_args hpass c hq

end files

/-- **The files of the init containers are mounted** exactly where the data of
    every cloud-init volume is, for every accepted VM. -/
theorem init_files_mounted {lib : Library} {env : BuildEnv} {vm : VM} {oldVM : Option VM}
    {pod : VMPod} (haccepted : validateVM lib vm oldVM = [])
    (hbase64 : ∀ s, isAbsolute (env.base64 s) = false) (hpod : buildVMPod env vm = .ok pod) :
    (∀ c ∈ pod.initContainers, FilesMounted pod c) ↔ ∀ v ∈ vm.spec.volumes, v.DataMounted := by
  have hvm := accepted_of_validateVM haccepted
  obtain ⟨volumes, networks, hvolumes, hnetworks, rfl⟩ := buildVMPod_eq_ok.mp hpod
  constructor
  · intro hmounted v hv
    obtain ⟨p, hp, hmem⟩ := Loop.collect_mem (g := fun p : PodParts => p.initContainers)
      (fun _ _ => rfl) hvolumes hv
    refine (volumeParts_covered_iff hbase64 (hvm.volumes_single v hv) hp).mp fun c hc => ?_
    exact (hmounted _ (List.mem_map_of_mem (by simp [podParts, hmem c hc]))).args
  intro hdata c hc
  obtain ⟨c₀, hc₀, rfl⟩ := List.mem_map.mp hc
  have hsource : c₀ ∈ (instanceParts vm.spec.instance_).initContainers ∨
      c₀ ∈ volumes.initContainers ∨ c₀ ∈ networks.initContainers := by
    simpa [podParts, blockParts, sidecarParts, or_assoc] using hc₀
  rcases hsource with hc₀ | hc₀ | hc₀
  · obtain ⟨hnames, hargs⟩ := instanceParts_files hc₀
    refine ⟨fun m hm => ?_, fun arg harg _ => hargs arg harg⟩
    obtain ⟨volume, hvolume, hname⟩ := List.mem_map.mp (hnames m hm)
    refine List.mem_map.mpr ⟨volume, ?_, hname⟩
    simp [assemble, podParts, hvolume]
  · obtain ⟨v, hv, p, hp, hcp⟩ := Loop.mem_collect
      (g := fun p : PodParts => p.initContainers) rfl (fun _ _ => rfl) hvolumes hc₀
    obtain ⟨q, hq, hmem⟩ := Loop.collect_mem (g := fun p : PodParts => p.volumes)
      (fun _ _ => rfl) hvolumes hv
    rw [hp, Except.ok.injEq] at hq
    subst hq
    have hsingle := hvm.volumes_single v hv
    refine ⟨fun m hm => ?_, (volumeParts_covered_iff hbase64 hsingle hp).mpr (hdata v hv) c₀ hcp⟩
    obtain ⟨volume, hvolume, hname⟩ := List.mem_map.mp (volumeParts_named hsingle hp hcp m hm)
    refine List.mem_map.mpr ⟨volume, ?_, hname⟩
    simp [assemble, podParts, hmem volume hvolume]
  · have hmounts : c₀.volumeMounts = [] := ((networksParts_fields hnetworks).plain c₀ hc₀).1
    have hargs : c₀.args = [] := networksParts_args hnetworks c₀ hc₀
    refine ⟨fun m hm => ?_, fun arg harg _ => ?_⟩
    · simp [hmounts] at hm
    · simp [hargs] at harg

namespace Sample

/-- A volume that cloud-init reads. -/
def seed (s : CloudInitVolumeSource) : Volume := { name := "seed", cloudInit := some s }

/-- Surroundings in which encoded texts are marked as such. -/
def encodingEnv : BuildEnv := { plainEnv with base64 := fun s => "base64:" ++ s }

theorem encodingEnv_base64 (s : String) : isAbsolute (encodingEnv.base64 s) = false := by
  simp [isAbsolute, encodingEnv, String.toList_append]

end Sample

/-- A machine with its user data in a secret. -/
theorem init_files_mounted_sample :
    ∃ pod, buildVMPod Sample.encodingEnv
        (Sample.withVolumes [Sample.seed { userDataSecretName := "secret" }]) = .ok pod ∧
      pod.initContainers.map (·.name) = ["init-volume-seed"] ∧
      ∀ c ∈ pod.initContainers, FilesMounted pod c := by
  have haccepted : validateVM Sample.library
      (Sample.withVolumes [Sample.seed { userDataSecretName := "secret" }]) none = [] := by decide
  refine ⟨_, rfl, rfl, (init_files_mounted haccepted Sample.encodingEnv_base64 rfl).mpr ?_⟩
  intro v hv
  rw [List.mem_singleton.mp hv]
  refine ⟨fun h => ?_, fun s hs _ h => ?_, fun s hs _ h => ?_⟩
  · exact absurd h (by decide)
  · cases hs
    exact absurd h (by decide)
  · cases hs
    exact absurd h (by decide)

/-- The webhook accepts a machine with its network data in a secret. The path of
    the data is an argument of the init container, and the secret is mounted
    into the main container instead. -/
theorem network_data_not_mounted :
    validateVM Sample.library
        (Sample.withVolumes [Sample.seed { networkDataSecretName := "secret" }]) none = [] ∧
    ∃ pod c, buildVMPod Sample.encodingEnv
        (Sample.withVolumes [Sample.seed { networkDataSecretName := "secret" }]) = .ok pod ∧
      pod.initContainers = [c] ∧ "/mnt/virtink-cloud-init-network-data/value" ∈ c.args ∧
      (∃ m ∈ pod.main.volumeMounts, m.Covers "/mnt/virtink-cloud-init-network-data/value") ∧
      ¬ FilesMounted pod c := by
  refine ⟨by decide, _, _, rfl, rfl, by decide, ?_, ?_⟩
  · refine ⟨{ name := "virtink-cloud-init-network-data"
              mountPath := "/mnt/virtink-cloud-init-network-data" }, by decide, "value", by decide⟩
  · intro h
    obtain ⟨m, hm, rest, hrest⟩ :=
      h.args "/mnt/virtink-cloud-init-network-data/value" (by decide) (by decide)
    -- the only mount is that of the volume itself
    have hmount : m = { name := "seed", mountPath := "/mnt/seed" } := List.mem_singleton.mp hm
    rw [hmount] at hrest
    refine Text.ne_of_take 6 ?_ hrest
    simp [String.toList_append]

end Virtink
