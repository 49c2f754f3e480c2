import Virtink.References
import Mathlib.Data.List.Perm.Basic

/-! # The Shape of a VM Pod

    The API server wants the volumes of a pod, its containers and the paths in
    each container to be distinct. `buildVMPod` appends names from several
    sources: fixed ones, those of the user's volumes, of secrets, of init
    containers per network and of socket directories. Up to order the names of
    a built pod are a sum of these sources, and the pod is well-formed iff the
    sources do not meet (`CollisionFree`).
-/

namespace Virtink

/-! ### Well-formed Pods -/

/-- The mount and device paths in a container. -/
def Container.paths (c : Container) : List String :=
  c.volumeMounts.map (·.mountPath) ++ c.volumeDevices.map (·.devicePath)

/-- All containers of a pod. -/
def VMPod.containers (pod : VMPod) : List Container :=
  pod.main :: pod.sidecars ++ pod.initContainers

/-- What the API server requires of a pod. -/
structure VMPod.WellFormed (pod : VMPod) : Prop where
  volumes    : (pod.volumes.map (·.name)).Nodup
  containers : (pod.containers.map (·.name)).Nodup
  paths      : ∀ c ∈ pod.containers, c.paths.Nodup

/-! ### Sources of Names -/

/-- The volumes of the pod that the instance asks for. -/
def Instance.volumeNames (i : Instance) : List String :=
  ["virtink", "hotplug-volumes"] ++ when i.kernel.isSome "virtink-kernel" ++
    when i.memory.hugepages.isSome "hugepages"

/-- The names that the builder gives to volumes of its own, other than the
    socket directories. -/
def VMSpec.internalNames (spec : VMSpec) : List String :=
  spec.instance_.volumeNames ++
    when (spec.volumes.any Volume.userSecret) "virtink-cloud-init-user-data" ++
    when (spec.volumes.any Volume.networkSecret) "virtink-cloud-init-network-data"

/-- The volumes of the user that are volumes of the pod from the start. -/
def VMSpec.podVolumes (spec : VMSpec) : List String :=
  (spec.volumes.filter (fun v => !v.isHotpluggable)).map (·.name)

/-- The socket directories of the vhost-user interfaces. -/
def VMSpec.sockets (env : BuildEnv) (spec : VMSpec) : List String :=
  socketVolumes 0 (spec.networks.filterMap (vhostKind env spec))

/-- The interface of the network is bound by masquerade. -/
def VMSpec.masqueraded (spec : VMSpec) (network : Network) : Bool :=
  (ifaceOf spec network).any (·.masquerade.isSome)

/-- No two sources of names meet, and none of them repeats a name. -/
structure CollisionFree (env : BuildEnv) (spec : VMSpec) : Prop where
  user_secrets    : spec.volumes.countP Volume.userSecret ≤ 1
  network_secrets : spec.volumes.countP Volume.networkSecret ≤ 1
  masquerades     : spec.networks.countP spec.masqueraded ≤ 1
  one_socket      : (spec.sockets env).length ≤ 1
  volumes         : ∀ name ∈ spec.podVolumes, name ∉ spec.internalNames
  sockets         : ∀ name ∈ spec.sockets env,
    name ∉ spec.internalNames ∧ name ∉ spec.podVolumes

/-! ### Volumes -/

theorem instanceParts_volumes (i : Instance) :
    (instanceParts i).volumes.map (·.name) = i.volumeNames := by
  cases hk : i.kernel <;> cases hh : i.memory.hugepages <;>
    simp [instanceParts, baseParts, kernelParts, hugepagesParts, Instance.volumeNames, hk, hh]

/-- The internal names with their repetitions: a secret is mentioned once for
    every volume that needs it. -/
def VMSpec.internalEntries (spec : VMSpec) : List String :=
  spec.instance_.volumeNames ++
    List.replicate (spec.volumes.countP Volume.userSecret) "virtink-cloud-init-user-data" ++
    List.replicate (spec.volumes.countP Volume.networkSecret) "virtink-cloud-init-network-data"

theorem VMSpec.mem_internalEntries {spec : VMSpec} {name : String} :
    name ∈ spec.internalEntries ↔ name ∈ spec.internalNames := by
  have hwhen : ∀ (p : Volume → Bool) (c : String),
      name ∈ List.replicate (spec.volumes.countP p) c ↔ name ∈ when (spec.volumes.any p) c := by
    intro p c
    cases hany : spec.volumes.any p with
    | false =>
      have hzero : spec.volumes.countP p = 0 := by
        rw [List.countP_eq_zero]
        simpa using hany
      simp [hzero]
    | true =>
      have hpos : spec.volumes.countP p ≠ 0 := by
        rw [← Nat.pos_iff_ne_zero, List.countP_pos_iff]
        simpa using hany
      simp [List.mem_replicate, hpos]
  simp only [internalEntries, internalNames, List.mem_append, hwhen]

theorem Instance.volumeNames_nodup (i : Instance) : i.volumeNames.Nodup := by
  cases hk : i.kernel.isSome <;> cases hh : i.memory.hugepages.isSome <;>
    simp [volumeNames, hk, hh]

/-- The internal names are distinct iff each secret is mentioned once. -/
theorem VMSpec.internalEntries_nodup (spec : VMSpec) :
    spec.internalEntries.Nodup ↔
      spec.volumes.countP Volume.userSecret ≤ 1 ∧ spec.volumes.countP Volume.networkSecret ≤ 1 := by
  have hfixed : ∀ name ∈ spec.instance_.volumeNames,
      name ≠ "virtink-cloud-init-user-data" ∧ name ≠ "virtink-cloud-init-network-data" := by
    intro name hname
    cases hk : spec.instance_.kernel.isSome <;> cases hh : spec.instance_.memory.hugepages.isSome <;>
      simp [Instance.volumeNames, hk, hh] at hname <;> grind
  constructor
  · intro h
    simp only [internalEntries, List.nodup_append, List.nodup_replicate] at h
    exact ⟨h.1.2.1, h.2.1⟩
  · rintro ⟨huser, hnetwork⟩
    simp only [internalEntries, List.nodup_append, List.nodup_replicate, List.mem_append,
      List.mem_replicate]
    refine ⟨⟨Instance.volumeNames_nodup _, huser, ?_⟩, hnetwork, ?_⟩
    · rintro a ha b ⟨-, rfl⟩
      exact (hfixed a ha).1
    · rintro a (ha | ⟨-, rfl⟩) b ⟨-, rfl⟩
      · exact (hfixed a ha).2
      · decide

/-- Up to order, the volumes that the loop over the user's volumes collects. -/
theorem VolumesFields.volumes_perm {env : BuildEnv} {l : List Volume} {r : PodParts}
    (h : VolumesFields env l r) :
    (r.volumes.map (·.name)).Perm
      (List.replicate (l.countP Volume.userSecret) "virtink-cloud-init-user-data" ++
        List.replicate (l.countP Volume.networkSecret) "virtink-cloud-init-network-data" ++
        (l.filter (fun v => !v.isHotpluggable)).map (·.name)) := by
  rw [h.volumes, ← Loop.flatMap_ite_const, ← Loop.flatMap_ite_const, ← Loop.flatMap_ite]
  refine (List.flatMap_append_perm l _ _).symm.trans ?_
  exact (List.flatMap_append_perm l _ _).symm.append_right _

/-- Up to order, the volumes of a pod are the internal ones, the user's and the
    socket directories. -/
theorem podParts_volumes_perm {env : BuildEnv} {vm : VM} {volumes networks : PodParts}
    (hsidecars : vm.spec.sidecarVolumes = []) (hv : VolumesFields env vm.spec.volumes volumes)
    (hn : NetworksFields env vm.spec 0 0 vm.spec.networks networks) :
    ((podParts env vm volumes networks).volumes.map (·.name)).Perm
      (vm.spec.internalEntries ++ vm.spec.podVolumes ++ vm.spec.sockets env) := by
  have hall : (podParts env vm volumes networks).volumes.map (·.name) =
      vm.spec.instance_.volumeNames ++ volumes.volumes.map (·.name) ++ vm.spec.sockets env := by
    simp [podParts, blockParts, sidecarParts, instanceParts_volumes, hn.volumes, hsidecars,
      VMSpec.sockets]
  rw [hall]
  refine List.Perm.append_right _ ?_
  refine (hv.volumes_perm.append_left _).trans ?_
  simp [VMSpec.internalEntries, VMSpec.podVolumes]

/-! ### Containers -/

/-- The interface of the network is bound by a bridge. -/
def VMSpec.bridged (spec : VMSpec) (network : Network) : Bool :=
  (ifaceOf spec network).any (·.bridge)

theorem bindingNames_eq (spec : VMSpec) (network : Network) (i : Nat) :
    bindingNames spec network i = when (spec.masqueraded network) "enable-ip-forward" ++
      when (spec.bridged network) ("enable-arp-ignore-" ++ toString i) := by
  cases h : ifaceOf spec network <;> simp [bindingNames, VMSpec.masqueraded, VMSpec.bridged, h]

/-- The init containers for the bridged networks; their names carry the index
    of the network. -/
def VMSpec.bridgeInits (spec : VMSpec) : List String :=
  (spec.networks.zipIdx.filter (fun x => spec.bridged x.1)).map
    (fun x => "enable-arp-ignore-" ++ toString x.2)

theorem VMSpec.bridgeInits_nodup (spec : VMSpec) : spec.bridgeInits.Nodup := by
  have hindex : ((spec.networks.zipIdx.filter (fun x => spec.bridged x.1)).map (·.2)).Nodup := by
    refine List.Nodup.sublist (List.filter_sublist.map _) ?_
    rw [List.zipIdx_map_snd]
    exact List.nodup_range'
  have hname : Function.Injective (fun i : Nat => "enable-arp-ignore-" ++ toString i) := by
    intro i j h
    exact Text.toString_injective ((String.append_right_inj _).mp h)
  have hmap := hindex.map hname
  rwa [List.map_map] at hmap

/-- The init containers of the user's volumes. -/
def VMSpec.volumeInits (spec : VMSpec) : List String :=
  (spec.volumes.filter Volume.filled).map (fun v => "init-volume-" ++ v.name)

theorem VMSpec.volumeInits_nodup {spec : VMSpec} (h : (spec.volumes.map (·.name)).Nodup) :
    spec.volumeInits.Nodup := by
  have hnames : ((spec.volumes.filter Volume.filled).map (·.name)).Nodup :=
    h.sublist (List.filter_sublist.map _)
  have hinj : Function.Injective (fun name : String => "init-volume-" ++ name) := by
    intro a b hab
    exact (String.append_right_inj _).mp hab
  have hmap := hnames.map hinj
  rwa [List.map_map] at hmap

/-- Up to order, the init containers for the networks. -/
theorem networkInits_perm (spec : VMSpec) :
    (spec.networks.zipIdx.flatMap (fun x => bindingNames spec x.1 x.2)).Perm
      (List.replicate (spec.networks.countP spec.masqueraded) "enable-ip-forward" ++
        spec.bridgeInits) := by
  have hcount : spec.networks.countP spec.masqueraded =
      spec.networks.zipIdx.countP (fun x => spec.masqueraded x.1) := by
    have hfst : spec.networks.zipIdx.map Prod.fst = spec.networks := List.zipIdx_map_fst 0 _
    conv_lhs => rw [← hfst]
    rw [List.countP_map]
    rfl
  simp only [bindingNames_eq]
  refine (List.flatMap_append_perm _ _ _).symm.trans ?_
  rw [hcount, ← Loop.flatMap_ite_const, VMSpec.bridgeInits, ← Loop.flatMap_ite]
  exact List.Perm.refl _

/-- The init container that the kernel needs. -/
theorem instanceParts_inits (i : Instance) :
    (instanceParts i).initContainers.map (·.name) = when i.kernel.isSome "init-kernel" := by
  cases hk : i.kernel <;> cases hh : i.memory.hugepages <;>
    simp [instanceParts, baseParts, kernelParts, hugepagesParts, hk, hh]

/-- Up to order, the containers of a pod without sidecars. -/
def VMSpec.containerNames (spec : VMSpec) : List String :=
  "cloud-hypervisor" :: (when spec.instance_.kernel.isSome "init-kernel" ++ spec.volumeInits ++
    (List.replicate (spec.networks.countP spec.masqueraded) "enable-ip-forward" ++
      spec.bridgeInits))

theorem podParts_inits_perm {env : BuildEnv} {vm : VM} {volumes networks : PodParts}
    (hv : VolumesFields env vm.spec.volumes volumes)
    (hn : NetworksFields env vm.spec 0 0 vm.spec.networks networks) :
    ("cloud-hypervisor" :: (podParts env vm volumes networks).initContainers.map (·.name)).Perm
      vm.spec.containerNames := by
  have hall : (podParts env vm volumes networks).initContainers.map (·.name) =
      when vm.spec.instance_.kernel.isSome "init-kernel" ++ vm.spec.volumeInits ++
        vm.spec.networks.zipIdx.flatMap (fun x => bindingNames vm.spec x.1 x.2) := by
    simp only [podParts, blockParts, sidecarParts, PodParts.append_initContainers,
      List.map_append, instanceParts_inits, hv.inits, hn.inits, VMSpec.volumeInits, when,
      Loop.flatMap_ite, List.append_nil]
  rw [hall]
  exact ((networkInits_perm vm.spec).append_left _).cons _

/-- The names of different sources differ in their first characters; only the
    container for masquerading can be there twice. -/
theorem VMSpec.containerNames_nodup {spec : VMSpec} (h : (spec.volumes.map (·.name)).Nodup) :
    spec.containerNames.Nodup ↔ spec.networks.countP spec.masqueraded ≤ 1 := by
  have hvolume : ∀ name ∈ spec.volumeInits, name.toList.take 8 = "init-vol".toList := by
    intro name hname
    obtain ⟨v, -, rfl⟩ := List.mem_map.mp hname
    simp [String.toList_append]
  have hbridge : ∀ name ∈ spec.bridgeInits, name.toList.take 8 = "enable-a".toList := by
    intro name hname
    obtain ⟨x, -, rfl⟩ := List.mem_map.mp hname
    simp [String.toList_append]
  have hkernel : ∀ name ∈ when spec.instance_.kernel.isSome "init-kernel", name = "init-kernel" := by
    intro name hname
    cases hk : spec.instance_.kernel.isSome <;> simp_all
  constructor
  · intro hnodup
    simp only [containerNames, List.nodup_cons, List.nodup_append, List.nodup_replicate] at hnodup
    exact hnodup.2.2.1.1
  · intro hone
    simp only [containerNames, List.nodup_cons, List.nodup_append, List.nodup_replicate,
      List.mem_append, List.mem_replicate]
    refine ⟨?_, ⟨?_, volumeInits_nodup h, ?_⟩, ⟨hone, bridgeInits_nodup spec, ?_⟩, ?_⟩
    · rintro ((hmem | hmem) | ⟨-, hmem⟩ | hmem)
      · exact absurd (hkernel _ hmem) (by decide)
      · exact absurd (hvolume _ hmem) (by decide)
      · exact absurd hmem (by decide)
      · exact absurd (hbridge _ hmem) (by decide)
    · cases spec.instance_.kernel.isSome <;> simp
    · intro a ha b hb
      refine Text.ne_of_take 8 ?_
      rw [hkernel a ha, hvolume b hb]
      decide
    · rintro a ⟨-, rfl⟩ b hb
      refine Text.ne_of_take 8 ?_
      rw [hbridge b hb]
      decide
    · rintro a (ha | ha) b (⟨-, rfl⟩ | hb)
      · rw [hkernel a ha]
        decide
      · refine Text.ne_of_take 8 ?_
        rw [hkernel a ha, hbridge b hb]
        decide
      · refine Text.ne_of_take 8 ?_
        rw [hvolume a ha]
        decide
      · refine Text.ne_of_take 8 ?_
        rw [hvolume a ha, hbridge b hb]
        decide

/-! ### Paths -/

/-- The paths of the main container that the instance asks for. -/
def Instance.paths (i : Instance) : List String :=
  ["/var/run/virtink", "/hotplug-volumes"] ++ when i.kernel.isSome (mountPath "virtink-kernel") ++
    when i.memory.hugepages.isSome "/dev/hugepages"

theorem instanceParts_mounts (i : Instance) :
    (instanceParts i).volumeMounts.map (·.mountPath) = i.paths := by
  cases hk : i.kernel <;> cases hh : i.memory.hugepages <;>
    simp [instanceParts, baseParts, kernelParts, hugepagesParts, Instance.paths, hk, hh]

theorem instanceParts_devices (i : Instance) : (instanceParts i).volumeDevices = [] := by
  cases hk : i.kernel <;> cases hh : i.memory.hugepages <;>
    simp [instanceParts, baseParts, kernelParts, hugepagesParts, hk, hh]

/-- Every volume of the user in the pod is at one place, as a mount or as a
    device. -/
theorem podVolumes_perm (env : BuildEnv) (spec : VMSpec) :
    ((spec.volumes.filter (fun v => !v.isHotpluggable && !blockMode env v)).map
        (fun v => mountPath v.name) ++
      (spec.volumes.filter (fun v => !v.isHotpluggable && blockMode env v)).map
        (fun v => mountPath v.name)).Perm (spec.podVolumes.map mountPath) := by
  have hsplit := List.filter_append_perm (fun v => !blockMode env v)
    (spec.volumes.filter (fun v => !v.isHotpluggable))
  simp only [List.filter_filter, Bool.not_not] at hsplit
  have hmap := hsplit.map (fun v => mountPath v.name)
  rw [List.map_append] at hmap
  simpa only [VMSpec.podVolumes, List.map_map, Function.comp_def, Bool.and_comm] using hmap

/-- Up to order, the paths of the main container. -/
def VMSpec.mainPaths (env : BuildEnv) (spec : VMSpec) : List String :=
  spec.instance_.paths ++
    List.replicate (spec.volumes.countP Volume.networkSecret)
      (mountPath "virtink-cloud-init-network-data") ++
    List.replicate (spec.sockets env).length "/var/run/vhost-user" ++
    spec.podVolumes.map mountPath

theorem podParts_paths_perm {env : BuildEnv} {vm : VM} {volumes networks : PodParts}
    (hsidecars : vm.spec.sidecarVolumes = []) (hv : VolumesFields env vm.spec.volumes volumes)
    (hn : NetworksFields env vm.spec 0 0 vm.spec.networks networks) :
    ((podParts env vm volumes networks).volumeMounts.map (·.mountPath) ++
      (podParts env vm volumes networks).volumeDevices.map (·.devicePath)).Perm
      (vm.spec.mainPaths env) := by
  have hmounts : (podParts env vm volumes networks).volumeMounts.map (·.mountPath) =
      vm.spec.instance_.paths ++ volumes.volumeMounts.map (·.mountPath) ++
        List.replicate (vm.spec.sockets env).length "/var/run/vhost-user" := by
    simp [podParts, blockParts, sidecarParts, instanceParts_mounts, hn.mounts, hsidecars,
      VMSpec.sockets]
  have hdevices : (podParts env vm volumes networks).volumeDevices.map (·.devicePath) =
      (vm.spec.volumes.filter (fun v => !v.isHotpluggable && blockMode env v)).map
        (fun v => mountPath v.name) := by
    rw [← Loop.flatMap_ite]
    simp [podParts, blockParts, sidecarParts, instanceParts_devices, hn.devices, hv.devices, when]
  have hvolumes : (volumes.volumeMounts.map (·.mountPath)).Perm
      (List.replicate (vm.spec.volumes.countP Volume.networkSecret)
          (mountPath "virtink-cloud-init-network-data") ++
        (vm.spec.volumes.filter (fun v => !v.isHotpluggable && !blockMode env v)).map
          (fun v => mountPath v.name)) := by
    rw [hv.mounts, ← Loop.flatMap_ite_const, ← Loop.flatMap_ite]
    exact (List.flatMap_append_perm _ _ _).symm
  rw [hmounts, hdevices]
  -- the mounts of the user's volumes move behind the sockets, to the devices
  refine (((hvolumes.append_left _).append_right _).append_right _).trans ?_
  simp only [VMSpec.mainPaths, List.append_assoc]
  refine List.Perm.append_left _ (List.Perm.append_left _ ?_)
  refine (List.perm_append_comm_assoc _ _ _).trans (List.Perm.append_left _ ?_)
  exact podVolumes_perm env vm.spec

/-- The user's volumes are not mounted at a fixed place. -/
theorem VMSpec.not_mem_paths {spec : VMSpec} {name : String} (h : name ∉ spec.internalNames) :
    mountPath name ∉ spec.instance_.paths := by
  intro hmem
  have hne : ∀ path : String, path.toList.take 5 ≠ "/mnt/".toList → mountPath name ≠ path := by
    intro path hpath
    refine Text.ne_of_take 5 ?_
    intro heq
    exact hpath (heq.symm.trans (by simp [mountPath, String.toList_append]))
  simp only [Instance.paths, when, List.mem_append, List.mem_cons, List.not_mem_nil, or_false]
    at hmem
  rcases hmem with ((hmem | hmem) | hmem) | hmem
  · exact hne _ (by decide) hmem
  · exact hne _ (by decide) hmem
  · split at hmem
    · next hk =>
      rw [List.mem_singleton] at hmem
      have heq : name = "virtink-kernel" := (String.append_right_inj _).mp hmem
      simp [internalNames, Instance.volumeNames, hk, heq] at h
    · cases hmem
  · split at hmem
    · exact hne _ (by decide) (List.mem_singleton.mp hmem)
    · cases hmem

theorem VMSpec.podVolumes_nodup {spec : VMSpec} (h : (spec.volumes.map (·.name)).Nodup) :
    spec.podVolumes.Nodup :=
  h.sublist (List.filter_sublist.map _)

theorem Instance.paths_nodup (i : Instance) :
    i.paths.Nodup ∧ mountPath "virtink-cloud-init-network-data" ∉ i.paths ∧
      "/var/run/vhost-user" ∉ i.paths := by
  cases hk : i.kernel.isSome <;> cases hh : i.memory.hugepages.isSome <;>
    simp [paths, mountPath, hk, hh]

/-- The paths of the main container are distinct if no names collide. -/
theorem CollisionFree.mainPaths_nodup {env : BuildEnv} {spec : VMSpec}
    (h : CollisionFree env spec) (hnames : (spec.volumes.map (·.name)).Nodup) :
    (spec.mainPaths env).Nodup := by
  obtain ⟨hfixed, hdata, hsocket⟩ := Instance.paths_nodup spec.instance_
  have huser : (spec.podVolumes.map mountPath).Nodup :=
    (VMSpec.podVolumes_nodup hnames).map (fun a b hab => (String.append_right_inj _).mp hab)
  simp only [VMSpec.mainPaths, List.nodup_append, List.nodup_replicate, List.mem_append,
    List.mem_replicate]
  refine ⟨⟨⟨hfixed, h.network_secrets, ?_⟩, h.one_socket, ?_⟩, huser, ?_⟩
  · rintro a ha b ⟨-, rfl⟩ rfl
    exact hdata ha
  · rintro a (ha | ⟨-, rfl⟩) b ⟨-, rfl⟩ hab
    · exact hsocket (hab ▸ ha)
    · exact absurd hab (by decide)
  · rintro a ha b hb rfl
    obtain ⟨name, hname, rfl⟩ := List.mem_map.mp hb
    have hfresh := h.volumes name hname
    rcases ha with (ha | ⟨hcount, ha⟩) | ⟨-, ha⟩
    · exact VMSpec.not_mem_paths hfresh ha
    · -- the secret is mounted, so its name is an internal one
      have heq : name = "virtink-cloud-init-network-data" := (String.append_right_inj _).mp ha
      refine hfresh (VMSpec.mem_internalEntries.mp ?_)
      simp [VMSpec.internalEntries, List.mem_replicate, hcount, heq]
    · exact Text.ne_of_take 5 (by simp [mountPath, String.toList_append]) ha

/-- The paths in the init container of a volume: its own one, and that of the
    secret with the user data. -/
theorem volumeParts_init_paths {env : BuildEnv} {vm : VM} {v : Volume} {p : PodParts}
    (hv : v.Single) (h : volumeParts env vm v = .ok p) {c : Container}
    (hc : c ∈ p.initContainers) :
    v.isHotpluggable = false ∧ c.paths =
      when v.userSecret (mountPath "virtink-cloud-init-user-data") ++ [mountPath v.name] := by
  cases hv with
  | containerDisk | containerRootfs =>
    simp only [volumeParts, Except.ok.injEq] at h
    subst h
    rw [List.mem_singleton.mp hc]
    exact ⟨rfl, rfl⟩
  | @cloudInit n s =>
    simp only [volumeParts, Except.ok.injEq] at h
    subst h
    rw [List.mem_singleton.mp hc]
    refine ⟨rfl, ?_⟩
    simp [Container.paths, secretMounts_paths, userData_secret, Volume.userSecret, userMount]
  | persistentVolumeClaim | dataVolume =>
    -- a claim has no init container
    simp only [volumeParts, Option.isSome_some, Option.isSome_none, Bool.or_true, Bool.or_false,
      if_true] at h
    split at h
    · cases h
    · split at h
      · cases h
      · cases h
        cases hc

/-- The paths in every init container are distinct if no names collide. -/
theorem CollisionFree.inits_nodup {env : BuildEnv} {vm : VM} {volumes networks : PodParts}
    (h : CollisionFree env vm.spec) (hsingle : ∀ v ∈ vm.spec.volumes, v.Single)
    (hv : volumesParts env vm vm.spec.volumes = .ok volumes)
    (hn : NetworksFields env vm.spec 0 0 vm.spec.networks networks) {c : Container}
    (hc : c ∈ (podParts env vm volumes networks).initContainers) : c.paths.Nodup := by
  have hsource : c ∈ (instanceParts vm.spec.instance_).initContainers ∨
      c ∈ volumes.initContainers ∨ c ∈ networks.initContainers := by
    simpa [podParts, blockParts, sidecarParts, or_assoc] using hc
  rcases hsource with hc | hc | hc
  · cases hk : vm.spec.instance_.kernel with
    | none => cases hh : vm.spec.instance_.memory.hugepages <;>
        simp [instanceParts, baseParts, hugepagesParts, hk, hh] at hc
    | some kernel =>
      have hone : c.paths = [mountPath "virtink-kernel"] := by
        cases hh : vm.spec.instance_.memory.hugepages <;>
          simp [instanceParts, baseParts, kernelParts, hugepagesParts, hk, hh] at hc <;>
          simp [hc, Container.paths]
      rw [hone]
      exact List.nodup_singleton _
  · obtain ⟨v, hmem, p, hp, hcp⟩ := Loop.mem_collect
      (g := fun p : PodParts => p.initContainers) rfl (fun _ _ => rfl) hv hc
    obtain ⟨hplug, hpaths⟩ := volumeParts_init_paths (hsingle v hmem) hp hcp
    have hpod : v.name ∈ vm.spec.podVolumes :=
      List.mem_map_of_mem (List.mem_filter.mpr ⟨hmem, by simp [hplug]⟩)
    rw [hpaths]
    cases hsecret : v.userSecret with
    | false => simp
    | true =>
      have hany : vm.spec.volumes.any Volume.userSecret = true :=
        List.any_eq_true.mpr ⟨v, hmem, hsecret⟩
      have hne : "virtink-cloud-init-user-data" ≠ v.name := by
        intro heq
        refine h.volumes v.name hpod ?_
        simp [VMSpec.internalNames, hany, ← heq]
      have hpath : mountPath "virtink-cloud-init-user-data" ≠ mountPath v.name :=
        fun heq => hne ((String.append_right_inj _).mp heq)
      simp [hpath]
  · obtain ⟨hmounts, hdevices⟩ := hn.plain c hc
    simp [Container.paths, hmounts, hdevices]

/-! ### The Pod -/

section pod
variable {env : BuildEnv} {vm : VM} {volumes networks : PodParts}

/-- The volumes of the pod are distinct iff its sources of volumes are. -/
theorem volumes_nodup_iff (hsidecars : vm.spec.sidecarVolumes = []) (hvm : vm.spec.Accepted)
    (hv : VolumesFields env vm.spec.volumes volumes)
    (hn : NetworksFields env vm.spec 0 0 vm.spec.networks networks) :
    ((podParts env vm volumes networks).volumes.map (·.name)).Nodup ↔
      (vm.spec.volumes.countP Volume.userSecret ≤ 1 ∧
        vm.spec.volumes.countP Volume.networkSecret ≤ 1) ∧
      (∀ name ∈ vm.spec.podVolumes, name ∉ vm.spec.internalNames) ∧
      (vm.spec.sockets env).Nodup ∧
      ∀ name ∈ vm.spec.sockets env, name ∉ vm.spec.internalNames ∧ name ∉ vm.spec.podVolumes := by
  rw [(podParts_volumes_perm hsidecars hv hn).nodup_iff]
  simp only [List.nodup_append, VMSpec.internalEntries_nodup, List.mem_append]
  constructor
  · rintro ⟨⟨hinternal, -, huser⟩, hsockets, hfresh⟩
    refine ⟨hinternal, ?_, hsockets, ?_⟩
    · intro name hname hmem
      exact huser name (VMSpec.mem_internalEntries.mpr hmem) name hname rfl
    · intro name hname
      refine ⟨fun hmem => ?_, fun hmem => ?_⟩
      · exact hfresh name (.inl (VMSpec.mem_internalEntries.mpr hmem)) name hname rfl
      · exact hfresh name (.inr hmem) name hname rfl
  · rintro ⟨hinternal, huser, hsockets, hfresh⟩
    refine ⟨⟨hinternal, VMSpec.podVolumes_nodup hvm.volume_names, ?_⟩, hsockets, ?_⟩
    · rintro a ha b hb rfl
      exact huser a hb (VMSpec.mem_internalEntries.mp ha)
    · rintro a (ha | ha) b hb rfl
      · exact (hfresh a hb).1 (VMSpec.mem_internalEntries.mp ha)
      · exact (hfresh a hb).2 ha

/-- The containers of the pod are distinct iff one network at most is bound by
    masquerade. -/
theorem containers_nodup_iff (hsidecars : vm.spec.sidecars = []) (hvm : vm.spec.Accepted)
    (hv : VolumesFields env vm.spec.volumes volumes)
    (hn : NetworksFields env vm.spec 0 0 vm.spec.networks networks) :
    ((assemble env vm (podParts env vm volumes networks)).containers.map (·.name)).Nodup ↔
      vm.spec.networks.countP vm.spec.masqueraded ≤ 1 := by
  have hnames : (assemble env vm (podParts env vm volumes networks)).containers.map (·.name) =
      "cloud-hypervisor" :: (podParts env vm volumes networks).initContainers.map (·.name) := by
    simp [VMPod.containers, assemble, hsidecars]
  rw [hnames, (podParts_inits_perm hv hn).nodup_iff,
    VMSpec.containerNames_nodup hvm.volume_names]

end pod

/-- A pod that is built for an accepted VM without sidecars is well-formed iff
    the sources of its names do not collide. -/
theorem vm_pod_well_formed {lib : Library} {env : BuildEnv} {vm : VM} {oldVM : Option VM}
    {pod : VMPod} (haccepted : validateVM lib vm oldVM = []) (hsidecars : vm.spec.sidecars = [])
    (hsidecarVolumes : vm.spec.sidecarVolumes = []) (hpod : buildVMPod env vm = .ok pod) :
    pod.WellFormed ↔ CollisionFree env vm.spec := by
  have hvm := accepted_of_validateVM haccepted
  obtain ⟨volumes, networks, hvolumes, hnetworks, rfl⟩ := buildVMPod_eq_ok.mp hpod
  have hv := volumesParts_fields hvm.volumes_single hvolumes
  have hn := networksParts_fields hnetworks
  have hvolumeNames := volumes_nodup_iff hsidecarVolumes hvm hv hn
  have hcontainers := containers_nodup_iff hsidecars hvm hv hn
  have hpaths := podParts_paths_perm hsidecarVolumes hv hn
  constructor
  · intro h
    obtain ⟨⟨huser, hnetwork⟩, hfresh, -, hsockets⟩ := hvolumeNames.mp h.volumes
    have hmain := h.paths (assemble env vm (podParts env vm volumes networks)).main
      (by simp [VMPod.containers])
    have honce := hpaths.nodup_iff.mp hmain
    simp only [VMSpec.mainPaths, List.nodup_append, List.nodup_replicate] at honce
    exact ⟨huser, hnetwork, hcontainers.mp h.containers, honce.1.2.1, hfresh, hsockets⟩
  · intro h
    have hone : (vm.spec.sockets env).Nodup := by
      match hs : vm.spec.sockets env, h.one_socket with
      | [], _ => exact List.nodup_nil
      | [s], _ => exact List.nodup_singleton s
    refine ⟨hvolumeNames.mpr ⟨⟨h.user_secrets, h.network_secrets⟩, h.volumes, hone, h.sockets⟩,
      hcontainers.mpr h.masquerades, ?_⟩
    intro c hc
    have hsource : c = (assemble env vm (podParts env vm volumes networks)).main ∨
        ∃ c' ∈ (podParts env vm volumes networks).initContainers, c.paths = c'.paths := by
      simp only [VMPod.containers, assemble, hsidecars, List.cons_append, List.nil_append,
        List.mem_cons, List.mem_map] at hc
      rcases hc with hc | ⟨c', hc', rfl⟩
      · exact .inl hc
      · exact .inr ⟨c', hc', rfl⟩
    rcases hsource with rfl | ⟨c', hc', heq⟩
    · exact hpaths.nodup_iff.mpr (h.mainPaths_nodup hvm.volume_names)
    · rw [heq]
      exact h.inits_nodup hvm.volumes_single hvolumes hn hc'

/-- The pod of the sample machine is well-formed. -/
theorem vm_pod_well_formed_sample :
    ∃ pod, buildVMPod plainEnv (Sample.withVolumes [Sample.dataDisk, Sample.rootDisk]) = .ok pod ∧
      pod.WellFormed := by
  have haccepted : validateVM Sample.library
      (Sample.withVolumes [Sample.dataDisk, Sample.rootDisk]) none = [] := by decide
  have hfree : CollisionFree plainEnv (Sample.withVolumes [Sample.dataDisk, Sample.rootDisk]).spec :=
    ⟨by decide, by decide, by decide, by decide, by decide, by decide⟩
  exact ⟨_, rfl, (vm_pod_well_formed haccepted rfl rfl rfl).mpr hfree⟩

namespace Sample

/-- A machine with two networks that are bound by masquerade. -/
def masqueraded : VM :=
  { name := "vm"
    uid := "vm-uid"
    spec := {
      instance_ := {
        cpu := { sockets := 1, coresPerSocket := 1 }
        memory := { size := .units 1073741824 }
        interfaces :=
          [{ name := "pod", mac := "52:54:00:00:00:01",
             masquerade := some { cidr := "10.0.2.0/30" } },
           { name := "storage", mac := "52:54:00:00:00:02",
             masquerade := some { cidr := "10.0.3.0/30" } }] }
      networks :=
        [{ name := "pod", pod := true },
         { name := "storage", multus := some { networkName := "storage" } }] } }

end Sample

/-- The webhook accepts two masqueraded networks, and the pod gets two init
    containers of one name. -/
theorem masqueraded_pod_ill_formed :
    validateVM Sample.library Sample.masqueraded none = [] ∧
    Sample.masqueraded.spec.sidecars = [] ∧ Sample.masqueraded.spec.sidecarVolumes = [] ∧
    ∃ pod, buildVMPod plainEnv Sample.masqueraded = .ok pod ∧
      pod.containers.map (·.name) =
        ["cloud-hypervisor", "enable-ip-forward", "enable-ip-forward"] ∧
      ¬ pod.WellFormed := by
  refine ⟨by decide, rfl, rfl, _, rfl, by decide, ?_⟩
  intro h
  have hnodup := h.containers
  revert hnodup
  decide

end Virtink
