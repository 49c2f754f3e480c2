import Virtink.Admission.VM

/-! # What the Webhook Accepts

    An accepted spec has volumes with one source each, interfaces with one
    binding method, networks with one backend, and distinct names in every
    list. `Accepted` collects this; later modules argue from it and never look
    into the validation again.
-/

namespace Virtink

/-! ### One of a Group -/

/-- A group without errors has a field that is set, and it is the only one. -/
theorem exactlyOne_eq_nil {what path : String} {l : List FieldChoice}
    (h : exactlyOne what path l = []) :
    (∃ c ∈ l, c.set = true) ∧ l.Pairwise (fun c d => c.set = true → d.set = false) ∧
      ∀ c ∈ l, c.set = true → c.errs = [] := by
  simp only [exactlyOne, List.append_eq_nil_iff, check_eq_nil] at h
  obtain ⟨hcount, hsome⟩ := h
  obtain ⟨hpair, herrs⟩ := atMostOne_eq_nil hcount
  refine ⟨?_, hpair, herrs⟩
  simpa using hsome

/-! ### Volumes -/

/-- A volume with exactly one source, which is valid. -/
inductive Volume.Single : Volume → Prop where
  | containerDisk {n : String} {s : ContainerDiskVolumeSource} (himage : s.image ≠ "") :
      Volume.Single { name := n, containerDisk := some s }
  | cloudInit {n : String} {s : CloudInitVolumeSource} :
      Volume.Single { name := n, cloudInit := some s }
  | containerRootfs {n : String} {s : ContainerRootfsVolumeSource} (himage : s.image ≠ "")
      (hsize : 0 < s.size.value) : Volume.Single { name := n, containerRootfs := some s }
  | persistentVolumeClaim {n : String} {s : PersistentVolumeClaimVolumeSource}
      (hclaim : s.claimName ≠ "") : Volume.Single { name := n, persistentVolumeClaim := some s }
  | dataVolume {n : String} {s : DataVolumeVolumeSource} (hvolume : s.volumeName ≠ "") :
      Volume.Single { name := n, dataVolume := some s }

theorem Volume.single_of_valid {v : Volume} {path : String}
    (h : validateVolumeSource v path = []) : v.Single := by
  obtain ⟨hset, hpair, herrs⟩ := exactlyOne_eq_nil h
  obtain ⟨n, cd, ci, cr, pvc, dv⟩ := v
  simp only [sourceChoice, List.pairwise_cons, List.mem_cons, List.not_mem_nil, or_false,
    forall_eq_or_imp, forall_eq, Option.isSome_eq_false_iff, exists_eq_or_imp, exists_eq_left]
    at hset hpair herrs
  -- the source that is set comes with "the later ones are not" from itself and
  -- "it would not be" from the earlier ones
  rcases hset with hs | hs | hs | hs | hs
  all_goals
    obtain ⟨s, rfl⟩ := Option.isSome_iff_exists.mp hs
    simp_all
  · exact .containerDisk (by simpa [validateContainerDiskVolumeSource] using herrs)
  · exact .cloudInit
  · have hvalid : s.image ≠ "" ∧ 0 < s.size.value := by
      simpa [validateContainerRootfsVolumeSource] using herrs
    exact .containerRootfs hvalid.1 hvalid.2
  · exact .persistentVolumeClaim (by simpa [validatePersistentVolumeClaimSource] using herrs)
  · exact .dataVolume (by simpa [validateDataVolumeSource] using herrs)

/-- A volume with one source that keeps its data in the pod is not
    hotpluggable. -/
theorem Volume.Single.not_hotpluggable {v : Volume} (h : v.Single)
    (hlocal : v.containerRootfs.isSome = true ∨ v.containerDisk.isSome = true) :
    v.isHotpluggable = false := by
  cases h <;> simp_all [isHotpluggable]

/-! ### Interfaces and Networks -/

/-- An interface with exactly one binding method. -/
inductive Interface.Single : Interface → Prop where
  | bridge {n mac : String} : Interface.Single { name := n, mac := mac, bridge := true }
  | masquerade {n mac : String} {m : InterfaceMasquerade} :
      Interface.Single { name := n, mac := mac, masquerade := some m }
  | sriov {n mac : String} : Interface.Single { name := n, mac := mac, sriov := true }
  | vdpa {n mac : String} {v : InterfaceVDPA} :
      Interface.Single { name := n, mac := mac, vdpa := some v }
  | vhostUser {n mac : String} : Interface.Single { name := n, mac := mac, vhostUser := true }

theorem Interface.single_of_valid {lib : Library} {iface : Interface} {path : String}
    (h : validateInterfaceBindingMethod lib iface path = []) : iface.Single := by
  obtain ⟨hset, hpair, -⟩ := exactlyOne_eq_nil h
  obtain ⟨n, mac, bridge, masquerade, sriov, vdpa, vhostUser⟩ := iface
  simp only [List.pairwise_cons, List.mem_cons, List.not_mem_nil, or_false, forall_eq_or_imp,
    forall_eq, Option.isSome_eq_false_iff, exists_eq_or_imp, exists_eq_left] at hset hpair
  rcases hset with rfl | hs | rfl | hs | rfl
  · simp_all; exact .bridge
  · obtain ⟨m, rfl⟩ := Option.isSome_iff_exists.mp hs
    simp_all; exact .masquerade
  · simp_all; exact .sriov
  · obtain ⟨v, rfl⟩ := Option.isSome_iff_exists.mp hs
    simp_all; exact .vdpa
  · simp_all; exact .vhostUser

/-- A network with exactly one backend. -/
inductive Network.Single : Network → Prop where
  | pod {n : String} : Network.Single { name := n, pod := true }
  | multus {n : String} {m : MultusNetworkSource} (hname : m.networkName ≠ "") :
      Network.Single { name := n, multus := some m }

theorem Network.single_of_valid {network : Network} {path : String}
    (h : validateNetwork network path = []) : network.Single := by
  simp only [validateNetwork, List.append_eq_nil_iff] at h
  obtain ⟨hset, hpair, herrs⟩ := exactlyOne_eq_nil h.2
  obtain ⟨n, pod, multus⟩ := network
  simp only [sourceChoice, List.pairwise_cons, List.mem_cons, List.not_mem_nil, or_false,
    forall_eq_or_imp, forall_eq, Option.isSome_eq_false_iff, exists_eq_or_imp, exists_eq_left]
    at hset hpair herrs
  rcases hset with rfl | hs
  · simp_all; exact .pod
  · obtain ⟨m, rfl⟩ := Option.isSome_iff_exists.mp hs
    simp_all; exact .multus herrs

/-! ### Accepted Specs -/

/-- What holds of a spec that the webhook accepts. -/
structure VMSpec.Accepted (spec : VMSpec) : Prop where
  volume_names    : (spec.volumes.map (·.name)).Nodup
  volumes_named   : ∀ v ∈ spec.volumes, v.name ≠ ""
  volumes_single  : ∀ v ∈ spec.volumes, v.Single
  network_names   : (spec.networks.map (·.name)).Nodup
  networks_single : ∀ n ∈ spec.networks, n.Single
  disk_names      : (spec.instance_.disks.map (·.name)).Nodup
  iface_names     : (spec.instance_.interfaces.map (·.name)).Nodup
  ifaces_single   : ∀ i ∈ spec.instance_.interfaces, i.Single

theorem VMSpec.accepted_of_valid {lib : Library} {spec : VMSpec} {path : String}
    (h : validateVMSpec lib spec path = []) : spec.Accepted := by
  simp only [validateVMSpec, validateInstance, List.append_eq_nil_iff] at h
  obtain ⟨⟨⟨-, hinstance⟩, hvolumes⟩, hnetworks⟩ := h
  obtain ⟨⟨⟨-, hdisks⟩, -⟩, hifaces⟩ := hinstance
  have hvol := validateNamed_eq_nil hvolumes
  have hnet := validateNamed_eq_nil hnetworks
  have hdisk := validateNamed_eq_nil hdisks
  have hiface := validateNamed_eq_nil hifaces
  refine ⟨hvol.1, ?_, ?_, hnet.1, ?_, hdisk.1, hiface.1, ?_⟩
  · intro v hv
    obtain ⟨p, hp⟩ := hvol.2.2 v hv
    simp only [validateVolume, List.append_eq_nil_iff, requireText_eq_nil] at hp
    exact hp.1
  · intro v hv
    obtain ⟨p, hp⟩ := hvol.2.2 v hv
    simp only [validateVolume, List.append_eq_nil_iff] at hp
    exact Volume.single_of_valid hp.2
  · intro n hn
    obtain ⟨p, hp⟩ := hnet.2.2 n hn
    exact Network.single_of_valid hp
  · intro i hi
    obtain ⟨p, hp⟩ := hiface.2.2 i hi
    simp only [validateInterface, List.append_eq_nil_iff] at hp
    exact Interface.single_of_valid hp.2.2

/-- An accepted version has an accepted spec, whether it is the first or not. -/
theorem accepted_of_validateVM {lib : Library} {vm : VM} {oldVM : Option VM}
    (h : validateVM lib vm oldVM = []) : vm.spec.Accepted := by
  simp only [validateVM, List.append_eq_nil_iff] at h
  exact VMSpec.accepted_of_valid h.1

end Virtink
