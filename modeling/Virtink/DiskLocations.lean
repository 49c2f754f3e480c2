import Virtink.Daemon.Mounts
import Virtink.References

/-! # Where the Disks Are

    Three programs compute the path of a disk on their own: the controller
    mounts the volume or attaches it as a device and tells an init container
    which file to write, the daemon mounts hotplug volumes into the running
    pod, and the prerunner hands a path to the hypervisor. They share no code;
    that a claim is in block mode is passed on in the variable `BLOCK_VOLUMES`.
    For volumes whose names are DNS labels they agree.
-/

namespace Virtink

open Prerunner

/-! ### DNS Labels -/

/-- A label of RFC 1123: letters in lower case, digits and, inside, hyphens. -/
def isDNSLabel (s : String) : Bool :=
  s.toList.all (fun c => c.isLower || c.isDigit || c == '-') &&
  s.toList.head? != some '-' && s.toList.getLast? != some '-' &&
  s.toList != [] && decide (s.toList.length ≤ 63)

section labels
variable {s : String} (h : isDNSLabel s = true)
include h

/-- No other character occurs in a label. -/
theorem not_mem_of_isDNSLabel {c : Char} (hc : (c.isLower || c.isDigit || c == '-') = false) :
    c ∉ s.toList := by
  intro hmem
  simp only [isDNSLabel, Bool.and_eq_true, List.all_eq_true] at h
  have hchar := h.1.1.1.1 c hmem
  rw [hc] at hchar
  cases hchar

theorem ne_empty_of_isDNSLabel : s ≠ "" := by
  rintro rfl
  simp [isDNSLabel] at h

theorem component_of_isDNSLabel : Text.Path.Component s := by
  have hdot : '.' ∉ s.toList := not_mem_of_isDNSLabel h (by decide)
  refine ⟨not_mem_of_isDNSLabel h (by decide), ne_empty_of_isDNSLabel h, ?_, ?_⟩
  · rintro rfl
    simp at hdot
  · rintro rfl
    simp at hdot

/-- A label with a suffix is a component as well. -/
theorem component_image_of_isDNSLabel : Text.Path.Component (s ++ ".img") := by
  have hlength : 4 ≤ (s ++ ".img").toList.length := by simp [String.toList_append]
  have hslash : '/' ∉ s.toList := not_mem_of_isDNSLabel h (by decide)
  refine ⟨by simp [String.toList_append, hslash], ?_, ?_, ?_⟩ <;>
    · intro heq
      rw [heq] at hlength
      simp at hlength

end labels

/-! ### Block Volumes -/

/-- The value of a variable in a container; a later entry overrides an earlier
    one. -/
def Container.getenv (c : Container) (name : String) : String :=
  (((c.env.filter (·.name == name)).getLast?).map (·.value)).getD ""

/-- The volumes of a pod in block mode, in the order of the spec. -/
def blockNames (env : BuildEnv) (spec : VMSpec) : List String :=
  (spec.volumes.filter (blockMode env)).map (·.name)

/-- The instance sets no variables. -/
theorem instanceParts_env (i : Instance) : (instanceParts i).env = [] := by
  simp only [instanceParts, PodParts.append_env]
  cases i.kernel <;> cases i.memory.hugepages <;> rfl

/-- The variable that the pod builder sets. -/
theorem getenv_blockVolumes {env : BuildEnv} {vm : VM} {pod : VMPod} (hvm : vm.spec.Accepted)
    (hpod : buildVMPod env vm = .ok pod) :
    pod.main.getenv "BLOCK_VOLUMES" =
      if blockNames env vm.spec = [] then "" else Text.join ',' (blockNames env vm.spec) := by
  obtain ⟨volumes, networks, hvolumes, hnetworks, rfl⟩ := buildVMPod_eq_ok.mp hpod
  have hv := volumesParts_fields hvm.volumes_single hvolumes
  have hn := networksParts_fields hnetworks
  have hblock : volumes.blockVolumes = blockNames env vm.spec := by
    rw [hv.block]
    exact Loop.flatMap_ite (blockMode env) (·.name) vm.spec.volumes
  have hother : networks.env.filter (·.name == "BLOCK_VOLUMES") = [] := by
    rw [List.filter_eq_nil_iff]
    intro e he hname
    have hmem := hn.env e he
    simp only [beq_iff_eq] at hname
    rw [hname] at hmem
    simp [networkVariables] at hmem
  have hfilter : (podParts env vm volumes networks).env.filter (·.name == "BLOCK_VOLUMES") =
      (blockParts (blockNames env vm.spec)).env := by
    simp only [podParts, PodParts.append_env, instanceParts_env, hv.env, hblock,
      List.filter_append, hother, sidecarParts]
    by_cases hempty : blockNames env vm.spec = [] <;> simp [blockParts, hempty]
  simp only [assemble, Container.getenv, hfilter, blockParts]
  split <;> simp

/-- Volumes of one name are one volume. -/
theorem eq_of_volume_name {volumes : List Volume} (hnodup : (volumes.map (·.name)).Nodup)
    {u v : Volume} (hu : u ∈ volumes) (hv : v ∈ volumes) (h : u.name = v.name) : u = v := by
  have hfind := findVolume_of_mem hnodup hu
  rw [h, findVolume_of_mem hnodup hv] at hfind
  exact (Option.some.inj hfind).symm

/-- The prerunner takes a volume for a block volume iff the builder did. -/
theorem blockVolumes_contains {env : BuildEnv} {vm : VM} {pod : VMPod} {host : Host}
    (hvm : vm.spec.Accepted) (hlabels : ∀ v ∈ vm.spec.volumes, isDNSLabel v.name = true)
    (hpod : buildVMPod env vm = .ok pod)
    (hgetenv : host.getenv "BLOCK_VOLUMES" = pod.main.getenv "BLOCK_VOLUMES")
    {v : Volume} (hv : v ∈ vm.spec.volumes) :
    (blockVolumes host).contains v.name = blockMode env v := by
  have hmem : v.name ∈ blockNames env vm.spec ↔ blockMode env v = true := by
    simp only [blockNames, List.mem_map, List.mem_filter]
    constructor
    · rintro ⟨u, ⟨hu, hblock⟩, hname⟩
      exact eq_of_volume_name hvm.volume_names hu hv hname ▸ hblock
    · intro hblock
      exact ⟨v, ⟨hv, hblock⟩, rfl⟩
  rw [blockVolumes, hgetenv, getenv_blockVolumes hvm hpod]
  rw [Bool.eq_iff_iff, ← hmem]
  by_cases hempty : blockNames env vm.spec = []
  · -- the variable is not set: its one empty part is the name of no volume
    have hne : v.name ≠ "" := hvm.volumes_named v hv
    simp [hempty, hne]
  · have hcomma : ∀ s ∈ blockNames env vm.spec, ',' ∉ s.toList := by
      intro s hs
      obtain ⟨u, hu, rfl⟩ := List.mem_map.mp hs
      exact not_mem_of_isDNSLabel (hlabels u (List.mem_filter.mp hu).1) (by decide)
    simp [hempty, Text.split_join hcomma hempty]

/-! ### The Configuration of a Disk -/

/-- Of disks with distinct names one has the name of `d`. -/
theorem filter_disk_name {disks : List Disk} (hnodup : (disks.map (·.name)).Nodup) {d : Disk}
    (hd : d ∈ disks) : disks.filter (·.name == d.name) = [d] := by
  induction disks with
  | nil => cases hd
  | cons e l ih =>
    have ⟨hnot, hrest⟩ := List.nodup_cons.mp hnodup
    rcases List.mem_cons.mp hd with rfl | hd
    · have hnone : l.filter (·.name == d.name) = [] := by
        rw [List.filter_eq_nil_iff]
        intro e he hname
        exact hnot (List.mem_map.mpr ⟨e, he, by simpa using hname⟩)
      simp [hnone]
    · have hne : e.name ≠ d.name := by
        intro h
        exact hnot (List.mem_map.mpr ⟨d, hd, h.symm⟩)
      simp [hne, ih hrest hd]

/-- The loop emits exactly one configuration for a disk with a volume, with the
    path of that volume. -/
theorem diskConfigs_unique {spec : VMSpec} (hspec : spec.Accepted) {block : List String}
    {cs : List DiskConfig} (hcs : diskConfigs block spec.volumes spec.instance_.disks = .ok cs)
    {d : Disk} (hd : d ∈ spec.instance_.disks) {v : Volume} (hv : v ∈ spec.volumes)
    (hname : v.name = d.name) {path : String} (hpath : diskPath block v = .ok path) :
    ∃ c, cs.filter (·.id == d.name) = [c] ∧ c.path = path := by
  have hfind : spec.volumes.find? (·.name == d.name) = some v := by
    rw [← hname]
    exact findVolume_of_mem hspec.volume_names hv
  have hfield := Loop.collect_field
    (g := fun cs : List DiskConfig => cs.filter (·.id == d.name))
    (h := fun e : Disk => if e.name == d.name then
      [{ id := d.name, path := path, readonly := e.readOnly == some true }] else [])
    rfl (fun b c => List.filter_append ..) ?_ hcs
  · rw [hfield, Loop.flatMap_ite, filter_disk_name hspec.disk_names hd]
    exact ⟨_, rfl, rfl⟩
  · intro e _ b hb
    by_cases he : e.name = d.name
    · simp only [diskConfig, he, hfind, hpath, Except.ok.injEq] at hb
      subst hb
      simp [he]
    · -- the configurations of another disk carry another id
      simp only [diskConfig] at hb
      split at hb
      · cases hb; simp [he]
      · split at hb
        · cases hb
        · cases hb; simp [he]

/-! ### Agreement -/

/-- The file that the init container of a volume is told to write: the first
    argument, or the last of the five that `virt-init-volume` takes. -/
def Volume.toldFile (v : Volume) (c : Container) : Option String :=
  if v.cloudInit.isSome then c.args[4]? else c.args.head?

/-- The path is a file directly in the mount of the volume in the main
    container, and the one that the init container of the volume writes, if it
    has one. -/
def InMount (pod : VMPod) (v : Volume) (path : String) : Prop :=
  ∃ m ∈ pod.main.volumeMounts, m.name = v.name ∧
    (∃ file, '/' ∉ file.toList ∧ file ≠ "" ∧ path = m.mountPath ++ "/" ++ file) ∧
    (v.filled = true → ∃ c ∈ pod.initContainers, c.name = "init-volume-" ++ v.name ∧
      v.toldFile c = some path)

/-- The path is the device path of the volume in the main container. -/
def OnDevice (pod : VMPod) (v : Volume) (path : String) : Prop :=
  ∃ dev ∈ pod.main.volumeDevices, dev.name = v.name ∧ path = dev.devicePath

/-- The path is the file under `/hotplug-volumes` that the daemon creates for
    the volume, in whichever VM pod. -/
def InHotplugDir (env : BuildEnv) (v : Volume) (path : String) : Prop :=
  ∀ vmPodUID, ∃ target, mountTarget env vmPodUID v = .ok target ∧
    path = "/hotplug-volumes/" ++ Text.Path.base target

/-- Where the disk of a volume has to be: `env` is what the controller has
    read, `node` what the daemon reads when it mounts the volume. -/
def Located (env node : BuildEnv) (pod : VMPod) (v : Volume) (path : String) : Prop :=
  if v.isHotpluggable then InHotplugDir node v path
  else if isBlock env v = .ok true then OnDevice pod v path
  else InMount pod v path

section located
variable {env : BuildEnv} {vm : VM} {pod : VMPod} {v : Volume}

/-- What the parts of a volume contain is in the pod. -/
theorem parts_in_pod (hpod : buildVMPod env vm = .ok pod) (hv : v ∈ vm.spec.volumes) :
    ∃ p, volumeParts env vm v = .ok p ∧
      (∀ m ∈ p.volumeMounts, m ∈ pod.main.volumeMounts) ∧
      (∀ m ∈ p.volumeDevices, m ∈ pod.main.volumeDevices) ∧
      ∀ c ∈ p.initContainers, ∃ c' ∈ pod.initContainers, c'.name = c.name ∧ c'.args = c.args := by
  obtain ⟨volumes, networks, hvolumes, -, rfl⟩ := buildVMPod_eq_ok.mp hpod
  obtain ⟨p, hp, hmounts⟩ := Loop.collect_mem (g := fun p : PodParts => p.volumeMounts)
    (fun _ _ => rfl) hvolumes hv
  obtain ⟨q, hq, hdevices⟩ := Loop.collect_mem (g := fun p : PodParts => p.volumeDevices)
    (fun _ _ => rfl) hvolumes hv
  obtain ⟨r, hr, hinits⟩ := Loop.collect_mem (g := fun p : PodParts => p.initContainers)
    (fun _ _ => rfl) hvolumes hv
  rw [hp, Except.ok.injEq] at hq hr
  subst hq hr
  refine ⟨p, hp, ?_, ?_, ?_⟩
  · intro m hm
    simp [assemble, podParts, hmounts m hm]
  · intro m hm
    simp [assemble, podParts, hdevices m hm]
  · intro c hc
    have hmem : c ∈ (podParts env vm volumes networks).initContainers := by
      simp [podParts, hinits c hc]
    exact ⟨_, List.mem_map_of_mem hmem, rfl, rfl⟩

/-- A volume with an init container: the prerunner takes the file that the init
    container is told to write. -/
theorem inMount_of_filled (file : String) (hpod : buildVMPod env vm = .ok pod)
    (hv : v ∈ vm.spec.volumes)
    {p : PodParts} (hp : volumeParts env vm v = .ok p) (hmount : userMount v ∈ p.volumeMounts)
    {c : Container} (hc : c ∈ p.initContainers) (hname : c.name = "init-volume-" ++ v.name)
    {path : String} (hfile : '/' ∉ file.toList) (hne : file ≠ "")
    (hpath : path = mountPath v.name ++ "/" ++ file)
    (htold : ∀ c' : Container, c'.args = c.args → v.toldFile c' = some path) :
    InMount pod v path := by
  obtain ⟨q, hq, hmounts, -, hinits⟩ := parts_in_pod hpod hv
  rw [hp, Except.ok.injEq] at hq
  subst hq
  refine ⟨userMount v, hmounts _ hmount, rfl, ⟨file, hfile, hne, hpath⟩, ?_⟩
  intro _
  obtain ⟨c', hc', hcname, hargs⟩ := hinits c hc
  exact ⟨c', hc', hcname.trans hname, htold c' hargs⟩

/-- The path of a disk image on a claim that is mounted. -/
theorem join_mnt_image {n : String} (hn : Text.Path.Component n) :
    Text.Path.join ["/mnt", n, "disk.img"] = mountPath n ++ "/" ++ "disk.img" := by
  have hmnt : Text.Path.join ["/mnt"] = "/mnt" := by decide
  have hne : Text.Path.resolve ["/mnt"] ≠ [] := by decide
  have hne' : Text.Path.resolve ["/mnt", n] ≠ [] := by
    have hresolve := Text.Path.resolve_concat hn ["/mnt"]
    simp only [List.cons_append, List.nil_append] at hresolve
    simp [hresolve]
  have himage : Text.Path.Component "disk.img" := ⟨by decide, by decide, by decide, by decide⟩
  have houter := Text.Path.join_concat hne' himage
  have hinner := Text.Path.join_concat hne hn
  simp only [List.cons_append, List.nil_append] at houter hinner
  rw [houter, hinner, hmnt]
  rfl

/-- The path of a file of a hotplug volume. -/
theorem join_hotplug {n : String} (hn : Text.Path.Component n) :
    Text.Path.join ["/hotplug-volumes", n] = "/hotplug-volumes/" ++ n := by
  have hdir : Text.Path.join ["/hotplug-volumes"] = "/hotplug-volumes" := by decide
  have hne : Text.Path.resolve ["/hotplug-volumes"] ≠ [] := by decide
  have hjoin := Text.Path.join_concat hne hn
  simp only [List.cons_append, List.nil_append] at hjoin
  rw [hjoin, hdir]
  rfl

/-- A volume on a claim is where the mode of the claim says. -/
theorem located_of_claim {node : BuildEnv} (hpod : buildVMPod env vm = .ok pod)
    (hv : v ∈ vm.spec.volumes) (hlabel : isDNSLabel v.name = true)
    (hfilled : v.filled = false) {block : Bool} (hblock : isBlock env v = .ok block)
    (hp : volumeParts env vm v = .ok (claimParts v block))
    (hmode : isBlock node v = isBlock env v) :
    Located env node pod v (claimDiskPath v block) := by
  have hcomponent := component_of_isDNSLabel hlabel
  obtain ⟨q, hq, hmounts, hdevices, -⟩ := parts_in_pod hpod hv
  rw [hp, Except.ok.injEq] at hq
  subst hq
  cases hplug : v.isHotpluggable with
  | true =>
    simp only [Located, hplug, if_true]
    intro vmPodUID
    cases block with
    | true =>
      refine ⟨mountBlockVolumeTarget vmPodUID v.name, by simp only [mountTarget, hmode, hblock], ?_⟩
      simp [claimDiskPath, hplug, base_mountBlockVolumeTarget vmPodUID hcomponent]
    | false =>
      refine ⟨mountFileSystemVolumeTarget vmPodUID v.name,
        by simp only [mountTarget, hmode, hblock], ?_⟩
      rw [base_mountFileSystemVolumeTarget vmPodUID hcomponent.no_slash,
        ← join_hotplug (component_image_of_isDNSLabel hlabel)]
      simp [claimDiskPath, hplug]
  | false =>
    cases block with
    | true =>
      simp only [Located, hplug, hblock]
      refine ⟨{ name := v.name, devicePath := mountPath v.name }, hdevices _ ?_, rfl, ?_⟩
      · simp [claimParts, hplug]
      · simp [claimDiskPath, hplug, mountPath]
    | false =>
      have hpath : claimDiskPath v false = mountPath v.name ++ "/" ++ "disk.img" := by
        simp only [claimDiskPath, hplug]
        exact join_mnt_image hcomponent
      simp only [Located, hplug, hblock, hpath]
      refine ⟨userMount v, hmounts _ ?_, rfl, ⟨"disk.img", by decide, by decide, rfl⟩, ?_⟩
      · simp [claimParts, hplug]
      · simp [hfilled]

/-- A pass over a volume on a claim has read the mode of the claim. -/
theorem claimParts_of_volumeParts {p : PodParts} (hfilled : v.filled = false)
    (hclaim : (v.persistentVolumeClaim.isSome || v.dataVolume.isSome) = true)
    (h : volumeParts env vm v = .ok p) :
    ∃ block, isBlock env v = .ok block ∧ volumeParts env vm v = .ok (claimParts v block) := by
  simp only [Volume.filled, Bool.or_eq_false_iff, Option.isSome_eq_false_iff,
    Option.isNone_iff_eq_none] at hfilled
  obtain ⟨⟨hdisk, hcloud⟩, hrootfs⟩ := hfilled
  have hparts := h
  simp only [volumeParts, hdisk, hcloud, hrootfs, hclaim, if_true] at h
  split at h
  · cases h
  · split at h
    · cases h
    · next block hblock =>
      cases h
      exact ⟨block, hblock, hparts⟩

/-- Every volume has a path, and its disk is where it has to be. -/
theorem located_of_mem {node : BuildEnv} {host : Host} (hvm : vm.spec.Accepted)
    (hlabels : ∀ v ∈ vm.spec.volumes, isDNSLabel v.name = true)
    (hpod : buildVMPod env vm = .ok pod)
    (hgetenv : host.getenv "BLOCK_VOLUMES" = pod.main.getenv "BLOCK_VOLUMES")
    (hmodes : ∀ v ∈ vm.spec.volumes, isBlock node v = isBlock env v)
    (hv : v ∈ vm.spec.volumes) :
    ∃ path, diskPath (blockVolumes host) v = .ok path ∧ Located env node pod v path := by
  have hcontains := blockVolumes_contains hvm hlabels hpod hgetenv hv
  obtain ⟨p, hp, -⟩ := parts_in_pod hpod hv
  have hsingle := hvm.volumes_single v hv
  cases hsingle with
  | @containerDisk n s =>
    refine ⟨mountPath n ++ "/disk.raw", rfl, ?_⟩
    refine inMount_of_filled "disk.raw" hpod hv (p := imageParts _ s.image s.imagePullPolicy _) rfl
      (by simp [imageParts]) (List.mem_singleton.mpr rfl) rfl (by decide) (by decide)
      (by rw [String.append_assoc]; rfl) ?_
    intro c hargs
    simp [Volume.toldFile, hargs, imageInit]
  | @cloudInit n s =>
    refine ⟨mountPath n ++ "/cloud-init.iso", rfl, ?_⟩
    refine inMount_of_filled "cloud-init.iso" hpod hv (p := cloudInitParts env vm _ s) rfl
      (by simp [cloudInitParts]) (List.mem_singleton.mpr rfl) rfl (by decide) (by decide)
      (by rw [String.append_assoc]; rfl) ?_
    intro c hargs
    simp [Volume.toldFile, hargs]
  | @containerRootfs n s =>
    refine ⟨mountPath n ++ "/rootfs.raw", rfl, ?_⟩
    refine inMount_of_filled "rootfs.raw" hpod hv (p := imageParts _ s.image s.imagePullPolicy _) rfl
      (by simp [imageParts]) (List.mem_singleton.mpr rfl) rfl (by decide) (by decide)
      (by rw [String.append_assoc]; rfl) ?_
    intro c hargs
    simp [Volume.toldFile, hargs, imageInit]
  | persistentVolumeClaim | dataVolume =>
    obtain ⟨block, hblock, hclaim⟩ := claimParts_of_volumeParts rfl rfl hp
    refine ⟨claimDiskPath _ block, ?_, located_of_claim hpod hv (hlabels _ hv) rfl hblock hclaim
      (hmodes _ hv)⟩
    simp only [blockMode, hblock] at hcontains
    simp only [diskPath, hcontains]
    rfl

end located

/-- For every accepted VM whose volume names are DNS labels, and whatever the
    container and the node: every disk that names a volume has exactly one
    configuration, and its path is where the controller and the daemon have put
    the volume. -/
theorem disk_locations_agree {lib : Library} {env node : BuildEnv} {vm : VM} {oldVM : Option VM}
    {pod : VMPod} {host : Host} {cfg : Prerunner.VmConfig}
    (haccepted : validateVM lib vm oldVM = [])
    (hlabels : ∀ v ∈ vm.spec.volumes, isDNSLabel v.name = true)
    (hpod : buildVMPod env vm = .ok pod)
    (hgetenv : host.getenv "BLOCK_VOLUMES" = pod.main.getenv "BLOCK_VOLUMES")
    (hcfg : buildVMConfig host vm.spec = .ok cfg)
    (hmodes : ∀ v ∈ vm.spec.volumes, isBlock node v = isBlock env v) :
    ∀ d ∈ vm.spec.instance_.disks, ∀ v ∈ vm.spec.volumes, v.name = d.name →
      ∃ c, cfg.disks.filter (·.id == d.name) = [c] ∧ Located env node pod v c.path := by
  have hvm := accepted_of_validateVM haccepted
  intro d hd v hv hname
  obtain ⟨path, hpath, hlocated⟩ := located_of_mem hvm hlabels hpod hgetenv hmodes hv
  obtain ⟨a, cs, fs, status, links, -, hcs, -, -, -, rfl⟩ := buildVMConfig_eq_ok.mp hcfg
  obtain ⟨c, hfilter, hc⟩ := diskConfigs_unique hvm hcs hd hv hname hpath
  exact ⟨c, hfilter, hc ▸ hlocated⟩

/-- The sample machine with a hotplug volume and a root disk. -/
theorem disk_locations_agree_sample :
    ∃ pod cfg,
      buildVMPod plainEnv (Sample.withVolumes [Sample.dataDisk, Sample.rootDisk]) = .ok pod ∧
      buildVMConfig (plainHost 1)
        (Sample.withVolumes [Sample.dataDisk, Sample.rootDisk]).spec = .ok cfg ∧
      ∃ c, cfg.disks.filter (·.id == "data") = [c] ∧
        Located plainEnv plainEnv pod Sample.dataDisk c.path := by
  have haccepted : validateVM Sample.library
      (Sample.withVolumes [Sample.dataDisk, Sample.rootDisk]) none = [] := by decide
  refine ⟨_, _, rfl, rfl, ?_⟩
  exact disk_locations_agree haccepted (by decide) rfl
    (show (plainHost 1).getenv "BLOCK_VOLUMES" = _ by decide) rfl (fun _ _ => rfl) { name := "data" }
    (by decide) Sample.dataDisk (by decide) rfl

end Virtink
