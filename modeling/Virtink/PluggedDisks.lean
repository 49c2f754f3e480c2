import Virtink.DiskLocations
import Virtink.VolumeStatus.Update

/-! # Disks that are Plugged and Disks that are Booted

    A hotplug volume reaches the guest in two ways. When the VM boots, the
    prerunner puts its disk into the configuration of the hypervisor; while the
    VM runs, the daemon adds the disk with `VmAddDisk`. Both build a
    `DiskConfig` from the same spec.

    They agree on the id and on the path. The daemon never looks at the disk of
    the spec, so what it adds is writable and goes through the page cache,
    whatever the disk says: it is the configuration of the boot with `direct`
    and `readonly` unset (`plugged_disk_of_booted`).
-/

namespace Virtink

open Calls Prerunner

/-! ### What the Daemon Adds -/

/-- The `DiskConfig` that `addHotplugVolumesToVM` passes to `VmAddDisk`: it sets
    the id and the path, all else is zero. -/
def pluggedDisk (id path : String) : DiskConfig :=
  { id := id, path := path, direct := false, readonly := false }

/-- The answer to a question about the mode of a claim is what `env` has. -/
def ModeIn (env : BuildEnv) : Prog.Entry api → Prop
  | ⟨.isBlock v, x⟩ => x = isBlock env v
  | _ => True

/-- A call that adds the disk of a volume, by its mode in `env`. -/
def AddsDiskOf (env : BuildEnv) (volumes : List Volume) : Prog.Entry api → Prop
  | ⟨.hypervisor _ (.vmAddDisk id path) _, _⟩ =>
      ∃ v ∈ volumes, v.isHotpluggable = true ∧ id = v.name ∧
        ∃ block, isBlock env v = .ok block ∧ path = VMDaemon.plugPath block v.name
  | _ => True

section
variable {env : BuildEnv} {info : VmInfo} {volumes : List Volume}

theorem AddsDiskOf.cons {e : Prog.Entry api} (volume : Volume) (h : AddsDiskOf env volumes e) :
    AddsDiskOf env (volume :: volumes) e := by
  obtain ⟨o, x⟩ := e
  unfold AddsDiskOf at h ⊢
  split at h
  · obtain ⟨v, hv, hdisk⟩ := h
    exact ⟨v, List.mem_cons_of_mem volume hv, hdisk⟩
  · trivial

/-- Whatever the loop adds is the disk of one of its volumes. -/
theorem addHotplugVolumesToVM_adds {vm : VM} {res : VM × Option Err} {l : List (Prog.Entry api)}
    (h : Prog.Path (VMDaemon.addHotplugVolumesToVM info volumes vm) l res)
    (hmodes : ∀ e ∈ l, ModeIn env e) : ∀ e ∈ l, AddsDiskOf env volumes e := by
  induction volumes generalizing vm l with
  | nil =>
    cases h
    intro e he
    cases he
  | cons volume rest ih =>
    -- a pass that adds nothing leaves the rest of the loop
    have hrest : ∀ {vm₁ l₁}, Prog.Path (VMDaemon.addHotplugVolumesToVM info rest vm₁) l₁ res →
        (∀ e ∈ l₁, ModeIn env e) → ∀ e ∈ l₁, AddsDiskOf env (volume :: rest) e :=
      fun h₁ hmodes₁ e he => (ih h₁ hmodes₁ e he).cons volume
    unfold VMDaemon.addHotplugVolumesToVM at h
    split at h
    · next status hstatus =>
      split at h
      · next hplug =>
        dsimp only at h
        split at h
        · exact hrest h hmodes
        · obtain ⟨mode, l₁, rfl, h₁⟩ := Prog.Path.of_call h
          have hmode : mode = isBlock env volume := hmodes _ List.mem_cons_self
          cases mode with
          | error e =>
            cases h₁
            intro e he
            rw [List.mem_singleton.mp he]
            trivial
          | ok block =>
            obtain ⟨answer, l₂, rfl, h₂⟩ := Prog.Path.of_call h₁
            have hname : status.name = volume.name := (lookupVolumeStatus_name hstatus).2
            have hadded : AddsDiskOf env (volume :: rest)
                ⟨.hypervisor vm.status.vmPodUID (.vmAddDisk status.name
                  (VMDaemon.plugPath block status.name)) .lifecycle, answer⟩ :=
              ⟨volume, List.mem_cons_self, hplug.1, hname, block, hmode.symm, by rw [hname]⟩
            have hlater : ∀ e ∈ l₂, AddsDiskOf env (volume :: rest) e := by
              cases answer with
              | error e =>
                cases h₂
                intro e he
                cases he
              | ok u =>
                refine hrest h₂ fun e he => hmodes e ?_
                exact List.mem_cons_of_mem _ (List.mem_cons_of_mem _ he)
            intro e he
            rcases List.mem_cons.mp he with rfl | he
            · trivial
            · rcases List.mem_cons.mp he with rfl | he
              · exact hadded
              · exact hlater e he
      · exact hrest h hmodes
    · exact hrest h hmodes

end

/-! ### What the Prerunner Boots With -/

section
variable {vm : VM} {v : Volume} {block : Bool}

/-- The two programs have one path for a volume that is plugged. -/
theorem claimDiskPath_eq_plugPath (hlabel : isDNSLabel v.name = true)
    (hplug : v.isHotpluggable = true) :
    claimDiskPath v block = VMDaemon.plugPath block v.name := by
  unfold claimDiskPath VMDaemon.plugPath
  cases block with
  | true =>
    rw [if_pos rfl, if_pos hplug, if_pos rfl, join_hotplug (component_of_isDNSLabel hlabel)]
  | false =>
    rw [if_neg (by decide), if_pos hplug]
    rfl

/-- A hotplug volume is on a claim. -/
theorem diskPath_of_hotpluggable (hvm : vm.spec.Accepted) (hv : v ∈ vm.spec.volumes)
    (hplug : v.isHotpluggable = true) (blocks : List String) :
    diskPath blocks v = .ok (claimDiskPath v (blocks.contains v.name)) := by
  cases hvm.volumes_single v hv with
  | containerDisk | cloudInit | containerRootfs => cases hplug
  | persistentVolumeClaim | dataVolume => rfl

/-- What the loop emits for a disk goes past the page cache and is read-only as
    the disk says. -/
theorem diskConfigs_mem (hvm : vm.spec.Accepted) {blocks : List String} {cs : List DiskConfig}
    (hcs : diskConfigs blocks vm.spec.volumes vm.spec.instance_.disks = .ok cs) {d : Disk}
    (hd : d ∈ vm.spec.instance_.disks) {c : DiskConfig} (hc : c ∈ cs) (hid : c.id = d.name) :
    c.direct = true ∧ c.readonly = (d.readOnly == some true) := by
  obtain ⟨e, he, b, hb, hcb⟩ := Loop.mem_collect (g := fun cs : List DiskConfig => cs) rfl
    (fun _ _ => rfl) hcs hc
  unfold diskConfig at hb
  split at hb
  · cases hb
    cases hcb
  · split at hb
    · cases hb
    · cases hb
      rw [List.mem_singleton.mp hcb] at hid ⊢
      have hed : e = d := List.inj_on_of_nodup_map hvm.disk_names he hd hid
      exact ⟨rfl, by rw [hed]⟩

end

/-! ### Comparison -/

/-- **A disk that is plugged, compared with one that is booted.** For every
    accepted VM: each disk that `addHotplugVolumesToVM` adds is that of a
    hotplug volume of the spec, and for the disk of the spec of that name the
    prerunner emits exactly one configuration. It has the same id and path; it
    is direct, and read-only if the disk is, where the one that is added is
    neither. -/
theorem plugged_disk_of_booted {lib : Library} {env : BuildEnv} {vm running : VM}
    {oldVM : Option VM} {pod : VMPod} {host : Host} {cfg : Prerunner.VmConfig}
    (haccepted : validateVM lib vm oldVM = [])
    (hlabels : ∀ v ∈ vm.spec.volumes, isDNSLabel v.name = true)
    (hpod : buildVMPod env vm = .ok pod)
    (hgetenv : host.getenv "BLOCK_VOLUMES" = pod.main.getenv "BLOCK_VOLUMES")
    (hcfg : buildVMConfig host vm.spec = .ok cfg) (hspec : running.spec = vm.spec)
    {info : VmInfo} {l : List (Prog.Entry api)} {res : VM × Option Err}
    (hrun : Prog.Path (VMDaemon.addHotplugVolumesToVM info running.spec.volumes running) l res)
    (hmodes : ∀ e ∈ l, ModeIn env e) {uid : UID} {id path : String} {account : Account}
    {answer : Except String Unit}
    (hadd : ⟨.hypervisor uid (.vmAddDisk id path) account, answer⟩ ∈ l) :
    ∃ v ∈ vm.spec.volumes, v.isHotpluggable = true ∧ v.name = id ∧
      ∀ d ∈ vm.spec.instance_.disks, d.name = id →
        ∃ c, cfg.disks.filter (·.id == id) = [c] ∧ c.direct = true ∧
          c.readonly = (d.readOnly == some true) ∧
          pluggedDisk id path = { c with direct := false, readonly := false } := by
  have hvm := accepted_of_validateVM haccepted
  rw [hspec] at hrun
  obtain ⟨v, hv, hplug, rfl, block, hblock, rfl⟩ := addHotplugVolumesToVM_adds hrun hmodes _ hadd
  refine ⟨v, hv, hplug, rfl, ?_⟩
  intro d hd hname
  -- both programs have read the mode of one claim
  have hcontains := blockVolumes_contains hvm hlabels hpod hgetenv hv
  rw [blockMode, hblock] at hcontains
  have hpath : diskPath (blockVolumes host) v = .ok (VMDaemon.plugPath block v.name) := by
    rw [diskPath_of_hotpluggable hvm hv hplug, hcontains,
      claimDiskPath_eq_plugPath (hlabels v hv) hplug]
  obtain ⟨a, cs, fs, status, links, -, hcs, -, -, -, rfl⟩ := buildVMConfig_eq_ok.mp hcfg
  obtain ⟨c, hfilter, hc⟩ := diskConfigs_unique hvm hcs hd hv hname.symm hpath
  have hmem : c ∈ cs.filter (·.id == d.name) := by
    rw [hfilter]
    exact List.mem_cons_self
  have hid : c.id = d.name := by simpa using (List.mem_filter.mp hmem).2
  obtain ⟨hdirect, hreadonly⟩ := diskConfigs_mem hvm hcs hd (List.mem_filter.mp hmem).1 hid
  refine ⟨c, by rw [← hname]; exact hfilter, hdirect, hreadonly, ?_⟩
  show pluggedDisk v.name (VMDaemon.plugPath block v.name) =
    ({ id := c.id, path := c.path, direct := false, readonly := false } : DiskConfig)
  rw [hid, hc, hname]
  rfl

namespace Sample

/-- The sample machine with a hotplug volume as a disk, which is mounted into
    the pod and not in the guest yet. -/
def plugging (readOnly : Option Bool) : VM :=
  let vm := withVolumes [dataDisk, rootDisk]
  { vm with
    spec := { vm.spec with
      instance_ := { vm.spec.instance_ with
        disks := [{ name := "data", readOnly := readOnly }, { name := "root" }] } }
    status := { vm.status with
      volumeStatus := [{ name := "data", phase := .mountedToPod }] } }

/-- What the daemon asks and is told when it plugs the volume. -/
def plugLog (vm : VM) : List (Prog.Entry api) :=
  [⟨.isBlock dataDisk, .ok false⟩,
    ⟨.hypervisor vm.status.vmPodUID (.vmAddDisk "data" "/hotplug-volumes/data.img") .lifecycle,
      .ok ()⟩]

theorem plugLog_path (readOnly : Option Bool) :
    ∃ res, Prog.Path (VMDaemon.addHotplugVolumesToVM { state := .running }
      (plugging readOnly).spec.volumes (plugging readOnly)) (plugLog (plugging readOnly)) res :=
  ⟨_, .call (.call (.pure _))⟩

theorem plugLog_modes (readOnly : Option Bool) :
    ∀ e ∈ plugLog (plugging readOnly), ModeIn plainEnv e := by
  intro e he
  rcases List.mem_cons.mp he with rfl | he
  · rfl
  · rw [List.mem_singleton.mp he]
    trivial

end Sample

/-- The volume of the sample machine is plugged where it would be booted. -/
theorem plugged_disk_of_booted_sample :
    ∃ cfg, buildVMConfig (plainHost 1) (Sample.plugging none).spec = .ok cfg ∧
      ∃ c, cfg.disks.filter (·.id == "data") = [c] ∧
        pluggedDisk "data" "/hotplug-volumes/data.img" =
          { c with direct := false, readonly := false } := by
  have haccepted : validateVM Sample.library (Sample.plugging none) none = [] := by decide
  obtain ⟨res, hrun⟩ := Sample.plugLog_path none
  have hcfg : buildVMConfig (plainHost 1) (Sample.plugging none).spec = .ok _ := rfl
  obtain ⟨v, -, -, -, hv⟩ := plugged_disk_of_booted haccepted (by decide) rfl
    (show (plainHost 1).getenv "BLOCK_VOLUMES" = _ by decide) hcfg rfl hrun
    (Sample.plugLog_modes none) (List.mem_cons_of_mem _ List.mem_cons_self)
  obtain ⟨c, hfilter, -, -, heq⟩ := hv { name := "data" } (by decide) rfl
  exact ⟨_, hcfg, c, hfilter, heq⟩

/-- **A read-only disk is plugged writable.** The disk of the accepted VM is
    read-only and direct when the VM boots with it, and neither when the daemon
    plugs it in. -/
theorem read_only_disk_plugged_writable :
    validateVM Sample.library (Sample.plugging (some true)) none = [] ∧
      (∃ res, Prog.Path (VMDaemon.addHotplugVolumesToVM { state := .running }
        (Sample.plugging (some true)).spec.volumes (Sample.plugging (some true)))
        (Sample.plugLog (Sample.plugging (some true))) res) ∧
      ∃ cfg c, buildVMConfig (plainHost 1) (Sample.plugging (some true)).spec = .ok cfg ∧
        cfg.disks.filter (·.id == "data") = [c] ∧ c.readonly = true ∧
        (pluggedDisk "data" "/hotplug-volumes/data.img").readonly = false ∧
        pluggedDisk "data" "/hotplug-volumes/data.img" ≠ c := by
  have hcfg : buildVMConfig (plainHost 1) (Sample.plugging (some true)).spec = .ok _ := rfl
  exact ⟨by decide, Sample.plugLog_path (some true), _,
    { id := "data", path := "/hotplug-volumes/data.img", readonly := true }, hcfg, by decide, rfl,
    rfl, by decide⟩

end Virtink
