import Mathlib.Data.List.Perm.Basic
import Virtink.Daemon.MountInfo

/-! # Whose Disk Image is Mounted

    The search for the directory of a volume on the host filters the mount
    table by device, by the root being a textual prefix and by the pod, and
    takes the first hit. Several volumes of one pod can pass the filter: two
    directories of one file system have one device, and the root of one can be
    a prefix of the root of the other. What is mounted into the VM pod then
    depends on the order of the table.

    The right directory is found in every order exactly if every entry that
    passes is one of the volume itself (`Unambiguous`,
    `source_path_belongs_iff`). It is not found where the directory of another
    volume of the pod has a name that starts the name of this one's
    (`disk_image_of_other_volume`).
-/

namespace Virtink

open Calls

/-! ### Whose a Path Is -/

/-- A file by its device and its path on the file system there. -/
structure DeviceFile where
  major : Int
  minor : Int
  path  : String
  deriving DecidableEq, Repr

/-- The file that a path below the mount point denotes. -/
def MountInfo.file (m : MountInfo) (name : String) : DeviceFile :=
  { major := m.major, minor := m.minor, path := Text.Path.join [m.root, name] }

/-- The path is a mount point of the host, of the device of the volume and with
    the root of the mount of the volume in its pod. -/
def Belongs (mount : MountInfo) (host : List MountInfo) (path : String) : Prop :=
  ∃ m ∈ host, m.mountpoint = path ∧ m.major = mount.major ∧ m.minor = mount.minor ∧
    m.root = mount.root

/-- Every entry that the search takes for that of the volume is. -/
def Unambiguous (mount : MountInfo) (volumePodUID : UID) (host : List MountInfo) : Prop :=
  ∀ m ∈ host, candidate mount volumePodUID m = true → Belongs mount host m.mountpoint

instance (mount : MountInfo) (host : List MountInfo) (path : String) :
    Decidable (Belongs mount host path) :=
  inferInstanceAs (Decidable (∃ m ∈ host, _))

instance (mount : MountInfo) (volumePodUID : UID) (host : List MountInfo) :
    Decidable (Unambiguous mount volumePodUID host) :=
  inferInstanceAs (Decidable (∀ m ∈ host, _))

/-- What the search reads: the process of the volume pod, its mount table, and
    the one of the host. -/
def reads (volumePodUID : UID) (pid : Nat) (pod : MountTable) (host : List MountInfo) :
    List (Prog.Entry mountApi) :=
  [⟨.getPIDBySocket (hotplugSocket volumePodUID), .ok pid⟩, ⟨.openMountInfo pid, .ok pod⟩,
    ⟨.openMountInfo 1, .ok { entries := host }⟩]

section search
variable {lib : MountPackage} {volume path : String} {volumePodUID : UID} {pid : Nat}
  {pod : MountTable} {host : List MountInfo} {mount : MountInfo}

/-- The search ends with the first candidate. -/
theorem source_path_eq (hlib : lib.Lawful)
    (hmount : pod.entries.find? (·.mountpoint == "/mnt/" ++ volume) = some mount) :
    Prog.Path (getHotplugVolumeSourcePathOnHost lib volume volumePodUID)
        (reads volumePodUID pid pod host) (.ok path) ↔
      ∃ m, (host.filter (candidate mount volumePodUID)).head? = some m ∧ m.mountpoint = path := by
  have hpod := hlib.finds _ pod mount hmount
  have hhost := hlib.filters (candidate mount volumePodUID) { entries := host } rfl
  constructor
  · intro h
    obtain ⟨x, l₁, heq, h₁⟩ := Prog.Path.of_call h
    cases heq
    obtain ⟨y, l₂, heq, h₂⟩ := Prog.Path.of_call h₁
    cases heq
    dsimp only [pure, Prog.bind] at h₂
    rw [hpod] at h₂
    obtain ⟨z, l₃, heq, h₃⟩ := Prog.Path.of_call h₂
    cases heq
    dsimp only [pure, Prog.bind] at h₃
    rw [hhost] at h₃
    cases hhits : host.filter (candidate mount volumePodUID) with
    | nil =>
      rw [hhits] at h₃
      cases h₃
    | cons m rest =>
      rw [hhits] at h₃
      cases h₃
      exact ⟨m, rfl, rfl⟩
  · intro h
    obtain ⟨m, hm, rfl⟩ := h
    refine .call (.call ?_)
    dsimp only [pure, Prog.bind]
    rw [hpod]
    refine .call ?_
    dsimp only [pure, Prog.bind]
    rw [hhost]
    cases hhits : host.filter (candidate mount volumePodUID) with
    | nil =>
      rw [hhits] at hm
      cases hm
    | cons m' rest =>
      rw [hhits] at hm
      cases hm
      exact .pure _

/-- In every order of the mount table of the host the search ends with a path
    of the volume, exactly if every candidate is one of the volume. -/
theorem belongs_iff_unambiguous (hlib : lib.Lawful)
    (hmount : pod.entries.find? (·.mountpoint == "/mnt/" ++ volume) = some mount) :
    (∀ host', host'.Perm host → ∀ path,
        Prog.Path (getHotplugVolumeSourcePathOnHost lib volume volumePodUID)
          (reads volumePodUID pid pod host') (.ok path) → Belongs mount host path) ↔
      Unambiguous mount volumePodUID host := by
  constructor
  · intro h m hm hcandidate
    -- the table with this entry first
    have hperm : (m :: host.erase m).Perm host := (List.perm_cons_erase hm).symm
    apply h _ hperm
    rw [source_path_eq hlib hmount]
    exact ⟨m, by rw [List.filter_cons_of_pos hcandidate]; rfl, rfl⟩
  · intro h host' hperm path hpath
    obtain ⟨m, hhead, rfl⟩ := (source_path_eq hlib hmount).mp hpath
    obtain ⟨hm, hcandidate⟩ := List.mem_filter.mp (List.mem_of_mem_head? hhead)
    exact h m (hperm.mem_iff.mp hm) hcandidate

end search

/-! ### What is Mounted -/

/-- The path of a disk image on the host denotes the file. -/
def Denotes (host : List MountInfo) (source : String) (file : DeviceFile) : Prop :=
  ∃ m ∈ host, source = Text.Path.join [m.mountpoint, "disk.img"] ∧ m.file "disk.img" = file

/-- The source of a volume is what the search ends with. -/
def SourceFound (lib : MountPackage) (pid : Nat) (pod : MountTable) (host : List MountInfo) :
    Prog.Entry nodeApi → Prop
  | ⟨.getHotplugVolumeSourcePathOnHost volume volumePodUID, x⟩ =>
      Prog.Path (getHotplugVolumeSourcePathOnHost lib volume volumePodUID)
        (reads volumePodUID pid pod host) x
  | _ => True

/-- The call does not mount anything. -/
def NodeOp.noBind : NodeOp → Prop
  | .bindMount _ _ _ => False
  | _ => True

section mounting
variable {volume path : String} {vmPodUID volumePodUID : UID} {record : List MountEntry}
  {l : List (Prog.Entry nodeApi)} {r : Except String (List MountEntry)}

theorem isMounted_noBind (target : String) :
    (VMDaemon.isMounted target).Only NodeOp.noBind := by
  refine ⟨trivial, fun x => ?_⟩
  rcases x with e | ⟨_ | _⟩
  · trivial
  · trivial
  · exact ⟨trivial, fun _ => trivial⟩

theorem addVolumeToVMMountRecord_noBind (target : String) :
    (VMDaemon.addVolumeToVMMountRecord volume target record).Only NodeOp.noBind := by
  unfold VMDaemon.addVolumeToVMMountRecord
  split
  · trivial
  · refine ⟨trivial, fun x => ?_⟩
    cases x <;> trivial

theorem createTarget_noBind (target : String) :
    (VMDaemon.createTarget target).Only NodeOp.noBind := by
  refine ⟨trivial, fun x => ?_⟩
  rcases x with e | ⟨_ | _⟩
  · trivial
  · exact ⟨trivial, fun _ => trivial⟩
  · trivial

/-- What is mounted is the disk image in the directory that was found. -/
theorem bindMount_source
    (h : Prog.Path (VMDaemon.mountFileSystemVolume volume vmPodUID volumePodUID record) l r)
    {v source target : String} {x : Except String Unit}
    (hbind : ⟨.bindMount v source target, x⟩ ∈ l) :
    ∃ path, source = Text.Path.join [path, "disk.img"] ∧
      ⟨.getHotplugVolumeSourcePathOnHost volume volumePodUID, .ok path⟩ ∈ l := by
  obtain ⟨l₁, l₂, mounted, rfl, h₁, h₂⟩ := Prog.Path.of_bind h
  have hnot : ∀ {l' : List (Prog.Entry nodeApi)}, (∀ e ∈ l', NodeOp.noBind e.1) →
      ⟨.bindMount v source target, x⟩ ∉ l' := fun hall hmem => hall _ hmem
  have hmem := (List.mem_append.mp hbind).resolve_left
    (hnot ((isMounted_noBind _).path h₁))
  rcases mounted with e | ⟨_ | _⟩
  · cases h₂
    cases hmem
  · obtain ⟨found, l₃, rfl, h₃⟩ := Prog.Path.of_call h₂
    cases found with
    | error e =>
      cases h₃
      cases (List.mem_singleton.mp hmem)
    | ok path =>
      have hmem := (List.mem_cons.mp hmem).resolve_left (by intro heq; cases heq)
      obtain ⟨l₄, l₅, recorded, rfl, h₄, h₅⟩ := Prog.Path.of_bind
        (p := VMDaemon.addVolumeToVMMountRecord volume
          (mountFileSystemVolumeTarget vmPodUID volume) record) h₃
      have hmem := (List.mem_append.mp hmem).resolve_left
        (hnot ((addVolumeToVMMountRecord_noBind _).path h₄))
      cases recorded with
      | error e =>
        cases h₅
        cases hmem
      | ok record' =>
        obtain ⟨l₆, l₇, created, rfl, h₆, h₇⟩ := Prog.Path.of_bind
          (p := VMDaemon.createTarget (mountFileSystemVolumeTarget vmPodUID volume)) h₅
        have hmem := (List.mem_append.mp hmem).resolve_left
          (hnot ((createTarget_noBind _).path h₆))
        cases created with
        | error e =>
          cases h₇
          cases hmem
        | ok u =>
          obtain ⟨bound, l₈, rfl, h₈⟩ := Prog.Path.of_call h₇
          have hlast : l₈ = [] := by
            cases bound <;> cases h₈ <;> rfl
          rw [hlast] at hmem
          cases List.mem_singleton.mp hmem
          exact ⟨path, rfl, List.mem_append_right _ List.mem_cons_self⟩
  · cases h₂
    cases hmem

end mounting

/-- **Whose disk image is mounted.** For every mount table of the process of
    the volume pod, in which the volume is mounted at `/mnt/<volume>`, and every
    mount table of the host: the search ends with a path of the volume in every
    order of the table of the host exactly if every candidate is one of the
    volume. Then what `mountFileSystemVolume` mounts into the VM pod is the disk
    image that the volume pod has at `/mnt/<volume>/disk.img`. -/
theorem source_path_belongs_iff {lib : MountPackage} (hlib : lib.Lawful) {volume : String}
    {volumePodUID : UID} {pid : Nat} {pod : MountTable} {host : List MountInfo} {mount : MountInfo}
    (hmount : pod.entries.find? (·.mountpoint == "/mnt/" ++ volume) = some mount) :
    ((∀ host', host'.Perm host → ∀ path,
        Prog.Path (getHotplugVolumeSourcePathOnHost lib volume volumePodUID)
          (reads volumePodUID pid pod host') (.ok path) → Belongs mount host path) ↔
      Unambiguous mount volumePodUID host) ∧
      (Unambiguous mount volumePodUID host → ∀ vmPodUID record l r,
        Prog.Path (VMDaemon.mountFileSystemVolume volume vmPodUID volumePodUID record) l r →
        (∀ e ∈ l, SourceFound lib pid pod host e) →
        ∀ v source target x, ⟨.bindMount v source target, x⟩ ∈ l →
          Denotes host source (mount.file "disk.img")) := by
  refine ⟨belongs_iff_unambiguous hlib hmount, ?_⟩
  intro hclear vmPodUID record l r hrun hfound v source target x hbind
  obtain ⟨path, rfl, hcall⟩ := bindMount_source hrun hbind
  have hpath : Prog.Path (getHotplugVolumeSourcePathOnHost lib volume volumePodUID)
      (reads volumePodUID pid pod host) (.ok path) := hfound _ hcall
  obtain ⟨m, hm, rfl, hmajor, hminor, hroot⟩ :=
    (belongs_iff_unambiguous hlib hmount).mpr hclear host (.refl host) path hpath
  refine ⟨m, hm, rfl, ?_⟩
  unfold MountInfo.file
  rw [hmajor, hminor, hroot]

namespace Sample

/-- A package that reads a table at one go. -/
def mounts : MountPackage where
  singleEntryFilter mp := fun m => (m.mountpoint != mp, m.mountpoint == mp)
  getMountsFromReader filter table :=
    match table.entries.find? fun m => (filter m).2, table.error with
    | some m, _ => .ok [m]
    | none, some e => .error e
    | none, none => .ok (table.entries.filter fun m => !(filter m).1)

theorem mounts_lawful : mounts.Lawful where
  finds mp table mount h := by simp only [mounts, h]
  filters p table h := by
    have hnone : table.entries.find? (fun _ => false) = none := by simp
    simp [mounts, h, hnone]

def uid : UID := "b5f0"

/-- The directory of a volume in the volume pod, on the host. -/
def volumeDir (name : String) : String :=
  "/var/lib/kubelet/pods/b5f0/volumes/kubernetes.io~local-volume/" ++ name

/-- The volumes `data` and `data-2` are two directories of one file system. -/
def podMounts : MountTable where
  entries := [
    { major := 8, minor := 1, root := "/vols/data", mountpoint := "/mnt/data" },
    { major := 8, minor := 1, root := "/vols/data-2", mountpoint := "/mnt/data-2" }]

def hostMounts : List MountInfo := [
  { major := 8, minor := 1, root := "/", mountpoint := "/" },
  { major := 8, minor := 1, root := "/vols/data", mountpoint := volumeDir "data" },
  { major := 8, minor := 1, root := "/vols/data-2", mountpoint := volumeDir "data-2" }]

/-- A run of `mountFileSystemVolume` in which everything succeeds. -/
def mountLog (volume source : String) : List (Prog.Entry nodeApi) :=
  let target := mountFileSystemVolumeTarget "vm-pod" volume
  [⟨.stat target, .ok false⟩, ⟨.getHotplugVolumeSourcePathOnHost volume uid, .ok source⟩,
    ⟨.writeRecord [{ volume := volume, target := target }], .ok ()⟩, ⟨.stat target, .ok false⟩,
    ⟨.create target, .ok ()⟩,
    ⟨.bindMount volume (Text.Path.join [source, "disk.img"]) target, .ok ()⟩]

theorem mountLog_path (volume source : String) :
    ∃ r, Prog.Path (VMDaemon.mountFileSystemVolume volume "vm-pod" uid [])
      (mountLog volume source) r :=
  ⟨_, .call (.call (.call (.call (.call (.call (.pure _))))))⟩

end Sample

/-- For the volume whose root no other root starts with, the search ends with
    its directory and its disk image is mounted. -/
theorem source_path_belongs_iff_sample :
    Unambiguous { major := 8, minor := 1, root := "/vols/data", mountpoint := "/mnt/data" }
        Sample.uid Sample.hostMounts ∧
      Prog.Path (getHotplugVolumeSourcePathOnHost Sample.mounts "data" Sample.uid)
        (reads Sample.uid 7 Sample.podMounts Sample.hostMounts) (.ok (Sample.volumeDir "data")) ∧
      Belongs { major := 8, minor := 1, root := "/vols/data", mountpoint := "/mnt/data" }
        Sample.hostMounts (Sample.volumeDir "data") := by
  have hclear : Unambiguous
      { major := 8, minor := 1, root := "/vols/data", mountpoint := "/mnt/data" }
      Sample.uid Sample.hostMounts := by decide
  have hpath : Prog.Path (getHotplugVolumeSourcePathOnHost Sample.mounts "data" Sample.uid)
      (reads Sample.uid 7 Sample.podMounts Sample.hostMounts) (.ok (Sample.volumeDir "data")) :=
    (source_path_eq Sample.mounts_lawful rfl).mpr ⟨_, rfl, rfl⟩
  have hmount : Sample.podMounts.entries.find? (·.mountpoint == "/mnt/" ++ "data") = some
      { major := 8, minor := 1, root := "/vols/data", mountpoint := "/mnt/data" } := rfl
  exact ⟨hclear, hpath,
    (source_path_belongs_iff Sample.mounts_lawful hmount).1.mpr hclear _ (.refl _) _ hpath⟩

/-- **The disk image of another volume is mounted.** Both volumes are on one
    device, and the root of `data` is a prefix of the root of `data-2`. The
    search for `data-2` ends with the directory of `data`, and the disk image of
    `data` is mounted into the VM pod as that of `data-2`. -/
theorem disk_image_of_other_volume :
    let mount : MountInfo :=
      { major := 8, minor := 1, root := "/vols/data-2", mountpoint := "/mnt/data-2" }
    Sample.podMounts.entries.find? (·.mountpoint == "/mnt/data-2") = some mount ∧
      Prog.Path (getHotplugVolumeSourcePathOnHost Sample.mounts "data-2" Sample.uid)
        (reads Sample.uid 7 Sample.podMounts Sample.hostMounts) (.ok (Sample.volumeDir "data")) ∧
      ¬ Belongs mount Sample.hostMounts (Sample.volumeDir "data") ∧
      Belongs mount Sample.hostMounts (Sample.volumeDir "data-2") ∧
      (∃ r, Prog.Path (VMDaemon.mountFileSystemVolume "data-2" "vm-pod" Sample.uid [])
        (Sample.mountLog "data-2" (Sample.volumeDir "data")) r) ∧
      Denotes Sample.hostMounts (Text.Path.join [Sample.volumeDir "data", "disk.img"])
        { major := 8, minor := 1, path := "/vols/data/disk.img" } ∧
      mount.file "disk.img" = { major := 8, minor := 1, path := "/vols/data-2/disk.img" } := by
  refine ⟨by decide, (source_path_eq Sample.mounts_lawful rfl).mpr ⟨_, rfl, rfl⟩, by decide,
    by decide, Sample.mountLog_path "data-2" (Sample.volumeDir "data"), ?_, by decide⟩
  refine ⟨{ major := 8, minor := 1, root := "/vols/data", mountpoint := Sample.volumeDir "data" },
    by decide, rfl, by decide⟩

end Virtink
