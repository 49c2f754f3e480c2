import Virtink.Daemon.Mounts
import Virtink.Daemon.VM
import Virtink.Framework.Interp

/-! # The Daemon and Its Node

    What the calls `getVMMountRecord`, `mountVolume`, `umountHotplugVolumes`
    and `umountAllHotplugVolumes` of the daemon do on the node, down to single
    system calls and commands: the record of the mounts is read and written,
    device nodes and bind mounts come and go, and the device rules of a cgroup
    change. `handler` puts these programs in place of the four calls and leaves
    every other call as it is.

    Several system calls that only look at the node together are one call
    here: reading the record, and finding the source of a volume on the host.
-/

namespace Virtink

open Calls

/-! ### Calls on the Node -/

/-- `volumeMountRecord`. -/
structure MountEntry where
  volume : String
  target : String
  deriving DecidableEq, Repr

/-- On whose account a target is released: the volume was unplugged, or all
    volumes of the VM go. -/
inductive Release where
  | unplugged | all
  deriving DecidableEq, Repr

/-- A call of the mounting functions, for a VM as it was read. -/
inductive Job where
  | mount (vm : VM) (vmPodUID volumePodUID : UID)
  | umount (vm : VM)
  | umountAll (vm : VM)

/-- The calls that a daemon makes. The volume that `mknod`, `bindMount`,
    `umount` and `removeAll` name is the one they are made for. -/
inductive NodeOp where
  /-- Everything that is not about mounts. -/
  | base (o : Op)
  /-- What there is to do next. -/
  | nextJob
  -- the file of the record
  | loadRecord
  | writeRecord (l : List MountEntry)
  | removeRecord
  -- looking at paths
  | stat (path : String)
  | isMountPoint (path : String)
  | isBlockFile (path : String)
  | getBlockFileMajorMinor (path : String)
  | getHotplugVolumeSourcePathOnHost (volume : String) (volumePodUID : UID)
  -- changing them
  | mknod (volume target : String) (major minor : Int)
  | create (path : String)
  | bindMount (volume source target : String)
  | umount (cause : Release) (volume target : String)
  | removeAll (cause : Release) (volume target : String)
  -- the cgroup of the hypervisor of a pod
  | statSocket (pod : UID)
  | openCgroup (pid : Nat)
  | setCgroup (pod : UID) (major minor : Int) (allow : Bool)
  /-- A nil pointer is dereferenced: there is no answer. -/
  | panic

/-- What each call is answered with. -/
def NodeOp.Ans : NodeOp → Type
  | .base o => o.Ans
  | .nextJob => Job
  | .loadRecord => Except String (List MountEntry)
  | .writeRecord _ => Except String Unit
  | .removeRecord => Except String Unit
  | .stat _ => Except String Bool
  | .isMountPoint _ => Except String Bool
  | .isBlockFile _ => Bool
  | .getBlockFileMajorMinor _ => Except String (Int × Int)
  | .getHotplugVolumeSourcePathOnHost _ _ => Except String String
  | .mknod _ _ _ _ => Except String Unit
  | .create _ => Except String Unit
  | .bindMount _ _ _ => Except String Unit
  | .umount _ _ _ => Except String Unit
  | .removeAll _ _ _ => Except String Unit
  | .statSocket _ => Except String Bool
  | .openCgroup _ => Except String Unit
  | .setCgroup _ _ _ _ => Except String Unit
  | .panic => Empty

/-- The signature of a daemon on its node. -/
def nodeApi : Sig := ⟨NodeOp, NodeOp.Ans⟩

/-- Programs of a daemon on its node. -/
abbrev NodeCall (α : Type) := Prog nodeApi α

/-- Make one call. -/
def run (o : NodeOp) : NodeCall o.Ans := Prog.call o Prog.pure

@[simp] theorem run_bind {α : Type} (o : NodeOp) (f : o.Ans → NodeCall α) :
    (run o).bind f = Prog.call o f := rfl

/-- The run breaks off. -/
def broken {α : Type} : NodeCall α := Prog.call NodeOp.panic Empty.elim

namespace VMDaemon

/-! ### The Record -/

/-- `addVolumeToVMMountRecord`: the record is kept by the name of the volume,
    and an entry of that name is left as it is. -/
def addVolumeToVMMountRecord (volume target : String) (record : List MountEntry) :
    NodeCall (Except String (List MountEntry)) := do
  if record.any (·.volume == volume) then pure (.ok record)
  else
    let record := record ++ [{ volume := volume, target := target }]
    match ← run (.writeRecord record) with
    | .error e => pure (.error e)
    | .ok _ => pure (.ok record)

/-! ### The Cgroup -/

/-- `cgroup.NewManager`: the manager of the cgroup of the pod that the status
    of the VM names, or nil if its hypervisor has no socket on this node. -/
def NewManager (statusPodUID : UID) : NodeCall (Except String (Option UID)) := do
  match ← run (.statSocket statusPodUID) with
  | .error e => pure (.error e)
  | .ok false => pure (.ok none)
  | .ok true =>
      match ← run (.base (.getPIDBySocket statusPodUID)) with
      | .error e => pure (.error e)
      | .ok pid =>
          match ← run (.openCgroup pid) with
          | .error e => pure (.error e)
          | .ok _ => pure (.ok (some statusPodUID))

/-! ### Mounting -/

/-- The end of `mountBlockVolume`: the device is allowed, whether or not there
    is a manager. -/
def allowDevice (statusPodUID : UID) (volume : String) (major minor : Int)
    (record : List MountEntry) : NodeCall (Except String (List MountEntry)) := do
  match ← NewManager statusPodUID with
  | .error e => pure (.error e)
  | .ok none => broken
  | .ok (some pod) =>
      match ← run (.setCgroup pod major minor true) with
      | .error e => pure (.error ("set cgroup for volume device " ++ volume ++ ": " ++ e))
      | .ok _ => pure (.ok record)

/-- The source of a block volume in its volume pod. -/
def blockVolumeSource (volumePodUID : UID) (volume : String) : String :=
  Text.Path.join ["/var/lib/kubelet/pods", volumePodUID,
    "volumes/kubernetes.io~empty-dir/hotplug/", volume]

/-- `mountBlockVolume`, with the record as it leaves it. -/
def mountBlockVolume (statusPodUID : UID) (volume : String) (vmPodUID volumePodUID : UID)
    (record : List MountEntry) : NodeCall (Except String (List MountEntry)) := do
  let target := mountBlockVolumeTarget vmPodUID volume
  match ← run (.stat target) with
  | .error e => pure (.error e)
  | .ok mounted =>
      match ← run (.getBlockFileMajorMinor (blockVolumeSource volumePodUID volume)) with
      | .error e => pure (.error e)
      | .ok (major, minor) =>
          match ← addVolumeToVMMountRecord volume target record with
          | .error e => pure (.error e)
          | .ok record =>
              if mounted then allowDevice statusPodUID volume major minor record
              else
                match ← run (.mknod volume target major minor) with
                | .error e => pure (.error ("mknod: " ++ e))
                | .ok _ => allowDevice statusPodUID volume major minor record

/-- `isMounted`. -/
def isMounted (path : String) : NodeCall (Except String Bool) := do
  match ← run (.stat path) with
  | .error e => pure (.error e)
  | .ok false => pure (.ok false)
  | .ok true => run (.isMountPoint path)

/-- The file that a volume is mounted on is there, or is created. -/
def createTarget (target : String) : NodeCall (Except String Unit) := do
  match ← run (.stat target) with
  | .error e => pure (.error e)
  | .ok true => pure (.ok ())
  | .ok false => run (.create target)

/-- `mountFileSystemVolume`, with the record as it leaves it. -/
def mountFileSystemVolume (volume : String) (vmPodUID volumePodUID : UID)
    (record : List MountEntry) : NodeCall (Except String (List MountEntry)) := do
  let target := mountFileSystemVolumeTarget vmPodUID volume
  match ← isMounted target with
  | .error e => pure (.error e)
  | .ok true => pure (.ok record)
  | .ok false =>
      match ← run (.getHotplugVolumeSourcePathOnHost volume volumePodUID) with
      | .error e => pure (.error e)
      | .ok source =>
          match ← addVolumeToVMMountRecord volume target record with
          | .error e => pure (.error e)
          | .ok record =>
              match ← createTarget target with
              | .error e => pure (.error e)
              | .ok _ =>
                  match ← run (.bindMount volume (Text.Path.join [source, "disk.img"]) target) with
                  | .error e => pure (.error ("mount volume " ++ volume ++ ": " ++ e))
                  | .ok _ => pure (.ok record)

/-! ### Unmounting -/

/-- The device is no longer allowed, if there is a manager. -/
def forbidDevice (statusPodUID : UID) (major minor : Int) : NodeCall (Except String Unit) := do
  match ← NewManager statusPodUID with
  | .error e => pure (.error e)
  | .ok none => pure (.ok ())
  | .ok (some pod) => run (.setCgroup pod major minor false)

/-- `umountHotplugVolume`. -/
def umountHotplugVolume (cause : Release) (statusPodUID : UID) (entry : MountEntry) :
    NodeCall (Except String Unit) := do
  match ← run (.isBlockFile entry.target) with
  | true =>
      match ← run (.stat entry.target) with
      | .error e => pure (.error e)
      | .ok false => pure (.ok ())
      | .ok true =>
          match ← run (.getBlockFileMajorMinor entry.target) with
          | .error e => pure (.error e)
          | .ok (major, minor) =>
              match ← forbidDevice statusPodUID major minor with
              | .error e => pure (.error e)
              | .ok _ => run (.removeAll cause entry.volume entry.target)
  | false =>
      match ← isMounted entry.target with
      | .error e => pure (.error e)
      | .ok false => pure (.ok ())
      | .ok true =>
          match ← run (.umount cause entry.volume entry.target) with
          | .error e => pure (.error ("umount volume from VM pod: " ++ e))
          | .ok _ => pure (.ok ())

/-- The loop of `umountHotplugVolumes` and `umountAllHotplugVolumes`: entries
    that are not to be kept are released, up to the first failure. -/
def umountEntries (cause : Release) (statusPodUID : UID) (keep : MountEntry → Bool) :
    List MountEntry → NodeCall (Except String Unit)
  | [] => pure (.ok ())
  | entry :: rest => do
      if keep entry then umountEntries cause statusPodUID keep rest
      else
        match ← umountHotplugVolume cause statusPodUID entry with
        | .error e => pure (.error e)
        | .ok _ => umountEntries cause statusPodUID keep rest

/-- `umountHotplugVolumes`, where `names` are those in the volume status. -/
def umountHotplugVolumes (statusPodUID : UID) (names : List String) :
    NodeCall (Except String Unit) := do
  match ← run .loadRecord with
  | .error e => pure (.error e)
  | .ok record =>
      let keep := fun e : MountEntry => names.contains e.volume
      match ← umountEntries .unplugged statusPodUID keep record with
      | .error e => pure (.error e)
      | .ok _ =>
          let newRecord := record.filter keep
          if newRecord.length > 0 then run (.writeRecord newRecord) else run .removeRecord

/-- `umountAllHotplugVolumes`. -/
def umountAllHotplugVolumes (statusPodUID : UID) : NodeCall (Except String Unit) := do
  match ← run .loadRecord with
  | .error e => pure (.error e)
  | .ok record =>
      match ← umountEntries .all statusPodUID (fun _ => false) record with
      | .error e => pure (.error e)
      | .ok _ => run .removeRecord

/-! ### The Handler -/

/-- What a run of the daemon has at hand: the pod that the status of the VM
    names, and the record while `mountHotplugVolumes` works with it. -/
structure Local where
  statusPodUID : UID := ""
  record : Option (List MountEntry) := none

/-- The local state after a volume was mounted. If that has failed,
    `mountHotplugVolumes` returns and the record is dropped. -/
def Local.mounted (l : Local) : Except String (List MountEntry) → Except String Unit × Local
  | .error e => (.error e, { l with record := none })
  | .ok record => (.ok (), { l with record := some record })

/-- The calls about mounts are carried out on the node. Mounting without a
    record would dereference a nil pointer. -/
def handler : Handler api nodeApi Local
  | .getVM, l => do
      let a ← run (.base .getVM)
      match a with
      | .error e => pure (.error e, l)
      | .ok vm => pure (.ok vm, { l with statusPodUID := vm.status.vmPodUID })
  | .getVMMountRecord, l => do
      match ← run .loadRecord with
      | .error e => pure (.error e, { l with record := none })
      | .ok record => pure (.ok (), { l with record := some record })
  | .mountVolume volume block vmPodUID volumePodUID, l =>
      match l.record with
      | none => broken
      | some record => do
          let r ← if block then mountBlockVolume l.statusPodUID volume vmPodUID volumePodUID record
            else mountFileSystemVolume volume vmPodUID volumePodUID record
          pure (l.mounted r)
  | .umountHotplugVolumes keep, l => do
      let r ← umountHotplugVolumes l.statusPodUID keep
      pure (r, { l with record := none })
  | .umountAllHotplugVolumes, l => do
      let r ← umountAllHotplugVolumes l.statusPodUID
      pure (r, { l with record := none })
  | o, l => do
      let a ← run (.base o)
      pure (a, l)

end VMDaemon

end Virtink
