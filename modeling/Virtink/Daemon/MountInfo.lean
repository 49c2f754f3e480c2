import Virtink.Daemon.Node

/-! # Where a Volume is on the Host

    `getHotplugVolumeSourcePathOnHost` looks for the directory of a volume on
    the node. The volume pod has the volume mounted at `/mnt/<volume>`; the
    function takes the device and the root of that mount from the mount table of
    the process that listens on the socket of the pod, and searches the mount
    table of the host for a mount of the same device.

    In `Virtink.Daemon.Node` the function is one call, whose answer is what
    this program ends with.
-/

namespace Virtink

open Calls

/-! ### Mount Tables -/

/-- `mountinfo.Info`, as far as it is looked at. -/
structure MountInfo where
  major      : Int
  minor      : Int
  root       : String
  mountpoint : String
  deriving DecidableEq, Repr

/-- `/proc/<pid>/mountinfo`: its entries, and what goes wrong after them. -/
structure MountTable where
  entries : List MountInfo
  error   : Option String := none
  deriving DecidableEq, Repr

/-- `mountinfo.FilterFunc`: whether an entry is skipped, and whether the search
    stops with it. -/
abbrev FilterFunc := MountInfo → Bool × Bool

/-- What package `mountinfo` provides: the entries of a table that a filter
    leaves, and the filter for one mount point. -/
structure MountPackage where
  getMountsFromReader : FilterFunc → MountTable → Except String (List MountInfo)
  singleEntryFilter : String → FilterFunc

/-- It does what it is documented to do, with the filters that are used here. -/
structure MountPackage.Lawful (lib : MountPackage) : Prop where
  /-- The first entry of the mount point ends the search. -/
  finds : ∀ mp table mount, table.entries.find? (·.mountpoint == mp) = some mount →
    lib.getMountsFromReader (lib.singleEntryFilter mp) table = .ok [mount]
  /-- A filter that never stops leaves a table that can be read to its end,
      without what it skips. -/
  filters : ∀ (p : MountInfo → Bool) table, table.error = none →
    lib.getMountsFromReader (fun m => (!p m, false)) table = .ok (table.entries.filter p)

/-! ### The Search -/

/-- What the search asks the node for. -/
inductive MountOp where
  | getPIDBySocket (socket : String)
  | openMountInfo (pid : Nat)

/-- What each call is answered with. -/
def MountOp.Ans : MountOp → Type
  | .getPIDBySocket _ => Except String Nat
  | .openMountInfo _ => Except String MountTable

/-- The signature of the search. -/
def mountApi : Sig := ⟨MountOp, MountOp.Ans⟩

/-- Make one call. -/
def look (o : MountOp) : Prog mountApi o.Ans := Prog.call o Prog.pure

/-- `getMountInfos`. -/
def getMountInfos (lib : MountPackage) (pid : Nat) (filter : FilterFunc) :
    Prog mountApi (Except String (List MountInfo)) := do
  match ← look (.openMountInfo pid) with
  | .error e => pure (.error e)
  | .ok table => pure (lib.getMountsFromReader filter table)

/-- `strings.HasPrefix`. -/
def hasPrefix (s pre : String) : Bool := pre.toList.isPrefixOf s.toList

/-- The entry of the host is one the search takes for that of the volume, whose
    mount in the volume pod is `mount`. -/
def candidate (mount : MountInfo) (volumePodUID : UID) (m : MountInfo) : Bool :=
  !(m.major != mount.major || m.minor != mount.minor || !hasPrefix mount.root m.root ||
    !containsText m.mountpoint volumePodUID)

/-- The socket that the process of the volume pod listens on. -/
def hotplugSocket (volumePodUID : UID) : String :=
  "/var/lib/kubelet/pods/" ++ volumePodUID ++ "/volumes/kubernetes.io~empty-dir/hotplug/hp.sock"

/-- `getHotplugVolumeSourcePathOnHost`. -/
def getHotplugVolumeSourcePathOnHost (lib : MountPackage) (volume : String)
    (volumePodUID : UID) : Prog mountApi (Except String String) := do
  match ← look (.getPIDBySocket (hotplugSocket volumePodUID)) with
  | .error e => pure (.error e)
  | .ok pid =>
      match ← getMountInfos lib pid (lib.singleEntryFilter ("/mnt/" ++ volume)) with
      | .error e => pure (.error e)
      | .ok [] => pure (.error ("no mount info for " ++ volume ++ " in volume pod"))
      | .ok (mount :: _) =>
          match ← getMountInfos lib 1 (fun m => (!candidate mount volumePodUID m, false)) with
          | .error e => pure (.error e)
          | .ok [] => pure (.error ("n mount info for " ++ volume ++ " on host"))
          | .ok (m :: _) => pure (.ok m.mountpoint)

end Virtink
