import Virtink.Controller.Pod

/-! # Where the Daemon Mounts Hotplug Volumes

    The host path of the file that `mountBlockVolume` creates with `mknod`, or
    that `mountFileSystemVolume` creates and bind-mounts a disk image on. The
    directory is the `hotplug-volumes` volume of the VM pod on the node.
-/

namespace Virtink

/-- `target` of `mountBlockVolume`. -/
def mountBlockVolumeTarget (vmPodUID : UID) (volume : String) : String :=
  Text.Path.join ["/var/lib/kubelet/pods", vmPodUID,
    "volumes/kubernetes.io~empty-dir/hotplug-volumes/", volume]

/-- The directory that the format of `mountFileSystemVolume` names. -/
def hotplugDir (vmPodUID : UID) : String :=
  "/var/lib/kubelet/pods/" ++ vmPodUID ++ "/volumes/kubernetes.io~empty-dir/hotplug-volumes"

/-- `target` of `mountFileSystemVolume`. -/
def mountFileSystemVolumeTarget (vmPodUID : UID) (volume : String) : String :=
  hotplugDir vmPodUID ++ "/" ++ (volume ++ ".img")

/-- The target of a hotplug volume, by the mode of its claim. -/
def mountTarget (env : BuildEnv) (vmPodUID : UID) (volume : Volume) : Except String String :=
  match isBlock env volume with
  | .error e => .error e
  | .ok true => .ok (mountBlockVolumeTarget vmPodUID volume.name)
  | .ok false => .ok (mountFileSystemVolumeTarget vmPodUID volume.name)

/-- The directory of the target is never the root, whatever the pod. -/
theorem resolve_hotplugDir_ne_nil (vmPodUID : UID) :
    Text.Path.resolve ["/var/lib/kubelet/pods", vmPodUID,
      "volumes/kubernetes.io~empty-dir/hotplug-volumes/"] ≠ [] := by
  have hsplit : Text.split '/' "volumes/kubernetes.io~empty-dir/hotplug-volumes/" =
      ["volumes", "kubernetes.io~empty-dir", "hotplug-volumes", ""] := by decide
  simp [Text.Path.resolve, hsplit, Text.Path.resolveStep]

/-- The last component of the target is the name of the volume. -/
theorem base_mountBlockVolumeTarget (vmPodUID : UID) {volume : String}
    (h : Text.Path.Component volume) :
    Text.Path.base (mountBlockVolumeTarget vmPodUID volume) = volume := by
  have hbase := Text.Path.base_join_concat (resolve_hotplugDir_ne_nil vmPodUID) h
  simpa only [mountBlockVolumeTarget, List.cons_append, List.nil_append] using hbase

/-- The last component of the target is the name of an image file. -/
theorem base_mountFileSystemVolumeTarget (vmPodUID : UID) {volume : String}
    (h : '/' ∉ volume.toList) :
    Text.Path.base (mountFileSystemVolumeTarget vmPodUID volume) = volume ++ ".img" := by
  have hfile : '/' ∉ (volume ++ ".img").toList := by
    simp [String.toList_append, h]
  exact Text.Path.base_append_slash hfile (hotplugDir vmPodUID)

end Virtink
