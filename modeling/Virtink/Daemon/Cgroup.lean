import Virtink.Daemon.Mounts
import Virtink.Strconv

/-! # The Device Rules of a Cgroup

    `mountBlockVolume` and `umountHotplugVolume` hand one rule to the manager of
    the cgroup of the hypervisor. A manager of runc replaces all rules of a
    cgroup, so each of the two managers of the daemon adds the rules that are in
    force: that of cgroups v1 reads them back from the kernel, that of cgroups
    v2 makes them up again from the VM.
-/

namespace Virtink

open Calls

/-! ### Rules -/

/-- `devices.Type`, of the devices that a cgroup has rules for. -/
inductive DeviceType where
  | wildcard | block | char
  deriving DecidableEq, Repr

/-- `devices.Rule`; -1 is any number. -/
structure DeviceRule where
  type        : DeviceType
  major       : Int
  minor       : Int
  permissions : String
  allow       : Bool
  deriving DecidableEq, Repr

/-- The rule that `mountBlockVolume` allows and `umountHotplugVolume` forbids a
    device with. -/
def volumeRule (major minor : Int) (allow : Bool) : DeviceRule :=
  { type := .block, major := major, minor := minor, permissions := "rwm", allow := allow }

/-! ### Calls -/

/-- What the managers ask for. -/
inductive CgroupOp where
  /-- The path of the devices subsystem. -/
  | getPaths
  | readFile (dir file : String)
  /-- `EmulatorFromList`, with what `Rules` yields. -/
  | emulatorFromList (list : String)
  | stat (path : String)
  /-- `/bin/stat` of a device, with its output. -/
  | statDevice (path : String)
  | managerSet (devices : List DeviceRule)

/-- What each call is answered with. -/
def CgroupOp.Ans : CgroupOp → Type
  | .getPaths => Option String
  | .readFile _ _ => Except String String
  | .emulatorFromList _ => Except String (Except String (List DeviceRule))
  | .stat _ => Except String Bool
  | .statDevice _ => String × Option String
  | .managerSet _ => Except String Unit

/-- The signature of the managers. -/
def cgroupApi : Sig := ⟨CgroupOp, CgroupOp.Ans⟩

/-- Programs of the managers. -/
abbrev CgroupCall (α : Type) := Prog cgroupApi α

/-- Make one call. -/
def consult (o : CgroupOp) : CgroupCall o.Ans := Prog.call o Prog.pure

/-! ### Cgroups v1 -/

/-- The rules that `v1Manager.Set` hands on. -/
def v1Rules (new current : List DeviceRule) : List DeviceRule := new ++ current

/-- `v1Manager.Set`. -/
def v1ManagerSet (new : List DeviceRule) : CgroupCall (Except String Unit) := do
  match ← consult .getPaths with
  | none => pure (.error "devices subsystem's path is not defined for this manager")
  | some devicesPath =>
      match ← consult (.readFile devicesPath "devices.list") with
      | .error e => pure (.error ("read deivces.list: " ++ e))
      | .ok deviceRulesStr =>
          match ← consult (.emulatorFromList deviceRulesStr) with
          | .error e => pure (.error ("create emulator: " ++ e))
          | .ok (.error e) => pure (.error ("get device rules from emulator: " ++ e))
          | .ok (.ok deviceRules) => consult (.managerSet (v1Rules new deviceRules))

/-! ### Cgroups v2 -/

/-- The numbers in the output of `/bin/stat`, which writes them in base 16; here
    they are read in base 26. -/
def majorMinorOf (output : String) : Except String (Int × Int) :=
  match Text.split ',' output with
  | [majorText, minorText, _, _] =>
      match parseInt majorText 26 32 with
      | .error e => .error e
      | .ok major =>
          match parseInt minorText 26 32 with
          | .error e => .error e
          | .ok minor => .ok (major, minor)
  | _ => .error "output is invalid"

/-- `getBlockFileMajorMinor` of the package. -/
def cgroupBlockFileMajorMinor (path : String) : CgroupCall (Except String (Int × Int)) := do
  match ← consult (.statDevice path) with
  | (output, some e) => pure (.error ("/bin/stat " ++ output ++ ": " ++ e))
  | (output, none) => pure (majorMinorOf output)

/-- A character device that every VM may use. -/
def charRule (major minor : Int) : DeviceRule :=
  { type := .char, major := major, minor := minor, permissions := "rwm", allow := true }

/-- The rules for the devices of the hypervisor: `null`, `tun`, `ptmx`, `kvm`,
    `urandom` and the pseudoterminals. -/
def hypervisorRules : List DeviceRule :=
  [charRule 1 3, charRule 10 200, charRule 5 2, charRule 10 232, charRule 1 9] ++
    (List.range 16).map fun i => charRule (136 + i) (-1)

/-- Where the device of a volume on a claim is. -/
def deviceNode (vm : VM) (pid : Nat) (volume : Volume) : String :=
  if volume.isHotpluggable then mountBlockVolumeTarget vm.status.vmPodUID volume.name
  else "/proc/" ++ toString pid ++ "/root/mnt/" ++ volume.name

/-- The loop of `generateDeviceRuleForVM` over the volumes. -/
def volumeRules (vm : VM) (pid : Nat) :
    List Volume → List DeviceRule → CgroupCall (Except String (List DeviceRule))
  | [], deviceRules => pure (.ok deviceRules)
  | volume :: rest, deviceRules => do
      if volume.persistentVolumeClaim.isSome || volume.dataVolume.isSome then
        match ← consult (.stat (deviceNode vm pid volume)) with
        | .error e => pure (.error e)
        | .ok false => volumeRules vm pid rest deviceRules
        | .ok true =>
            match ← cgroupBlockFileMajorMinor (deviceNode vm pid volume) with
            | .error e => pure (.error e)
            | .ok (major, minor) =>
                volumeRules vm pid rest (deviceRules ++ [volumeRule major minor true])
      else volumeRules vm pid rest deviceRules

/-- `generateDeviceRuleForVM`. -/
def generateDeviceRuleForVM (vm : VM) (pid : Nat) :
    CgroupCall (Except String (List DeviceRule)) :=
  volumeRules vm pid vm.spec.volumes hypervisorRules

/-- The loop of `v2Manager.Set` over the new rules: every pass overwrites what
    the one before has found. -/
def found (new : List DeviceRule) (current : DeviceRule) : Bool :=
  new.foldl (fun _ newRule => current.type == newRule.type && current.major == newRule.major &&
    current.minor == newRule.minor) false

/-- The rules that `v2Manager.Set` hands on. -/
def v2Rules (new current : List DeviceRule) : List DeviceRule :=
  new ++ current.filter (!found new ·)

/-- `v2Manager.Set`. -/
def v2ManagerSet (vm : VM) (pid : Nat) (new : List DeviceRule) :
    CgroupCall (Except String Unit) := do
  match ← generateDeviceRuleForVM vm pid with
  | .error e => pure (.error e)
  | .ok deviceRules =>
      match ← consult (.managerSet (v2Rules new deviceRules)) with
      | .error e => pure (.error ("set cgroup: " ++ e))
      | .ok _ => pure (.ok ())

end Virtink
