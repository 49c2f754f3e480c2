import Virtink.Api.Types
import Virtink.Framework.Loop
import Virtink.Framework.Text

/-! # The VM Configuration

    `buildVMConfig` of the prerunner, which runs in the main container of the
    VM pod and hands its result to the hypervisor. What it finds there is a
    parameter (`Host`): environment variables, the CPU set, the outcome of the
    commands it starts and of setting up network links.
-/

namespace Virtink.Prerunner

/-! ### The Configuration -/

/-- `ConsoleConfig`. -/
structure ConsoleConfig where
  mode   : String
  file   : String := ""
  socket : String := ""
  iommu  : Bool := false
  deriving DecidableEq, Repr

/-- `PayloadConfig`. -/
structure PayloadConfig where
  kernel  : String
  cmdline : String := ""
  deriving DecidableEq, Repr

/-- `CpuAffinity`. -/
structure CpuAffinity where
  vcpu     : Nat
  hostCpus : List Nat
  deriving DecidableEq, Repr

/-- `CpusConfig` with its topology. -/
structure CpusConfig where
  maxVcpus       : Nat
  bootVcpus      : Nat
  packages       : Nat
  diesPerPackage : Nat := 1
  coresPerDie    : Nat
  threadsPerCore : Nat := 1
  affinity       : List CpuAffinity := []
  deriving DecidableEq, Repr

/-- `MemoryConfig`. -/
structure MemoryConfig where
  size      : Int
  hugepages : Bool := false
  shared    : Bool := false
  deriving DecidableEq, Repr

/-- `DiskConfig`. -/
structure DiskConfig where
  id       : String
  path     : String
  direct   : Bool := true
  readonly : Bool := false
  deriving DecidableEq, Repr

/-- `FsConfig`. -/
structure FsConfig where
  id        : String
  socket    : String
  tag       : String
  numQueues : Nat := 1
  queueSize : Nat := 1024
  deriving DecidableEq, Repr

/-- `NetConfig`. -/
structure NetConfig where
  id          : String
  mac         : String := ""
  tap         : String := ""
  mtu         : Int := 0
  vhostUser   : Bool := false
  vhostMode   : String := ""
  vhostSocket : String := ""
  deriving DecidableEq, Repr

/-- `DeviceConfig`. -/
structure DeviceConfig where
  id   : String
  path : String
  deriving DecidableEq, Repr

/-- `VdpaConfig`. -/
structure VdpaConfig where
  id        : String
  path      : String
  numQueues : Int
  iommu     : Bool
  deriving DecidableEq, Repr

/-- `VmConfig`. -/
structure VmConfig where
  console : ConsoleConfig
  serial  : ConsoleConfig
  payload : PayloadConfig
  cpus    : CpusConfig
  memory  : MemoryConfig
  disks   : List DiskConfig := []
  fs      : List FsConfig := []
  net     : List NetConfig := []
  devices : List DeviceConfig := []
  vdpa    : List VdpaConfig := []
  deriving DecidableEq, Repr

/-! ### The Container -/

/-- `NetworkStatus` of an attached network: the device behind it. -/
structure NetworkStatus where
  interface  : String
  pciAddress : Option String := none
  vdpaPath   : Option String := none
  deriving DecidableEq, Repr

/-- What the prerunner finds in its container and on its node. -/
structure Host where
  arm64 : Bool := false
  /-- `os.Getenv`. -/
  getenv : String → String
  /-- `cpuset.Get`, as the sorted members. -/
  cpuset : Except String (List Nat)
  /-- `os.MkdirAll` of the socket directory. -/
  mkdirSockets : Except String Unit
  /-- Start `virtiofsd` for a socket and a source directory. -/
  startVirtiofsd : String → String → Except String Unit
  /-- `os.Stat` finds the directory. -/
  exists_ : String → Bool
  /-- Unmarshal the network status. -/
  networkStatus : String → Except String (List NetworkStatus)
  /-- `setupBridgeNetwork` of a link with an address. -/
  setupBridgeNetwork : String → String → NetConfig → Except String NetConfig
  /-- `setupMasqueradeNetwork` of a link with a CIDR. -/
  setupMasqueradeNetwork : String → String → NetConfig → Except String NetConfig
  /-- `setupVhostUserNetwork` of a link. -/
  setupVhostUserNetwork : String → NetConfig → Except String NetConfig

/-! ### Disks -/

/-- The volumes that `BLOCK_VOLUMES` names. -/
def blockVolumes (host : Host) : List String := Text.split ',' (host.getenv "BLOCK_VOLUMES")

/-- The path of a disk on a claim. -/
def claimDiskPath (volume : Volume) (block : Bool) : String :=
  if block then
    if volume.isHotpluggable then "/hotplug-volumes/" ++ volume.name else "/mnt/" ++ volume.name
  else
    if volume.isHotpluggable then
      Text.Path.join ["/hotplug-volumes", volume.name ++ ".img"]
    else Text.Path.join ["/mnt", volume.name, "disk.img"]

/-- The path of the disk of a volume. -/
def diskPath (block : List String) (volume : Volume) : Except String String :=
  match volume.containerDisk, volume.cloudInit, volume.containerRootfs with
  | some _, _, _ => .ok ("/mnt/" ++ volume.name ++ "/disk.raw")
  | none, some _, _ => .ok ("/mnt/" ++ volume.name ++ "/cloud-init.iso")
  | none, none, some _ => .ok ("/mnt/" ++ volume.name ++ "/rootfs.raw")
  | none, none, none =>
      if volume.persistentVolumeClaim.isSome || volume.dataVolume.isSome then
        .ok (claimDiskPath volume (block.contains volume.name))
      else .error ("invalid source of volume \"" ++ volume.name ++ "\"")

/-- A pass of the loop over the disks: a disk that names no volume is skipped. -/
def diskConfig (block : List String) (volumes : List Volume) (disk : Disk) :
    Except String (List DiskConfig) :=
  match volumes.find? (·.name == disk.name) with
  | none => .ok []
  | some volume =>
      match diskPath block volume with
      | .error e => .error e
      | .ok path => .ok [{ id := disk.name, path := path, readonly := disk.readOnly == some true }]

/-- The loop over the disks. -/
def diskConfigs (block : List String) (volumes : List Volume) :
    List Disk → Except String (List DiskConfig) :=
  Loop.collect [] List.append (diskConfig block volumes)

/-! ### CPUs and File Systems -/

/-- The number of vCPUs, in 32 bits. -/
def numVCPUs (cpu : CPU) : Nat := (cpu.sockets * cpu.coresPerSocket).toNat

/-- The pinning of vCPUs. -/
def cpuAffinity (host : Host) (cpu : CPU) : Except String (List CpuAffinity) :=
  if cpu.dedicatedCPUPlacement then
    match host.cpuset with
    | .error e => .error ("get CPU set: " ++ e)
    | .ok pcpus =>
        if pcpus.length ≠ numVCPUs cpu then .error "number of pCPUs and vCPUs must match"
        else .ok (pcpus.zipIdx.map (fun (c, i) => { vcpu := i, hostCpus := [c] }))
  else .ok []

/-- A file system: `virtiofsd` is started for its volume, or else for the
    directory of a sidecar volume, if there is one. -/
def fsConfig (host : Host) (volumes : List Volume) (fs : FileSystem) :
    Except String (List FsConfig) :=
  match host.mkdirSockets with
  | .error e => .error ("create virtiofsd socket dir: " ++ e)
  | .ok () =>
      let socket := "/var/run/virtink/virtiofsd/" ++ fs.name ++ ".sock"
      let config : FsConfig := { id := fs.name, socket := socket, tag := fs.name }
      if volumes.any (·.name == fs.name) then
        match host.startVirtiofsd socket ("/mnt/" ++ fs.name) with
        | .error e => .error ("start virtiofsd: " ++ e)
        | .ok () => .ok [config]
      else if host.exists_ ("/mnt/" ++ fs.name) then
        match host.startVirtiofsd socket ("/mnt/" ++ fs.name) with
        | .error e => .error ("start virtiofsd for sidecar volume: " ++ e)
        | .ok () => .ok [config]
      else .ok []

/-! ### Networks -/

/-- The devices that an interface contributes. -/
structure Links where
  net       : List NetConfig := []
  devices   : List DeviceConfig := []
  vdpa      : List VdpaConfig := []
  vhostUser : Bool := false
  deriving DecidableEq, Repr

/-- The links of one interface after another. -/
def Links.append (l m : Links) : Links where
  net := l.net ++ m.net
  devices := l.devices ++ m.devices
  vdpa := l.vdpa ++ m.vdpa
  vhostUser := l.vhostUser || m.vhostUser

/-- The link of network `i` in the pod. -/
def linkName (network : Network) (i : Nat) : Except String String :=
  if network.pod then .ok "eth0"
  else if network.multus.isSome then .ok ("net" ++ toString i)
  else .error ("invalid source of network \"" ++ network.name ++ "\"")

/-- An interface that was set up, or the error with its prefix. -/
def netLinks (what : String) (vhostUser : Bool) : Except String NetConfig → Except String Links
  | .error e => .error (what ++ ": " ++ e)
  | .ok c => .ok { net := [c], vhostUser := vhostUser }

/-- The links of an interface on network `i`. -/
def interfaceLinks (host : Host) (status : List NetworkStatus) (iface : Interface) (link : String)
    (i : Nat) : Except String Links :=
  match iface.bridge, iface.masquerade, iface.sriov, iface.vdpa, iface.vhostUser with
  | true, _, _, _, _ =>
      netLinks "setup bridge network" false
        (host.setupBridgeNetwork link ("169.254." ++ toString (200 + i) ++ ".1/30")
          { id := iface.name })
  | false, some m, _, _, _ =>
      netLinks "setup masquerade network" false
        (host.setupMasqueradeNetwork link m.cidr { id := iface.name, mac := iface.mac })
  | false, none, true, _, _ =>
      .ok { devices := (status.filter (·.interface == link)).filterMap (fun s =>
        s.pciAddress.map (fun a => { id := iface.name, path := "/sys/bus/pci/devices/" ++ a })) }
  | false, none, false, some v, _ =>
      .ok { vdpa := (status.filter (·.interface == link)).filterMap (fun s =>
        s.vdpaPath.map (fun p =>
          { id := iface.name, path := p, numQueues := v.numQueues, iommu := v.iommu })) }
  | false, none, false, none, true =>
      netLinks "setup vhost-user network" true
        (host.setupVhostUserNetwork link
          { id := iface.name, mac := iface.mac, vhostUser := true, vhostMode := "Server" })
  | false, none, false, none, false => .ok {}

/-- The networks of an interface, from index `i` on. -/
def ifaceNetworks (host : Host) (status : List NetworkStatus) (iface : Interface) :
    Nat → List Network → Except String Links
  | _, [] => .ok {}
  | i, network :: l =>
      if network.name ≠ iface.name then ifaceNetworks host status iface (i + 1) l
      else
        match linkName network i with
        | .error e => .error e
        | .ok link =>
            match interfaceLinks host status iface link i with
            | .error e => .error e
            | .ok links =>
                match ifaceNetworks host status iface (i + 1) l with
                | .error e => .error e
                | .ok rest => .ok (links.append rest)

/-- The loop over the interfaces. -/
def interfacesLinks (host : Host) (status : List NetworkStatus) (networks : List Network) :
    List Interface → Except String Links :=
  Loop.collect {} Links.append (fun iface => ifaceNetworks host status iface 0 networks)

/-- The status of the attached networks. -/
def networkStatusList (host : Host) : Except String (List NetworkStatus) :=
  if host.getenv "NETWORK_STATUS" ≠ "" then host.networkStatus (host.getenv "NETWORK_STATUS")
  else .ok []

/-! ### The Builder -/

/-- The console of the guest. -/
def consoleConfig : Option Console → ConsoleConfig
  | none => { mode := "Pty" }
  | some c => { mode := c.mode, file := c.file, socket := c.socket, iommu := c.iommu }

/-- The serial port of the guest. -/
def serialConfig : Option Console → ConsoleConfig
  | none => { mode := "Tty" }
  | some c =>
      { mode := if c.mode = "" then "Socket" else c.mode
        file := c.file
        socket := if c.socket = "" then "/var/run/virtink/serial.sock" else c.socket
        iommu := c.iommu }

/-- What the guest boots. -/
def payloadConfig (host : Host) : Option Kernel → PayloadConfig
  | none =>
      { kernel :=
          if host.arm64 then "/var/lib/cloud-hypervisor/CLOUDHV_EFI.fd"
          else "/var/lib/cloud-hypervisor/hypervisor-fw" }
  | some kernel => { kernel := "/mnt/virtink-kernel/vmlinux", cmdline := kernel.cmdline }

/-- The configuration from its parts. -/
def configOf (host : Host) (spec : VMSpec) (affinity : List CpuAffinity) (disks : List DiskConfig)
    (fs : List FsConfig) (links : Links) : VmConfig where
  console := consoleConfig spec.instance_.console
  serial := serialConfig spec.instance_.serial
  payload := payloadConfig host spec.instance_.kernel
  cpus :=
    { maxVcpus := numVCPUs spec.instance_.cpu
      bootVcpus := numVCPUs spec.instance_.cpu
      packages := spec.instance_.cpu.sockets.toNat
      coresPerDie := spec.instance_.cpu.coresPerSocket.toNat
      affinity := affinity }
  memory :=
    { size := spec.instance_.memory.size.value
      hugepages := spec.instance_.memory.hugepages.isSome
      shared := spec.instance_.fileSystems ≠ [] || links.vhostUser }
  disks := disks
  fs := fs
  net := links.net
  devices := links.devices
  vdpa := links.vdpa

/-- `buildVMConfig`. -/
def buildVMConfig (host : Host) (spec : VMSpec) : Except String VmConfig := do
  let affinity ← cpuAffinity host spec.instance_.cpu
  let disks ← diskConfigs (blockVolumes host) spec.volumes spec.instance_.disks
  let fs ← Loop.collect [] List.append (fsConfig host spec.volumes) spec.instance_.fileSystems
  let status ← networkStatusList host
  let links ← interfacesLinks host status spec.networks spec.instance_.interfaces
  pure (configOf host spec affinity disks fs links)

/-- The builder succeeds iff each of its parts does. -/
theorem buildVMConfig_eq_ok {host : Host} {spec : VMSpec} {cfg : VmConfig} :
    buildVMConfig host spec = .ok cfg ↔
      ∃ affinity disks fs status links,
        cpuAffinity host spec.instance_.cpu = .ok affinity ∧
        diskConfigs (blockVolumes host) spec.volumes spec.instance_.disks = .ok disks ∧
        Loop.collect [] List.append (fsConfig host spec.volumes)
          spec.instance_.fileSystems = .ok fs ∧
        networkStatusList host = .ok status ∧
        interfacesLinks host status spec.networks spec.instance_.interfaces = .ok links ∧
        configOf host spec affinity disks fs links = cfg := by
  simp only [buildVMConfig, Loop.bind_eq_ok, pure, Except.pure, Except.ok.injEq]
  constructor
  · rintro ⟨a, ha, ds, hds, fs, hfs, st, hst, ls, hls, rfl⟩
    exact ⟨a, ds, fs, st, ls, ha, hds, hfs, hst, hls, rfl⟩
  · rintro ⟨a, ds, fs, st, ls, ha, hds, hfs, hst, hls, rfl⟩
    exact ⟨a, ha, ds, hds, fs, hfs, st, hst, ls, hls, rfl⟩

end Virtink.Prerunner
