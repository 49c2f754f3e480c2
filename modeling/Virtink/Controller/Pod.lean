import Virtink.Cluster.World
import Virtink.Framework.Loop
import Virtink.Framework.Text

/-! # The VM Pod

    `buildVMPod`. The Go function appends to one pod in a number of loops;
    here every pass of a loop yields what it appends (`PodParts`), and the pod
    is assembled from these parts in the order of the source.

    What the function reads from the API server is a parameter, as are the
    encoders it uses (`BuildEnv`).
-/

namespace Virtink

/-! ### What the Builder Reads -/

/-- `corev1.PersistentVolumeMode`. -/
inductive VolumeMode where
  | filesystem | block
  deriving DecidableEq, Repr

/-- `corev1.PersistentVolumeClaimPhase`. -/
inductive ClaimPhase where
  | empty | pending | bound | lost
  deriving DecidableEq, Repr

/-- `corev1.PersistentVolumeClaim`. -/
structure PVC where
  volumeMode : Option VolumeMode := none
  phase      : ClaimPhase := .empty
  deriving DecidableEq, Repr

/-- The part of a NAD's configuration that is read for vhost-user. -/
structure NADConfig where
  type                      : String
  vhostUserSocketVolumeName : String := ""
  vhostUserSocketName       : String := ""
  deriving DecidableEq, Repr

/-- `NetworkAttachmentDefinition`: the annotation `resourceName`, and what its
    configuration unmarshals to. -/
structure NAD where
  resourceName : String := ""
  config       : Except String NADConfig

/-- `NetworkSelectionElement`. -/
structure NetworkSelectionElement where
  name             : String
  interfaceRequest : String
  macRequest       : String
  deriving DecidableEq, Repr

/-- The surroundings of `buildVMPod`. -/
structure BuildEnv where
  prerunnerImageName : String
  /-- A claim by name; a claim that is not found is no error. -/
  pvc : String → Except String (Option PVC)
  /-- `IsPopulated` of a claim and the DataVolume of that name. -/
  isPopulated : PVC → String → Except String Bool
  /-- A NAD by name. -/
  nad : String → Except String NAD
  /-- `base64.StdEncoding.EncodeToString`. -/
  base64 : String → String
  /-- The JSON of the networks annotation. -/
  networksJSON : List NetworkSelectionElement → String
  /-- The JSON of the VM, encoded. -/
  vmData : VM → String

/-! ### Claims -/

/-- `volumeutil.GetPVC`. -/
def getPVC (env : BuildEnv) (volume : Volume) : Except String (Option PVC) :=
  if volume.pvcName = "" then .error "volume is not on a PVC" else env.pvc volume.pvcName

/-- `volumeutil.IsBlock`. -/
def isBlock (env : BuildEnv) (volume : Volume) : Except String Bool :=
  match getPVC env volume with
  | .error e => .error e
  | .ok none => .error "pvc not found"
  | .ok (some pvc) => .ok (pvc.volumeMode == some .block)

/-- `volumeutil.IsReady`. -/
def isReady (env : BuildEnv) (volume : Volume) : Except String Bool :=
  match volume.dataVolume with
  | none => .ok true
  | some dv =>
      match getPVC env volume with
      | .error e => .error e
      | .ok none => .ok false
      | .ok (some pvc) => env.isPopulated pvc dv.volumeName

/-! ### Parts of a Pod -/

/-- What a pass of a loop appends to the pod; mounts, devices and variables go
    to the main container. -/
structure PodParts where
  volumes        : List KubeVolume := []
  volumeMounts   : List VolumeMount := []
  volumeDevices  : List VolumeDevice := []
  initContainers : List Container := []
  blockVolumes   : List String := []
  env            : List EnvVar := []
  /-- Device resources of which the main container needs one more. -/
  resources      : List String := []
  nodeSelector   : Labels := []
  annotations    : Labels := []
  networks       : List NetworkSelectionElement := []
  deriving DecidableEq, Repr

/-- One part after another. -/
def PodParts.append (p q : PodParts) : PodParts where
  volumes := p.volumes ++ q.volumes
  volumeMounts := p.volumeMounts ++ q.volumeMounts
  volumeDevices := p.volumeDevices ++ q.volumeDevices
  initContainers := p.initContainers ++ q.initContainers
  blockVolumes := p.blockVolumes ++ q.blockVolumes
  env := p.env ++ q.env
  resources := p.resources ++ q.resources
  nodeSelector := p.nodeSelector ++ q.nodeSelector
  annotations := p.annotations ++ q.annotations
  networks := p.networks ++ q.networks

instance : Append PodParts := ⟨PodParts.append⟩

section projections
variable (p q : PodParts)

@[simp] theorem PodParts.append_volumes : (p ++ q).volumes = p.volumes ++ q.volumes := rfl
@[simp] theorem PodParts.append_volumeMounts :
    (p ++ q).volumeMounts = p.volumeMounts ++ q.volumeMounts := rfl
@[simp] theorem PodParts.append_volumeDevices :
    (p ++ q).volumeDevices = p.volumeDevices ++ q.volumeDevices := rfl
@[simp] theorem PodParts.append_initContainers :
    (p ++ q).initContainers = p.initContainers ++ q.initContainers := rfl
@[simp] theorem PodParts.append_env : (p ++ q).env = p.env ++ q.env := rfl

end projections

/-! ### Fixed Parts -/

/-- The mount of a user volume, and the device path of a block volume. -/
def mountPath (name : String) : String := "/mnt/" ++ name

/-- The volumes every VM pod has. -/
def baseParts : PodParts where
  volumes := [{ name := "virtink" }, { name := "hotplug-volumes" }]
  volumeMounts :=
    [ { name := "virtink", mountPath := "/var/run/virtink" },
      { name := "hotplug-volumes", mountPath := "/hotplug-volumes",
        mountPropagation := some "HostToContainer" } ]
  resources := ["devices.virtink.io/kvm", "devices.virtink.io/tun"]

/-- The kernel comes from an init container. -/
def kernelParts (kernel : Kernel) : PodParts :=
  let mount : VolumeMount := { name := "virtink-kernel", mountPath := mountPath "virtink-kernel" }
  { volumes := [{ name := "virtink-kernel" }]
    volumeMounts := [mount]
    initContainers :=
      [{ name := "init-kernel", image := kernel.image, imagePullPolicy := kernel.imagePullPolicy,
         args := [mount.mountPath ++ "/vmlinux"], volumeMounts := [mount] }] }

/-- Hugepages are mounted into the main container. -/
def hugepagesParts : PodParts where
  volumes := [{ name := "hugepages", source := .emptyDir "HugePages" }]
  volumeMounts := [{ name := "hugepages", mountPath := "/dev/hugepages" }]

/-! ### User Volumes -/

/-- The mount of a user volume. -/
def userMount (volume : Volume) : VolumeMount :=
  { name := volume.name, mountPath := mountPath volume.name }

/-- The init container of a user volume, for its own image. -/
def imageInit (volume : Volume) (image pullPolicy : String) (args : List String) : Container :=
  { name := "init-volume-" ++ volume.name, image := image, imagePullPolicy := pullPolicy,
    args := args, volumeMounts := [userMount volume] }

/-- A volume that its init container fills: `containerDisk` and
    `containerRootfs`. -/
def imageParts (volume : Volume) (image pullPolicy : String) (args : List String) : PodParts where
  volumes := [{ name := volume.name }]
  volumeMounts := [userMount volume]
  initContainers := [imageInit volume image pullPolicy args]

/-- The user data of a cloud-init volume: the argument, and the secret it is
    read from. -/
def userData (env : BuildEnv) (s : CloudInitVolumeSource) : String × Option String :=
  if s.userData ≠ "" then (env.base64 s.userData, none)
  else if s.userDataBase64 ≠ "" then (s.userDataBase64, none)
  else if s.userDataSecretName ≠ "" then
    ("/mnt/virtink-cloud-init-user-data/value", some s.userDataSecretName)
  else ("", none)

/-- The network data of a cloud-init volume, in the same way. -/
def networkData (env : BuildEnv) (s : CloudInitVolumeSource) : String × Option String :=
  if s.networkData ≠ "" then (env.base64 s.networkData, none)
  else if s.networkDataBase64 ≠ "" then (s.networkDataBase64, none)
  else if s.networkDataSecretName ≠ "" then
    ("/mnt/virtink-cloud-init-network-data/value", some s.networkDataSecretName)
  else ("", none)

/-- The volume of a secret. -/
def secretVolumes (name : String) (secret : Option String) : List KubeVolume :=
  secret.toList.map (fun s => { name := name, source := .secret s })

/-- The mount of a secret. -/
def secretMounts (name : String) (secret : Option String) : List VolumeMount :=
  secret.toList.map (fun _ => { name := name, mountPath := mountPath name })

/-- The parts of a cloud-init volume. The secret with the user data is mounted
    into the init container, the one with the network data into the main
    container. -/
def cloudInitParts (env : BuildEnv) (vm : VM) (volume : Volume) (s : CloudInitVolumeSource) :
    PodParts :=
  let user := userData env s
  let network := networkData env s
  { volumes :=
      secretVolumes "virtink-cloud-init-user-data" user.2 ++
      secretVolumes "virtink-cloud-init-network-data" network.2 ++ [{ name := volume.name }]
    volumeMounts :=
      secretMounts "virtink-cloud-init-network-data" network.2 ++ [userMount volume]
    initContainers :=
      [{ name := "init-volume-" ++ volume.name
         image := env.prerunnerImageName
         command := ["virt-init-volume"]
         args :=
           ["cloud-init",
            env.base64 ("instance-id: " ++ vm.uid ++ "\nlocal-hostname: " ++ vm.name),
            user.1, network.1, mountPath volume.name ++ "/cloud-init.iso"]
         volumeMounts :=
           secretMounts "virtink-cloud-init-user-data" user.2 ++ [userMount volume] }] }

/-- A claim that is not populated yet: the pod is built anyway when the claim
    of a DataVolume is still missing or pending. -/
def awaitReady (env : BuildEnv) (volume : Volume) : Except Err Unit :=
  match isReady env volume with
  | .error e => .error (.other e)
  | .ok true => .ok ()
  | .ok false =>
      if volume.dataVolume.isSome then
        match getPVC env volume with
        | .error e =>
            .error (.other ("failed to get PVC for DataVolume " ++ volume.name ++ ": " ++ e))
        | .ok none => .ok ()
        | .ok (some pvc) => if pvc.phase ≠ .pending then .error (.requeue 60) else .ok ()
      else .error (.requeue 60)

/-- The parts of a volume on a claim, in block mode or not. -/
def claimParts (volume : Volume) (block : Bool) : PodParts :=
  { blockVolumes := if block then [volume.name] else []
    volumes :=
      if volume.isHotpluggable then []
      else [{ name := volume.name, source := .persistentVolumeClaim volume.pvcName }]
    volumeDevices :=
      if !volume.isHotpluggable && block then
        [{ name := volume.name, devicePath := mountPath volume.name }]
      else []
    volumeMounts :=
      if !volume.isHotpluggable && !block then [userMount volume] else [] }

/-- A pass of the loop over the volumes. -/
def volumeParts (env : BuildEnv) (vm : VM) (volume : Volume) : Except Err PodParts :=
  match volume.containerDisk, volume.cloudInit, volume.containerRootfs with
  | some s, _, _ =>
      .ok (imageParts volume s.image s.imagePullPolicy [mountPath volume.name ++ "/disk.raw"])
  | none, some s, _ => .ok (cloudInitParts env vm volume s)
  | none, none, some s =>
      .ok (imageParts volume s.image s.imagePullPolicy
        [mountPath volume.name ++ "/rootfs.raw", toString s.size.value])
  | none, none, none =>
      if volume.persistentVolumeClaim.isSome || volume.dataVolume.isSome then
        match awaitReady env volume with
        | .error e => .error e
        | .ok () =>
            match isBlock env volume with
            | .error e => .error (.other e)
            | .ok block => .ok (claimParts volume block)
      else .ok {}

/-- The loop over the volumes. -/
def volumesParts (env : BuildEnv) (vm : VM) : List Volume → Except Err PodParts :=
  Loop.collect {} PodParts.append (volumeParts env vm)

/-- The variable that tells the prerunner which volumes are in block mode. -/
def blockParts (blockVolumes : List String) : PodParts where
  env :=
    if blockVolumes = [] then []
    else [{ name := "BLOCK_VOLUMES", value := Text.join ',' blockVolumes }]

/-! ### Networks -/

/-- A privileged init container that sets a kernel parameter. -/
def sysctlInit (env : BuildEnv) (name setting : String) : Container :=
  { name := name
    image := env.prerunnerImageName
    securityContext := some { privileged := true }
    command := ["sysctl", "-w", setting] }

/-- The init containers for the binding method of network `i`. -/
def bindingParts (env : BuildEnv) (i : Nat) (iface : Interface) : PodParts where
  initContainers :=
    (if iface.masquerade.isSome then
      [sysctlInit env "enable-ip-forward" "net.ipv4.ip_forward=1"] else []) ++
    (if iface.bridge then
      [sysctlInit env ("enable-arp-ignore-" ++ toString i) "net.ipv4.conf.all.arp_ignore=1"]
     else [])

/-- The socket of a `kube-ovn` interface. -/
def kubeOvnParts (iface : Interface) (cfg : NADConfig) : PodParts where
  nodeSelector := [("ovn.kubernetes.io/ovs_dp_type", "userspace")]
  annotations := [("ovn-dpdk.default.ovn.kubernetes.io/mac_address", iface.mac)]
  volumes := [{ name := cfg.vhostUserSocketVolumeName }]
  volumeMounts := [{ name := cfg.vhostUserSocketVolumeName, mountPath := "/var/run/vhost-user" }]
  env :=
    [ { name := "VHOST_USER_SOCKET", value := "/var/run/vhost-user/" ++ cfg.vhostUserSocketName },
      { name := "NET_TYPE", value := "kube-ovn" } ]

/-- The sockets of `userspace` interfaces, which share one directory. -/
def userspaceParts : PodParts where
  volumes := [{ name := "vhost-user-sockets", source := .hostPath "/usr/local/var/run/openvswitch/" }]
  volumeMounts := [{ name := "vhost-user-sockets", mountPath := "/var/run/vhost-user" }]
  env :=
    [ { name := "USERSPACE_CONFIGURATION_DATA",
        fieldPath := some "metadata.annotations['userspace/configuration-data']" },
      { name := "NET_TYPE", value := "userspace" } ]

/-- The sockets of a vhost-user interface, after `n` userspace interfaces, and
    the new number of these. -/
def vhostUserParts (nad : NAD) (iface : Interface) (n : Nat) : Except Err (PodParts × Nat) :=
  match nad.config with
  | .error e => .error (.other ("unmarshal NAD config: " ++ e))
  | .ok cfg =>
      if cfg.type = "kube-ovn" then .ok (kubeOvnParts iface cfg, n)
      else if cfg.type = "userspace" then
        .ok (if n + 1 = 1 then userspaceParts else {}, n + 1)
      else .error (.other ("CNI plugin " ++ cfg.type ++ " is not supported for vhost-uesr"))

/-- The request for an attachment by Multus. -/
def multusParts (i : Nat) (iface : Interface) (multus : MultusNetworkSource) (nad : NAD) :
    PodParts where
  networks :=
    [{ name := multus.networkName, interfaceRequest := "net" ++ toString i,
       macRequest := iface.mac }]
  resources := if nad.resourceName ≠ "" then [nad.resourceName] else []
  env :=
    [{ name := "NETWORK_STATUS",
       fieldPath := some "metadata.annotations['k8s.v1.cni.cncf.io/network-status']" }]

/-- A pass of the loop over the networks, after `n` userspace interfaces. -/
def networkParts (env : BuildEnv) (vm : VM) (i n : Nat) (network : Network) :
    Except Err (PodParts × Nat) :=
  match vm.spec.instance_.interfaces.find? (·.name == network.name) with
  | none => .error (.other ("interface not found for network: " ++ network.name))
  | some iface =>
      match network.multus with
      | none => .ok (bindingParts env i iface, n)
      | some multus =>
          match env.nad multus.networkName with
          | .error e => .error (.other ("get NAD: " ++ e))
          | .ok nad =>
              if iface.vhostUser then
                match vhostUserParts nad iface n with
                | .error e => .error e
                | .ok (p, n) => .ok (bindingParts env i iface ++ multusParts i iface multus nad ++ p, n)
              else .ok (bindingParts env i iface ++ multusParts i iface multus nad, n)

/-- The loop over the networks from index `i` on. -/
def networksParts (env : BuildEnv) (vm : VM) : Nat → Nat → List Network → Except Err PodParts
  | _, _, [] => .ok {}
  | i, n, network :: l =>
      match networkParts env vm i n network with
      | .error e => .error e
      | .ok (p, n) =>
          match networksParts env vm (i + 1) n l with
          | .error e => .error e
          | .ok q => .ok (p ++ q)

/-! ### Assembly -/

/-- Set an entry of a map. -/
def setEntry {β : Type} (l : List (String × β)) (k : String) (v : β) : List (String × β) :=
  match l with
  | [] => [(k, v)]
  | (k', v') :: l => if k' = k then (k, v) :: l else (k', v') :: setEntry l k v

/-- One more of a resource. -/
def ResourceList.increment (l : ResourceList) (name : String) : ResourceList :=
  some (setEntry (l.getD []) name (.units ((l.quantity name).value + 1)))

/-- `incrementContainerResource`. -/
def ResourceRequirements.increment (r : ResourceRequirements) (name : String) :
    ResourceRequirements where
  limits := ResourceList.increment r.limits name
  requests := ResourceList.increment r.requests name

/-- The init containers were given the resource maps of the VM, which the main
    container shares unless they were nil. -/
def sharedResources (spec main : ResourceRequirements) : ResourceRequirements where
  limits := if spec.limits.isSome then main.limits else none
  requests := if spec.requests.isSome then main.requests else none

/-- The mounts of sidecar volumes that a file system of the VM uses. -/
def sidecarParts (env : BuildEnv) (vm : VM) : PodParts where
  env := [{ name := "VM_DATA", value := env.vmData vm }]
  volumes := vm.spec.sidecarVolumes
  volumeMounts :=
    (vm.spec.instance_.fileSystems.filter
      (fun fs => vm.spec.sidecarVolumes.any (·.name == fs.name))).map
      (fun fs => { name := fs.name, mountPath := mountPath fs.name })

/-- A pod as `buildVMPod` returns it. -/
structure VMPod where
  labels         : Labels
  annotations    : Option Labels
  nodeSelector   : Option Labels
  tolerations    : List Raw
  affinity       : Option Raw
  initContainers : List Container
  /-- The main container; the sidecars follow it. -/
  main           : Container
  sidecars       : List Container
  volumes        : List KubeVolume
  deriving DecidableEq, Repr

/-- The entries written into a map that may be nil. -/
def setEntries (m : Option Labels) (l : Labels) : Option Labels :=
  l.foldl (fun m e => some (setEntry (m.getD []) e.1 e.2)) m

/-- The pod with these parts. -/
def assemble (env : BuildEnv) (vm : VM) (parts : PodParts) : VMPod :=
  let resources := parts.resources.foldl ResourceRequirements.increment vm.spec.resources
  { labels := setEntry (vm.labels.getD []) "virtink.io/vm.name" vm.name
    annotations := setEntries vm.annotations (parts.annotations ++
      if parts.networks = [] then []
      else [("k8s.v1.cni.cncf.io/networks", env.networksJSON parts.networks)])
    nodeSelector := setEntries vm.spec.nodeSelector parts.nodeSelector
    tolerations := vm.spec.tolerations
    affinity := vm.spec.affinity
    initContainers := parts.initContainers.map
      (fun c => { c with resources := sharedResources vm.spec.resources resources })
    main :=
      { name := "cloud-hypervisor"
        image := env.prerunnerImageName
        resources := resources
        livenessProbe := vm.spec.livenessProbe
        readinessProbe := vm.spec.readinessProbe
        securityContext := some { capabilities := ["SYS_ADMIN", "NET_ADMIN", "SYS_RESOURCE"] }
        volumeMounts := parts.volumeMounts
        volumeDevices := parts.volumeDevices
        env := parts.env }
    sidecars := vm.spec.sidecars
    volumes := parts.volumes }

/-- The parts that depend on the instance only. -/
def instanceParts (i : Instance) : PodParts :=
  baseParts ++ (i.kernel.map kernelParts).getD {} ++
    if i.memory.hugepages.isSome then hugepagesParts else {}

/-- All parts of the pod, from what the two loops have collected. -/
def podParts (env : BuildEnv) (vm : VM) (volumes networks : PodParts) : PodParts :=
  instanceParts vm.spec.instance_ ++ volumes ++ blockParts volumes.blockVolumes ++ networks ++
    sidecarParts env vm

/-- `buildVMPod`. -/
def buildVMPod (env : BuildEnv) (vm : VM) : Except Err VMPod :=
  match volumesParts env vm vm.spec.volumes with
  | .error e => .error e
  | .ok volumes =>
      match networksParts env vm 0 0 vm.spec.networks with
      | .error e => .error e
      | .ok networks => .ok (assemble env vm (podParts env vm volumes networks))

/-- A pod is built iff both loops go through. -/
theorem buildVMPod_eq_ok {env : BuildEnv} {vm : VM} {pod : VMPod} :
    buildVMPod env vm = .ok pod ↔
      ∃ volumes networks, volumesParts env vm vm.spec.volumes = .ok volumes ∧
        networksParts env vm 0 0 vm.spec.networks = .ok networks ∧
        assemble env vm (podParts env vm volumes networks) = pod := by
  simp only [buildVMPod]
  split
  · next e he => simp [he]
  · next volumes hvolumes =>
    split
    · next e he => simp [he]
    · next networks hnetworks => simp [hvolumes, hnetworks]

end Virtink
