import Mathlib.Algebra.Group.Int.Defs
import Mathlib.Algebra.Group.Nat.Defs

/-! # The API Types

    The `v1alpha1` objects as far as the reconcilers read or write them. A Go
    string type with named constants is an enumeration here, with `empty` for
    the zero value `""`; a Go pointer is an `Option`; names and UIDs stay
    strings, and `""` still means "not set".

    All objects live in the namespace of the one virtual machine that is
    modelled, so namespaces are left out.
-/

namespace Virtink

/-- `types.UID`. -/
abbrev UID := String

/-- Labels, annotations and node selectors: a map as the list of its entries. -/
abbrev Labels := List (String × String)

/-! ### Quantities -/

/-- `resource.Quantity`, counted in billionths, the finest it can express. -/
structure Quantity where
  nano : Int := 0
  deriving DecidableEq, Repr

namespace Quantity

/-- So many whole units. -/
def units (n : Int) : Quantity := ⟨n * 1000000000⟩

/-- `IsZero`. -/
def isZero (q : Quantity) : Bool := q.nano == 0

/-- `Value`: whole units, rounded away from zero. -/
def value (q : Quantity) : Int :=
  if 0 ≤ q.nano then (q.nano + 999999999) / 1000000000
  else -((-q.nano + 999999999) / 1000000000)

/-- `Add`. -/
def add (q r : Quantity) : Quantity := ⟨q.nano + r.nano⟩

end Quantity

/-- `corev1.ResourceList`; `none` is the nil map. -/
abbrev ResourceList := Option (List (String × Quantity))

/-- A lookup that yields the zero quantity where there is no entry, as the
    methods `Cpu` and `Memory` do. -/
def ResourceList.quantity (l : ResourceList) (name : String) : Quantity :=
  (l.bind (·.lookup name)).getD {}

/-- `corev1.ResourceRequirements`. -/
structure ResourceRequirements where
  limits   : ResourceList := none
  requests : ResourceList := none
  deriving DecidableEq, Repr

/-! ### Core Types -/

/-- A value of a core type that no modelled function looks into, as its JSON
    text. -/
structure Raw where
  json : String
  deriving DecidableEq, Repr

/-- `corev1.VolumeSource`, as far as it is told apart. -/
inductive KubeVolumeSource where
  | emptyDir (medium : String)
  | secret (secretName : String)
  | persistentVolumeClaim (claimName : String)
  | hostPath (path : String)
  | other (source : Raw)
  deriving DecidableEq, Repr

/-- `corev1.Volume`. -/
structure KubeVolume where
  name   : String
  source : KubeVolumeSource := .emptyDir ""
  deriving DecidableEq, Repr

/-- `corev1.VolumeMount`. -/
structure VolumeMount where
  name             : String
  mountPath        : String
  mountPropagation : Option String := none
  deriving DecidableEq, Repr

/-- `corev1.VolumeDevice`. -/
structure VolumeDevice where
  name       : String
  devicePath : String
  deriving DecidableEq, Repr

/-- `corev1.EnvVar`: a value, or a field of the pod itself. -/
structure EnvVar where
  name      : String
  value     : String := ""
  fieldPath : Option String := none
  deriving DecidableEq, Repr

/-- `corev1.SecurityContext`, as far as it is set. -/
structure SecurityContext where
  privileged   : Bool := false
  capabilities : List String := []
  deriving DecidableEq, Repr

/-- `corev1.Container`; `other` is what only a sidecar can have. -/
structure Container where
  name            : String
  image           : String := ""
  imagePullPolicy : String := ""
  command         : List String := []
  args            : List String := []
  env             : List EnvVar := []
  resources       : ResourceRequirements := {}
  volumeMounts    : List VolumeMount := []
  volumeDevices   : List VolumeDevice := []
  livenessProbe   : Option Raw := none
  readinessProbe  : Option Raw := none
  securityContext : Option SecurityContext := none
  other           : Option Raw := none
  deriving DecidableEq, Repr

/-! ### Spec -/

/-- `RunPolicy`. -/
inductive RunPolicy where
  | empty | always | rerunOnFailure | once | manual | halted
  deriving DecidableEq, Repr

/-- `CPU`. -/
structure CPU where
  sockets               : UInt32 := 0
  coresPerSocket        : UInt32 := 0
  dedicatedCPUPlacement : Bool := false
  deriving DecidableEq, Repr

/-- The page sizes that the schema allows for `Hugepages.PageSize`. -/
inductive PageSize where
  | twoMi | oneGi
  deriving DecidableEq, Repr

/-- `Hugepages`. -/
structure Hugepages where
  pageSize : PageSize := .oneGi
  deriving DecidableEq, Repr

/-- `Memory`. -/
structure Memory where
  size      : Quantity := {}
  hugepages : Option Hugepages := none
  deriving DecidableEq, Repr

/-- `Kernel`. -/
structure Kernel where
  image           : String
  imagePullPolicy : String := ""
  cmdline         : String
  deriving DecidableEq, Repr

/-- `Console`. -/
structure Console where
  mode   : String := ""
  file   : String := ""
  socket : String := ""
  iommu  : Bool := false
  deriving DecidableEq, Repr

/-- `Disk`. -/
structure Disk where
  name     : String
  readOnly : Option Bool := none
  deriving DecidableEq, Repr

/-- `InterfaceMasquerade`. -/
structure InterfaceMasquerade where
  cidr : String := ""
  deriving DecidableEq, Repr

/-- `InterfaceVDPA`. -/
structure InterfaceVDPA where
  numQueues : Int := 0
  iommu     : Bool := false
  deriving DecidableEq, Repr

/-- `Interface` with its inlined `InterfaceBindingMethod`; where the binding
    method has no fields of its own, a flag says that its pointer is set. -/
structure Interface where
  name       : String
  mac        : String := ""
  bridge     : Bool := false
  masquerade : Option InterfaceMasquerade := none
  sriov      : Bool := false
  vdpa       : Option InterfaceVDPA := none
  vhostUser  : Bool := false
  deriving DecidableEq, Repr

/-- `MultusNetworkSource`. -/
structure MultusNetworkSource where
  networkName : String
  deriving DecidableEq, Repr

/-- `Network`; the flag says that `NetworkSource.Pod` is set. -/
structure Network where
  name   : String
  pod    : Bool := false
  multus : Option MultusNetworkSource := none
  deriving DecidableEq, Repr

/-- `FileSystem`. -/
structure FileSystem where
  name : String
  deriving DecidableEq, Repr

/-- `Instance`. -/
structure Instance where
  cpu         : CPU := {}
  memory      : Memory := {}
  kernel      : Option Kernel := none
  console     : Option Console := none
  serial      : Option Console := none
  disks       : List Disk := []
  fileSystems : List FileSystem := []
  interfaces  : List Interface := []
  deriving DecidableEq, Repr

/-- `ContainerDiskVolumeSource`. -/
structure ContainerDiskVolumeSource where
  image           : String
  imagePullPolicy : String := ""
  deriving DecidableEq, Repr

/-- `CloudInitVolumeSource`. -/
structure CloudInitVolumeSource where
  userData              : String := ""
  userDataBase64        : String := ""
  userDataSecretName    : String := ""
  networkData           : String := ""
  networkDataBase64     : String := ""
  networkDataSecretName : String := ""
  deriving DecidableEq, Repr

/-- `ContainerRootfsVolumeSource`. -/
structure ContainerRootfsVolumeSource where
  image           : String
  imagePullPolicy : String := ""
  size            : Quantity
  deriving DecidableEq, Repr

/-- `PersistentVolumeClaimVolumeSource`. -/
structure PersistentVolumeClaimVolumeSource where
  hotpluggable : Bool := false
  claimName    : String
  deriving DecidableEq, Repr

/-- `DataVolumeVolumeSource`. -/
structure DataVolumeVolumeSource where
  hotpluggable : Bool := false
  volumeName   : String
  deriving DecidableEq, Repr

/-- `Volume` with its inlined `VolumeSource`. -/
structure Volume where
  name                  : String
  containerDisk         : Option ContainerDiskVolumeSource := none
  cloudInit             : Option CloudInitVolumeSource := none
  containerRootfs       : Option ContainerRootfsVolumeSource := none
  persistentVolumeClaim : Option PersistentVolumeClaimVolumeSource := none
  dataVolume            : Option DataVolumeVolumeSource := none
  deriving DecidableEq, Repr

/-- `Volume.IsHotpluggable`. -/
def Volume.isHotpluggable (v : Volume) : Bool :=
  v.persistentVolumeClaim.any (·.hotpluggable) || v.dataVolume.any (·.hotpluggable)

/-- `Volume.PVCName`. -/
def Volume.pvcName (v : Volume) : String :=
  match v.persistentVolumeClaim, v.dataVolume with
  | some pvc, _ => pvc.claimName
  | none, some dv => dv.volumeName
  | none, none => ""

/-- `VirtualMachineSpec`. -/
structure VMSpec where
  nodeSelector   : Option Labels := none
  affinity       : Option Raw := none
  tolerations    : List Raw := []
  resources      : ResourceRequirements := {}
  livenessProbe  : Option Raw := none
  readinessProbe : Option Raw := none
  runPolicy      : RunPolicy := .empty
  instance_      : Instance := {}
  volumes        : List Volume := []
  networks       : List Network := []
  sidecars       : List Container := []
  sidecarVolumes : List KubeVolume := []
  deriving DecidableEq, Repr

/-! ### Status -/

/-- `VirtualMachinePhase`. -/
inductive VMPhase where
  | empty | pending | scheduling | scheduled | running | succeeded | failed | unknown
  deriving DecidableEq, Repr

/-- `VirtualMachinePowerAction`. -/
inductive PowerAction where
  | empty | powerOn | powerOff | shutdown | reset | reboot | pause | resume
  deriving DecidableEq, Repr

/-- `VirtualMachineMigrationPhase`. -/
inductive MigrationPhase where
  | empty | pending | scheduling | scheduled | targetReady | running | sent | succeeded | failed
  deriving DecidableEq, Repr

/-- The migration has ended. -/
def MigrationPhase.terminal : MigrationPhase → Bool
  | .succeeded | .failed => true
  | _ => false

/-- The order of the phases; the two terminal ones share the top. -/
def MigrationPhase.rank : MigrationPhase → Nat
  | .empty => 0
  | .pending => 1
  | .scheduling => 2
  | .scheduled => 3
  | .targetReady => 4
  | .running => 5
  | .sent => 6
  | .succeeded => 7
  | .failed => 7

/-- `VirtualMachineStatusMigration`: the migration record in the VM status. -/
structure Migration where
  uid                : UID := ""
  phase              : MigrationPhase := .empty
  targetNodeName     : String := ""
  targetNodeIP       : String := ""
  targetNodePort     : Nat := 0
  targetVMPodName    : String := ""
  targetVMPodUID     : UID := ""
  targetVolumePodUID : UID := ""
  deriving DecidableEq, Repr

/-- `metav1.ConditionStatus`. -/
inductive ConditionStatus where
  | true | false | unknown
  deriving DecidableEq, Repr

/-- The text of a condition status. -/
def ConditionStatus.text : ConditionStatus → String
  | .true => "True"
  | .false => "False"
  | .unknown => "Unknown"

/-- `metav1.Condition` without its transition time. -/
structure Condition where
  type    : String
  status  : ConditionStatus
  reason  : String
  message : String := ""
  deriving DecidableEq, Repr

/-- `VolumePhase`. -/
inductive VolumePhase where
  | empty | pending | attachedToNode | mountedToPod | ready | detaching
  deriving DecidableEq, Repr

/-- `HotplugVolumeStatus`. -/
structure HotplugVolumeStatus where
  volumePodName : String := ""
  volumePodUID  : UID := ""
  deriving DecidableEq, Repr

/-- `VolumeStatus`. -/
structure VolumeStatus where
  name          : String
  phase         : VolumePhase := .empty
  hotplugVolume : Option HotplugVolumeStatus := none
  deriving DecidableEq, Repr

/-- `VirtualMachineStatus`. -/
structure VMStatus where
  phase        : VMPhase := .empty
  vmPodName    : String := ""
  vmPodUID     : UID := ""
  nodeName     : String := ""
  powerAction  : PowerAction := .empty
  migration    : Option Migration := none
  conditions   : List Condition := []
  volumeStatus : List VolumeStatus := []
  deriving DecidableEq, Repr

/-! ### Objects -/

/-- The kinds of object that control another, as far as they are told apart. -/
inductive OwnerKind where
  | virtualMachine | virtualMachineReplicaSet | pod | other
  deriving DecidableEq, Repr

/-- The controller reference of an object. -/
structure OwnerRef where
  kind : OwnerKind
  uid  : UID
  deriving DecidableEq, Repr

/-- The controller reference of a VM; replica sets are also looked up by the
    name in it. -/
structure ControllerRef where
  kind : OwnerKind
  name : String
  uid  : UID
  deriving DecidableEq, Repr

/-- `VirtualMachine`; `resourceVersion` changes with every write. -/
structure VM where
  name              : String
  uid               : UID
  resourceVersion   : Nat := 0
  labels            : Option Labels := none
  annotations       : Option Labels := none
  controller        : Option ControllerRef := none
  creationTimestamp : Nat := 0
  deletionTimestamp : Option Nat := none
  finalizers        : List String := []
  spec              : VMSpec := {}
  status            : VMStatus := {}
  deriving DecidableEq, Repr

/-- `VirtualMachineMigrationStatus`. -/
structure VMMStatus where
  phase          : MigrationPhase := .empty
  sourceNodeName : String := ""
  targetNodeName : String := ""
  deriving DecidableEq, Repr

/-- `VirtualMachineMigration` of the modelled VM. -/
structure VMM where
  uid               : UID
  resourceVersion   : Nat := 0
  deletionTimestamp : Option Nat := none
  status            : VMMStatus := {}
  deriving DecidableEq, Repr

/-! ### Pods -/

/-- `corev1.PodPhase`. -/
inductive PodPhase where
  | empty | pending | running | succeeded | failed | unknown
  deriving DecidableEq, Repr

/-- `corev1.Volume`: the name, and the claim of a PVC volume. -/
structure PodVolume where
  name  : String
  claim : Option String := none
  deriving DecidableEq, Repr

/-- A mount (or a block device) of the first container: volume and path. -/
structure PodMount where
  name : String
  path : String
  deriving DecidableEq, Repr

/-- A pod as it is handed to `Create`: the name is chosen by the caller, or
    `generateName` is set and the server chooses it. -/
structure PodTemplate where
  name          : String := ""
  generateName  : String := ""
  controller    : Option OwnerRef := none
  volumes       : List PodVolume := []
  volumeMounts  : List PodMount := []
  volumeDevices : List PodMount := []
  deriving DecidableEq, Repr

/-- `corev1.Pod`. A running pod is bound to a node. -/
structure Pod where
  name              : String
  uid               : UID
  controller        : Option OwnerRef := none
  creationTimestamp : Nat := 0
  deletionTimestamp : Option Nat := none
  nodeName          : String := ""
  volumes           : List PodVolume := []
  phase             : PodPhase := .empty
  conditions        : List Condition := []
  bound             : phase = .running → nodeName ≠ "" := by decide
  deriving DecidableEq

/-- A pod that does not run need not be on a node. -/
theorem PodPhase.empty_unbound {nodeName : String} :
    PodPhase.empty = .running → nodeName ≠ "" := by
  intro h
  cases h

/-- `metav1.IsControlledBy(pod, vm)`. -/
def Pod.isControlledBy (p : Pod) (vm : VM) : Bool :=
  p.controller.any (·.uid == vm.uid)

/-- The field index `vmUID` of the controller: the UID of the virtual machine
    that controls the pod. -/
def Pod.vmUID (p : Pod) : Option UID :=
  match p.controller with
  | some r => if r.kind = .virtualMachine then some r.uid else none
  | none => none

end Virtink
