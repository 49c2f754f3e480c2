import Virtink.Admission.Field

/-! # The Validating Webhook of Virtual Machines

    `ValidateVM` and the functions it calls, with the field path and the text
    of every error. The nil checks at the top of the Go functions are about
    pointers that are never nil and are left out.

    What the Go libraries compute is a parameter (`Library`): every result
    holds for all parsers of MAC addresses and CIDRs.
-/

namespace Virtink

open FieldPath

/-! ### Library Functions -/

/-- The mask of a parsed CIDR: the length of its prefix and of an address. -/
structure Mask where
  ones : Nat
  bits : Nat
  deriving DecidableEq, Repr

/-- Functions of the Go libraries that validation calls. -/
structure Library where
  /-- `net.ParseMAC`: the text of the error, if any. -/
  parseMAC : String → Option String
  /-- `net.ParseCIDR`, as far as the mask of the subnet goes. -/
  parseCIDR : String → Except String Mask
  /-- `Quantity.String`. -/
  quantityString : Quantity → String

/-- `1 << k` in 64 bits. -/
def shiftLeftOne (k : Nat) : Int :=
  if k < 63 then 2 ^ k else if k = 63 then -(2 ^ 63) else 0

/-- The text of a page size. -/
def PageSize.text : PageSize → String
  | .twoMi => "2Mi"
  | .oneGi => "1Gi"

/-- The bytes of a page. -/
def PageSize.bytes : PageSize → Int
  | .twoMi => 2097152
  | .oneGi => 1073741824

/-- `memoryOverhead`. -/
def memoryOverhead : Quantity := .units 268435456

section validation
variable (lib : Library)

/-! ### Instance -/

/-- `ValidateCPU`; both counts are unsigned, so `<= 0` is `== 0`. -/
def validateCPU (cpu : CPU) (path : String) : List FieldError :=
  check (cpu.sockets == 0) { type := .required, field := child path "sockets" } ++
  check (cpu.coresPerSocket == 0) { type := .required, field := child path "coresPerSocket" }

/-- `ValidateMemory`. -/
def validateMemory (memory : Memory) (path : String) : List FieldError :=
  let memSize := memory.size.value
  check (decide (memSize ≤ 0))
    { type := .invalid, field := child path "size", badValue := toString memSize,
      detail := "must be greater than 0" } ++
  match memory.hugepages with
  | none => []
  | some hugepages =>
      check (decide (memSize.tmod hugepages.pageSize.bytes ≠ 0))
        { type := .invalid, field := child path "size", badValue := toString memSize,
          detail := toString memSize ++ " is not positive integer multiple of " ++
            hugepages.pageSize.text }

/-- `ValidateKernel`. -/
def validateKernel (kernel : Kernel) (path : String) : List FieldError :=
  requireText (child path "image") kernel.image ++
  requireText (child path "cmdline") kernel.cmdline

/-- `ValidateDisk`. -/
def validateDisk (disk : Disk) (path : String) : List FieldError :=
  requireText (child path "name") disk.name

/-- `ValidateFileSystem`. -/
def validateFileSystem (fs : FileSystem) (path : String) : List FieldError :=
  requireText (child path "name") fs.name

/-- `ValidateMAC`; an empty text is reported twice. -/
def validateMAC (mac path : String) : List FieldError :=
  requireText path mac ++
  match lib.parseMAC mac with
  | none => []
  | some e => [{ type := .invalid, field := path, badValue := mac, detail := e }]

/-- `ValidateCIDR`. -/
def validateCIDR (cidr : String) (capacity : Int) (path : String) : List FieldError :=
  if cidr = "" then [{ type := .required, field := path }]
  else
    match lib.parseCIDR cidr with
    | .error e =>
        [{ type := .invalid, field := path, badValue := cidr, detail := e },
         { type := .invalid, field := path, badValue := cidr, detail := "must specify subnet" }]
    | .ok mask =>
        check (decide (shiftLeftOne (mask.bits - mask.ones) < capacity))
          { type := .invalid, field := path, badValue := cidr,
            detail := "must contain at least " ++ toString capacity ++ " IPs" }

/-- `ValidateInterfaceBindingMethod`. -/
def validateInterfaceBindingMethod (iface : Interface) (path : String) : List FieldError :=
  exactlyOne "binding method" path
    [ { set := iface.bridge, name := "bridge" },
      { set := iface.masquerade.isSome, name := "masquerade",
        errs := validateCIDR lib ((iface.masquerade.map (·.cidr)).getD "") 4
          (child (child path "masquerade") "cidr") },
      { set := iface.sriov, name := "sriov" },
      { set := iface.vdpa.isSome, name := "vdpa" },
      { set := iface.vhostUser, name := "vhostUser" } ]

/-- `ValidateInterface`. -/
def validateInterface (iface : Interface) (path : String) : List FieldError :=
  requireText (child path "name") iface.name ++
  validateMAC lib iface.mac (child path "mac") ++
  validateInterfaceBindingMethod lib iface path

/-- `ValidateInstance`; disks and file systems share one set of names. -/
def validateInstance (i : Instance) (path : String) : List FieldError :=
  validateCPU i.cpu (child path "cpu") ++
  validateMemory i.memory (child path "memory") ++
  ((i.kernel.map (validateKernel · (child path "kernel"))).getD []) ++
  validateNamed Disk.name validateDisk (child path "disks") [] 0 i.disks ++
  validateNamed FileSystem.name validateFileSystem (child path "fileSystems")
    (i.disks.map (·.name)) 0 i.fileSystems ++
  validateNamed Interface.name
    (fun iface path =>
      check (iface.vhostUser && (!i.cpu.dedicatedCPUPlacement || i.memory.hugepages.isNone))
        { type := .forbidden, field := child path "vhostUser",
          detail := "may not use vhost-user interface without dedicated CPU placement and hugepages" } ++
      validateInterface lib iface path)
    (child path "interfaces") [] 0 i.interfaces

/-! ### Volumes and Networks -/

/-- `ValidateContainerDiskVolumeSource`. -/
def validateContainerDiskVolumeSource (source : ContainerDiskVolumeSource) (path : String) :
    List FieldError :=
  requireText (child path "image") source.image

/-- `ValidateCloudInitVolumeSource`. -/
def validateCloudInitVolumeSource (source : CloudInitVolumeSource) (path : String) :
    List FieldError :=
  atMostOne "user data" path 0
    [ { set := source.userData != "", name := "userData" },
      { set := source.userDataBase64 != "", name := "userDataBase64" },
      { set := source.userDataSecretName != "", name := "userDataSecretName" } ] ++
  atMostOne "network data" path 0
    [ { set := source.networkData != "", name := "networkData" },
      { set := source.networkDataBase64 != "", name := "networkDataBase64" },
      { set := source.networkDataSecretName != "", name := "networkDataSecretName" } ]

/-- `ValidateContainerRootfsVolumeSource`. -/
def validateContainerRootfsVolumeSource (source : ContainerRootfsVolumeSource) (path : String) :
    List FieldError :=
  requireText (child path "image") source.image ++
  check (decide (source.size.value ≤ 0))
    { type := .invalid, field := child path "size", badValue := toString source.size.value,
      detail := "must be greater than 0" }

/-- `ValidatePersistentVolumeClaimSource`. -/
def validatePersistentVolumeClaimSource (source : PersistentVolumeClaimVolumeSource)
    (path : String) : List FieldError :=
  requireText (child path "claimName") source.claimName

/-- `ValidateDataVolumeSource`. -/
def validateDataVolumeSource (source : DataVolumeVolumeSource) (path : String) :
    List FieldError :=
  requireText (child path "volumeName") source.volumeName

/-- A source of a volume as a field of its group. -/
def sourceChoice {α : Type} (source : Option α) (name path : String)
    (validate : α → String → List FieldError) : FieldChoice where
  set := source.isSome
  name := name
  errs := (source.map (validate · (child path name))).getD []

/-- `ValidateVolumeSource`. -/
def validateVolumeSource (volume : Volume) (path : String) : List FieldError :=
  exactlyOne "volume source" path
    [ sourceChoice volume.containerDisk "containerDisk" path validateContainerDiskVolumeSource,
      sourceChoice volume.cloudInit "cloudInit" path validateCloudInitVolumeSource,
      sourceChoice volume.containerRootfs "containerRootfs" path
        validateContainerRootfsVolumeSource,
      sourceChoice volume.persistentVolumeClaim "persistentVolumeClaim" path
        validatePersistentVolumeClaimSource,
      sourceChoice volume.dataVolume "dataVolume" path validateDataVolumeSource ]

/-- `ValidateVolume`. -/
def validateVolume (volume : Volume) (path : String) : List FieldError :=
  requireText (child path "name") volume.name ++ validateVolumeSource volume path

/-- `ValidateNetwork` with `ValidateNetworkSource`; a pod network has nothing
    to validate. -/
def validateNetwork (network : Network) (path : String) : List FieldError :=
  requireText (child path "name") network.name ++
  exactlyOne "network source" path
    [ { set := network.pod, name := "pod" },
      sourceChoice network.multus "multus" path
        (fun source path => requireText (child path "networkName") source.networkName) ]

/-! ### Resources -/

/-- A resource of a VM with dedicated CPUs: the request is required and meets
    `bad`, and the limit is required and equals the request. -/
def validatePinned (spec : VMSpec) (path resource what : String) (bad : Quantity → Bool)
    (detail : String) : List FieldError :=
  let request := spec.resources.requests.quantity resource
  let limit := spec.resources.limits.quantity resource
  let requestField := child (child path "resources.requests") resource
  let limitField := child (child path "resources.limits") resource
  (if request.isZero then [{ type := .required, field := requestField }]
   else check (bad request)
     { type := .invalid, field := requestField, badValue := lib.quantityString request,
       detail := detail }) ++
  (if limit.isZero then [{ type := .required, field := limitField }]
   else check (limit != request)
     { type := .invalid, field := limitField, badValue := lib.quantityString limit,
       detail := "must equal to " ++ what ++ " request" })

/-- The memory that a VM with dedicated CPUs has to request. -/
def requiredMemory (memory : Memory) : Quantity :=
  if memory.hugepages.isNone then memoryOverhead.add memory.size else memoryOverhead

/-- The part of `ValidateVMSpec` about dedicated CPUs. -/
def validateDedicated (spec : VMSpec) (path : String) : List FieldError :=
  let memRequired := requiredMemory spec.instance_.memory
  validatePinned lib spec path "cpu" "CPU"
    (fun request => decide (request.value ≠
      ((spec.instance_.cpu.sockets * spec.instance_.cpu.coresPerSocket).toNat : Int)))
    "must equal to number of vCPUs" ++
  validatePinned lib spec path "memory" "memory"
    (fun request => decide (request.nano < memRequired.nano))
    ("must not be less than " ++ lib.quantityString memRequired)

/-- The part of `ValidateVMSpec` about hugepages. -/
def validateHugepages (spec : VMSpec) (hugepages : Hugepages) (path : String) :
    List FieldError :=
  let resourcesField := child path "resources"
  let name := "hugepages-" ++ hugepages.pageSize.text
  let request := spec.resources.requests.bind (·.lookup name)
  let limit := spec.resources.limits.bind (·.lookup name)
  let requestField := child (child resourcesField "requests") name
  let limitField := child (child resourcesField "limits") name
  check ((spec.resources.limits.quantity "cpu").isZero &&
      (spec.resources.limits.quantity "memory").isZero &&
      (spec.resources.requests.quantity "cpu").isZero &&
      (spec.resources.requests.quantity "memory").isZero)
    { type := .forbidden, field := resourcesField, detail := "hugepages require cpu or memory" } ++
  (match request with
   | none => [{ type := .required, field := requestField }]
   | some q => check (q != spec.instance_.memory.size)
       { type := .invalid, field := requestField, badValue := lib.quantityString q,
         detail := "must equal to instance memory size" }) ++
  (match limit with
   | none => [{ type := .required, field := limitField }]
   | some q => check (q != request.getD {})
       { type := .invalid, field := limitField, badValue := lib.quantityString q,
         detail := "must equal to hugepages request" })

/-! ### The Webhook -/

/-- `ValidateVMSpec`. -/
def validateVMSpec (spec : VMSpec) (path : String) : List FieldError :=
  (if spec.instance_.cpu.dedicatedCPUPlacement then validateDedicated lib spec path else []) ++
  ((spec.instance_.memory.hugepages.map (validateHugepages lib spec · path)).getD []) ++
  validateInstance lib spec.instance_ (child path "instance") ++
  validateNamed Volume.name validateVolume (child path "volumes") [] 0 spec.volumes ++
  validateNamed Network.name validateNetwork (child path "networks") [] 0 spec.networks

/-- The volume of that name that the loops of `ValidateVMUpdate` find. -/
def findVolume (volumes : List Volume) (name : String) : Option Volume :=
  volumes.find? (·.name == name)

/-- The old spec with everything that may change taken from the new one. -/
def VMSpec.carryOver (old new : VMSpec) : VMSpec :=
  { old with
    runPolicy := new.runPolicy
    volumes := new.volumes
    instance_ := { old.instance_ with disks := new.instance_.disks } }

/-- `ValidateVMUpdate`. -/
def validateVMUpdate (new old : VMSpec) : List FieldError :=
  check (old.carryOver new != new)
    { type := .forbidden, field := "spec",
      detail := "VM spec may not be updated except runPolicy, volumes, instance.disks" } ++
  old.volumes.flatMap (fun oldVolume =>
    match findVolume new.volumes oldVolume.name with
    | some newVolume =>
        check (oldVolume != newVolume)
          { type := .forbidden, field := key (child "spec" "volumes") oldVolume.name,
            detail := "VM volume may not be updated" }
    | none =>
        check (!oldVolume.isHotpluggable)
          { type := .forbidden, field := key (child "spec" "volumes") oldVolume.name,
            detail := "Unhotpluggable volume may not be hotunplugged" }) ++
  new.volumes.flatMap (fun newVolume =>
    match findVolume old.volumes newVolume.name with
    | some _ => []
    | none =>
        check (!newVolume.isHotpluggable)
          { type := .forbidden, field := key (child "spec" "volumes") newVolume.name,
            detail := "Unhotpluggable volume may not be hotplugged" })

/-- `ValidateVM`. -/
def validateVM (vm : VM) (oldVM : Option VM) : List FieldError :=
  validateVMSpec lib vm.spec "spec" ++
  (oldVM.map (fun old => validateVMUpdate vm.spec old.spec)).getD []

end validation

end Virtink
