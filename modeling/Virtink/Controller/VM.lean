import Virtink.Controller.Hotplug

/-! # The VM Controller

    `Reconcile` reads the VM, runs `reconcile` on it, writes the status back
    and deletes the VM pods the status does not name. `reconcile` returns the
    VM as it has changed it in memory, with the error.

    The comparison of the status before and after compares a value with a
    pointer and never finds them equal, so the status is written every time,
    also when `reconcile` has failed.
-/

namespace Virtink

open Calls

/-! ### Conditions -/

/-- `meta.SetStatusCondition`: the condition of that type is replaced, or a new
    one appended. -/
def setStatusCondition (c : Condition) : List Condition → List Condition
  | [] => [c]
  | d :: l => if d.type = c.type then c :: l else d :: setStatusCondition c l

/-- The Ready condition of the VM from the one of its pod. -/
def readyCondition (c : Condition) : Condition :=
  { type := "Ready"
    status := c.status
    reason := if c.reason = "" then c.status.text else c.reason
    message := c.message }

/-- The Migratable condition that says no. -/
def notMigratable (reason message : String) : Condition :=
  { type := "Migratable", status := .false, reason := reason, message := message }

/-- The verdict on an interface of a network. -/
def interfaceVerdict (network : Network) (iface : Interface) : Option Condition :=
  if iface.name ≠ network.name then none
  else if network.pod && iface.bridge then
    some (notMigratable "InterfaceNotMigratable"
      "migration is disabled when VM has a bridged interface to the pod network")
  else if iface.sriov then
    some (notMigratable "InterfaceNotMigratable"
      "migration is disabled when VM has a SR-IOV interface")
  else if iface.vhostUser then
    some (notMigratable "InterfaceNotMigratable"
      "migration is disable when VM has a vhost-user interface")
  else none

/-- The verdict on a volume. -/
def volumeVerdict (volume : Volume) : Option Condition :=
  if volume.containerRootfs.isSome then
    some (notMigratable "VolumeNotMigratable"
      "migration is disabled when VM has a containerRootfs volume")
  else if volume.containerDisk.isSome then
    some (notMigratable "VolumeNotMigratable"
      "migration is disabled when VM has a containerDisk volume")
  else none

/-- `calculateMigratableCondition`. -/
def calculateMigratableCondition (vm : VM) : Condition :=
  if vm.spec.instance_.cpu.dedicatedCPUPlacement then
    notMigratable "CPUNotMigratable"
      "migration is disabled when VM has enabled dedicated CPU placement"
  else
    let interfaces := vm.spec.networks.findSome? (fun network =>
      vm.spec.instance_.interfaces.findSome? (interfaceVerdict network))
    let volumes := vm.spec.volumes.findSome? volumeVerdict
    match interfaces, volumes with
    | some c, _ => c
    | none, some c => c
    | none, none =>
        if vm.spec.instance_.fileSystems ≠ [] then
          notMigratable "FileSystemNotMigratable"
            "migration is disabled when VM has a fileSystem"
        else { type := "Migratable", status := .true, reason := "Migratable" }

/-- `reconcileVMConditions`. -/
def reconcileVMConditions (vm : VM) (vmPod : Pod) : VM :=
  let conditions := vmPod.conditions.foldl (fun l c =>
    if c.type = "Ready" then setStatusCondition (readyCondition c) l else l)
    vm.status.conditions
  { vm with status := { vm.status with
      conditions :=
        if conditions.any (·.type == "Migratable") then conditions
        else setStatusCondition (calculateMigratableCondition vm) conditions } }

namespace VMController

/-! ### VM Pods -/

/-- `VMProtectionFinalizer`. -/
def VMProtectionFinalizer : String := "virtink.io/vm-protection"

/-- The pod of that name, if there is one and the VM controls it. For the
    target pod the source notes "not found" in the wrong variable, but an
    empty pod is not controlled by the VM either. -/
def getVMPod (vm : VM) (name what : String) : Call (Except Err (Option Pod)) := do
  match ← ask (.getPod name) with
  | .error .notFound => pure (.ok none)
  | .error e => pure (.error (.other ("get " ++ what ++ ": " ++ e.text)))
  | .ok p => pure (.ok (if p.isControlledBy vm then some p else none))

/-- Name the pod, set its controller and create it. -/
def createVMPod (vm : VM) (name what : String) (t : PodTemplate) : Call (Option Err) := do
  match setControllerReference ⟨.virtualMachine, vm.uid⟩ { t with name := name } with
  | .error e => pure (some (.other ("set " ++ what ++ " controller reference: " ++ e)))
  | .ok t =>
      match ← ask (.createPod t) with
      | .error e => pure (some (.other ("create " ++ what ++ ": " ++ e.text)))
      | .ok _ => pure none

/-- The deletion loop of `gcVMPods` and `deleteAllVMPods`: pods that are
    already going, or that are kept, are skipped. -/
def deleteVMPods (cause : Cause) (keep : Pod → Bool) : List Pod → Call (Option Err)
  | [] => pure none
  | p :: l => do
      if p.deletionTimestamp.isSome || keep p then deleteVMPods cause keep l
      else
        match ← ask (.deletePod p.name cause) with
        | .ok _ => deleteVMPods cause keep l
        | .error .notFound => deleteVMPods cause keep l
        | .error e => pure (some (.other ("delete VM Pod: " ++ e.text)))

/-- `gcVMPods`. -/
def gcVMPods (vm : VM) : Call (Option Err) := do
  match ← ask (.listVMPods vm.uid) with
  | .error e => pure (some (.other ("list VM Pods: " ++ e.text)))
  | .ok pods =>
      deleteVMPods .garbage (fun p => p.name == vm.status.vmPodName ||
        vm.status.migration.any (p.name == ·.targetVMPodName)) pods

/-- `deleteAllVMPods`: whether there were none to begin with. -/
def deleteAllVMPods (vm : VM) : Call (Except Err Bool) := do
  match ← ask (.listVMPods vm.uid) with
  | .error e => pure (.error (.other ("list VM Pods: " ++ e.text)))
  | .ok [] => pure (.ok true)
  | .ok (p :: l) =>
      match ← deleteVMPods .stop (fun _ => false) (p :: l) with
      | some e => pure (.error e)
      | none => pure (.ok false)

/-! ### Scheduling and Scheduled -/

/-- Every hotpluggable volume of the spec is attached to the node. -/
def allHotplugVolumesAttached (vm : VM) : Bool :=
  vm.spec.volumes.all (fun v => !v.isHotpluggable ||
    (lookupVolumeStatus vm.status.volumeStatus v.name).any (·.phase == .attachedToNode))

/-- The phase of the VM after its pod was seen in `Scheduling` or `Scheduled`. -/
def scheduledPhase (vm : VM) (vmPod : Pod) : VMPhase :=
  match vmPod.phase with
  | .running =>
      if vm.status.phase = .scheduling ∧ allHotplugVolumesAttached vm then .scheduled
      else vm.status.phase
  | .succeeded => .succeeded
  | .failed => .failed
  | .unknown => .unknown
  | _ => vm.status.phase

/-- The error of `buildVMPod` in `Scheduling`, where it is wrapped so that a
    request for a requeue stays one. -/
def buildError (e : Err) : Err :=
  match e with
  | .requeue after => .requeue after
  | e => e.wrap "build VM Pod: "

/-- The VM with the UID and the node of its pod. -/
def withPod (vm : VM) (vmPod : Pod) : VM :=
  { vm with status := { vm.status with vmPodUID := vmPod.uid, nodeName := vmPod.nodeName } }

/-- The volume pod of a VM pod that is bound to a node. -/
def handleBound (vm : VM) (vmPod : Pod) : Call (Option Err) :=
  if vmPod.nodeName ≠ "" then handleHotplugVolumes vm vmPod true else pure none

/-- The cases `Scheduling` and `Scheduled` of `reconcile`. -/
def reconcileScheduling (vm : VM) : Call (VM × Option Err) := do
  match ← getVMPod vm vm.status.vmPodName "VM Pod" with
  | .error e => pure (vm, some e)
  | .ok none =>
      if vm.status.phase = .scheduling then
        match ← ask (.buildVMPod vm) with
        | .error e => pure (vm, some (buildError e))
        | .ok t => do
            let err ← createVMPod vm vm.status.vmPodName "VM Pod" t
            pure (vm, err)
      else pure ({ vm with status := { vm.status with phase := .failed } }, none)
  | .ok (some vmPod) =>
      let vm := withPod vm vmPod
      match ← handleBound vm vmPod with
      | some e => pure (vm, some e)
      | none =>
          updateHotplugVolumeStatus
            { vm with status := { vm.status with phase := scheduledPhase vm vmPod } } vmPod

/-! ### Running -/

/-- The VM with the migration record `m`. -/
def setMigration (vm : VM) (m : Migration) : VM :=
  { vm with status := { vm.status with migration := some m } }

/-- The phase of the VM after its pod was seen in `Running`. -/
def runningPhase (vm : VM) : Option Pod → VMPhase
  | none => .failed
  | some vmPod =>
      match vmPod.phase with
      | .succeeded => if vm.status.migration.isNone then .succeeded else vm.status.phase
      | .failed => .failed
      | .unknown => .unknown
      | _ => vm.status.phase

/-- The pods of a migration target that are beyond repair. -/
def PodPhase.broken : PodPhase → Bool
  | .failed | .succeeded | .unknown => true
  | _ => false

/-- The record after the newest volume pod of the target was seen, and whether
    the hotplug volumes are attached there. -/
def targetVolumes (m : Migration) : List Pod → Migration × Bool
  | [] => (m, false)
  | p :: _ =>
      let m := { m with targetVolumePodUID := p.uid }
      if PodPhase.broken p.phase then ({ m with phase := .failed }, false)
      else (m, p.phase == .running)

/-- The hotplug volumes of the target pod: the record, whether the volumes are
    attached to the target node, and the error. -/
def reconcileTargetVolumes (vm : VM) (m : Migration) (target : Pod) :
    Call (Migration × Bool × Option Err) := do
  if PodPhase.broken target.phase then pure ({ m with phase := .failed }, false, none)
  else if getHotplugVolumes vm target = [] then pure (m, true, none)
  else if target.nodeName ≠ "" then
    -- the copy has no volume status, so that every volume is handed to the new pod
    match ← handleHotplugVolumes
        { vm with status := { vm.status with migration := some m, volumeStatus := [] } }
        target true with
    | some e => pure (m, false, some e)
    | none =>
        match ← getHotplugVolumePods target with
        | .error e => pure (m, false, some e)
        | .ok pods =>
            let (m, attached) := targetVolumes m pods
            pure (m, attached, none)
  else pure (m, false, none)

/-- The case `Scheduling` of the migration in `reconcile`. -/
def reconcileTarget (vm : VM) (m : Migration) : Call (VM × Option Err) := do
  match ← getVMPod vm m.targetVMPodName "target VM Pod" with
  | .error e => pure (vm, some e)
  | .ok none =>
      match ← ask (.buildVMPod vm) with
      | .error e => pure (vm, some (e.wrap "build target VM Pod: "))
      | .ok t => do
          let err ← createVMPod vm m.targetVMPodName "target VM Pod" t
          pure (vm, err)
  | .ok (some target) => do
      let m := { m with targetVMPodUID := target.uid, targetNodeName := target.nodeName }
      let (m, attached, err) ← reconcileTargetVolumes vm m target
      match err with
      | some e => pure (setMigration vm m, some e)
      | none =>
          if target.phase = .running ∧ attached then
            pure (setMigration vm { m with phase := .scheduled }, none)
          else pure (setMigration vm m, none)

/-- The target pod gets a name. -/
def nameTarget (vm : VM) (m : Migration) : Call (VM × Option Err) := do
  let name ← ask (.generateName ("vm-" ++ vm.name ++ "-"))
  pure (setMigration vm { m with targetVMPodName := name, phase := .scheduling }, none)

/-- The migration part of the case `Running` of `reconcile`. -/
def reconcileMigration (vm : VM) (m : Migration) : Call (VM × Option Err) := do
  match m.phase with
  | .empty | .pending => nameTarget vm m
  | .scheduling => reconcileTarget vm m
  | _ => pure (vm, none)

/-- The case `Running` of `reconcile`. -/
def reconcileRunning (vm : VM) : Call (VM × Option Err) := do
  match ← getVMPod vm vm.status.vmPodName "VM Pod" with
  | .error e => pure (vm, some e)
  | .ok none => pure ({ vm with status := { vm.status with phase := .failed } }, none)
  | .ok (some vmPod) =>
      let phase := runningPhase vm (some vmPod)
      if phase ≠ .running then
        pure ({ vm with status := { vm.status with phase := phase } }, none)
      else
        let vm := reconcileVMConditions vm vmPod
        match vm.status.migration with
        | some m => reconcileMigration vm m
        | none =>
            match ← handleHotplugVolumes vm vmPod false with
            | some e => pure (vm, some e)
            | none => updateHotplugVolumeStatus vm vmPod

/-! ### Stopped -/

/-- The run policy: whether a stopped VM is to run again. -/
def shouldRun (vm : VM) : Bool :=
  match vm.spec.runPolicy with
  | .always => true
  | .rerunOnFailure => vm.status.phase == .failed || vm.status.phase == .empty ||
      vm.status.powerAction == .powerOn
  | .once => vm.status.phase == .empty || vm.status.powerAction == .powerOn
  | .manual => vm.status.powerAction == .powerOn
  | _ => false

/-- The cases `""`, `Succeeded` and `Failed` of `reconcile`: once the pods are
    gone the whole status is reset. -/
def reconcileStopped (vm : VM) : Call (VM × Option Err) := do
  match ← deleteAllVMPods vm with
  | .error e => pure (vm, some e)
  | .ok false => pure (vm, none)
  | .ok true =>
      pure ({ vm with status := {
        phase := if shouldRun vm then .pending else vm.status.phase } }, none)

/-! ### The Reconciler -/

/-- The `switch` of `reconcile`. -/
def reconcilePhase (vm : VM) : Call (VM × Option Err) := do
  match vm.status.phase with
  | .pending => do
      let name ← ask (.generateName ("vm-" ++ vm.name ++ "-"))
      pure ({ vm with status := { vm.status with
        vmPodName := name, phase := .scheduling } }, none)
  | .scheduling | .scheduled => reconcileScheduling vm
  | .running => reconcileRunning vm
  | .empty | .succeeded | .failed => reconcileStopped vm
  | .unknown => pure (vm, none)

/-- `r.Client.Update`: on success the object in memory is the one the server
    returned. -/
def update (vm : VM) : Call (VM × Option Err) := do
  match ← ask (.updateVM vm) with
  | .ok vm' => pure (vm', none)
  | .error e => pure (vm, some (.other e.text))

/-- The phases in which a VM that is being deleted loses its pods. -/
def deletable : VMPhase → Bool
  | .empty | .pending | .scheduling | .failed | .succeeded => true
  | _ => false

/-- `VMReconciler.reconcile`. A VM that is being deleted goes on to the
    `switch` while pods of it are left. -/
def reconcile (vm : VM) : Call (VM × Option Err) := do
  if vm.deletionTimestamp.isNone ∧ VMProtectionFinalizer ∉ vm.finalizers then
    update { vm with finalizers := vm.finalizers ++ [VMProtectionFinalizer] }
  else if vm.deletionTimestamp.isSome ∧ deletable vm.status.phase then
    match ← deleteAllVMPods vm with
    | .error e => pure (vm, some e)
    | .ok true =>
        update { vm with finalizers := vm.finalizers.filter (· != VMProtectionFinalizer) }
    | .ok false => reconcilePhase vm
  else reconcilePhase vm

/-- How `Reconcile` ends when `reconcile` has failed. -/
def failed : Err → Outcome
  | .requeue after => .ok { requeueAfter := after }
  | e => .error e.text

/-- How `Reconcile` ends when only the status write has failed. -/
def notWritten : ApiError → Outcome
  | .conflict => .ok { requeue := true }
  | e => .error ("update VM status: " ++ e.text)

/-- `VMReconciler.Reconcile`. -/
def Reconcile : Call Outcome := do
  match ← ask .getVM with
  | .error .notFound => pure (.ok {})
  | .error e => pure (.error e.text)
  | .ok vm =>
      let (vm, rerr) ← reconcile vm
      if rerr = some .panic then pure (.error Err.panic.text)
      else
        match ← ask (.updateVMStatus vm) with
        | .error e =>
            match rerr with
            | some r => pure (failed r)
            | none => pure (notWritten e)
        | .ok vm =>
            match rerr with
            | some r => pure (failed r)
            | none =>
                match ← gcVMPods vm with
                | some e => pure (.error ("GC VM Pods: " ++ e.text))
                | none => pure (.ok {})

end VMController

end Virtink
