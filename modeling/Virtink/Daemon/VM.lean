import Virtink.Controller.Hotplug
import Virtink.Framework.Text

/-! # The Node Daemon

    The daemon of a node drives the hypervisor of the VM pod on its node: it
    boots the guest, executes power actions, attaches hotplug volumes and
    takes part in migrations, as their target or as their source. Side effects
    come first; the status that records them is written at the end of
    `Reconcile`, and written every time.

    What a daemon knows of a migration under way (channels and cancel
    functions) is in its memory only.
-/

namespace Virtink

open Calls

namespace VMDaemon

/-! ### Status Helpers -/

/-- The VM in another phase. -/
def withPhase (vm : VM) (phase : VMPhase) : VM :=
  { vm with status := { vm.status with phase := phase } }

/-- The VM with the migration record `m`. -/
def withMigration (vm : VM) (m : Migration) : VM :=
  { vm with status := { vm.status with migration := some m } }

/-- The first entry of that name gets the phase. -/
def setPhase (name : String) (phase : VolumePhase) : List VolumeStatus → List VolumeStatus
  | [] => []
  | s :: l =>
      if s.name = name then { s with phase := phase } :: l else s :: setPhase name phase l

/-- The VM with another volume status. -/
def withVolumeStatus (vm : VM) (l : List VolumeStatus) : VM :=
  { vm with status := { vm.status with volumeStatus := l } }

/-! ### Hotplug Volumes -/

/-- The volume loop of `mountHotplugVolumes`. Once a volume pod UID is set it
    stays set for the volumes that follow. -/
def mountVolumes (vmPodUID : UID) : UID → List Volume → VM → Call (VM × Option Err)
  | _, [], vm => pure (vm, none)
  | volumePodUID, volume :: rest, vm => do
      match vm.status.volumeStatus.find? (·.name == volume.name) with
      | some { name, phase, hotplugVolume := some hotplug } =>
          if !volume.isHotpluggable then mountVolumes vmPodUID volumePodUID rest vm
          else if volumePodUID ≠ "" ∨ phase = .attachedToNode then
            let volumePodUID := if volumePodUID = "" then hotplug.volumePodUID else volumePodUID
            match ← ask (.isBlock volume) with
            | .error e => pure (vm, some (.other e))
            | .ok block =>
                match ← ask (.mountVolume volume.name block vmPodUID volumePodUID) with
                | .error e => pure (vm, some (.other e))
                | .ok _ =>
                    mountVolumes vmPodUID volumePodUID rest
                      (if phase = .attachedToNode then
                        withVolumeStatus vm (setPhase name .mountedToPod vm.status.volumeStatus)
                      else vm)
          else mountVolumes vmPodUID volumePodUID rest vm
      | _ => mountVolumes vmPodUID volumePodUID rest vm

/-- `mountHotplugVolumes`. -/
def mountHotplugVolumes (vm : VM) (vmPodUID volumePodUID : UID) : Call (VM × Option Err) := do
  let vmPodUID := if vmPodUID = "" then vm.status.vmPodUID else vmPodUID
  match ← ask .getVMMountRecord with
  | .error e => pure (vm, some (.other e))
  | .ok _ => mountVolumes vmPodUID volumePodUID vm.spec.volumes vm

/-- The path of the disk of a hotplug volume in the VM pod. -/
def plugPath (block : Bool) (name : String) : String :=
  Text.Path.join ["/hotplug-volumes", if block then name else name ++ ".img"]

/-- `addHotplugVolumesToVM`: here the last entry of a name counts. -/
def addHotplugVolumesToVM (info : VmInfo) : List Volume → VM → Call (VM × Option Err)
  | [], vm => pure (vm, none)
  | volume :: rest, vm => do
      match lookupVolumeStatus vm.status.volumeStatus volume.name with
      | some status =>
          if volume.isHotpluggable ∧ status.phase = .mountedToPod then
            let ready := withVolumeStatus vm
              (setPhase status.name .ready vm.status.volumeStatus.reverse).reverse
            if status.name ∈ info.disks then addHotplugVolumesToVM info rest ready
            else
              match ← ask (.isBlock volume) with
              | .error e => pure (vm, some (.other e))
              | .ok block =>
                  match ← ask (.hypervisor vm.status.vmPodUID (.vmAddDisk status.name
                      (plugPath block status.name)) .lifecycle) with
                  | .error e => pure (vm, some (.other ("add disk: " ++ e)))
                  | .ok _ => addHotplugVolumesToVM info rest ready
          else addHotplugVolumesToVM info rest vm
      | none => addHotplugVolumesToVM info rest vm

/-- `removeHotplugVolumesFromVM`: disks that are not in the spec go. -/
def removeHotplugVolumesFromVM (vm : VM) : List String → Call (Option Err)
  | [] => pure none
  | disk :: rest => do
      if vm.spec.volumes.any (·.name == disk) then removeHotplugVolumesFromVM vm rest
      else
        match ← ask (.hypervisor vm.status.vmPodUID (.vmRemoveDevice disk) .lifecycle) with
        | .error e => pure (some (.other ("remove disk from VM: " ++ e)))
        | .ok _ => removeHotplugVolumesFromVM vm rest

/-- `reconcileHotplugVolumes`. -/
def reconcileHotplugVolumes (vm : VM) (info : VmInfo) : Call (VM × Option Err) := do
  match ← mountHotplugVolumes vm "" "" with
  | (vm, some e) => pure (vm, some e)
  | (vm, none) =>
      match ← addHotplugVolumesToVM info vm.spec.volumes vm with
      | (vm, some e) => pure (vm, some e)
      | (vm, none) =>
          match ← removeHotplugVolumesFromVM vm info.disks with
          | some e => pure (vm, some e)
          | none =>
              match ← ask (.umountHotplugVolumes (vm.status.volumeStatus.map (·.name))) with
              | .error e => pure (vm, some (.other e))
              | .ok _ => pure (vm, none)

/-- `cleanup`. -/
def cleanup : Call (Option Err) := do
  match ← ask .umountAllHotplugVolumes with
  | .error e => pure (some (.other e))
  | .ok _ => pure none

/-! ### Deletion -/

/-- Delete the guest of a running pod; it need not have been created. -/
def deleteGuest (vm : VM) (vmPod : Pod) : Call (Option Err) := do
  if vmPod.phase = .running then
    match ← ask (.hypervisor vm.status.vmPodUID .vmDelete .lifecycle) with
    | .error e =>
        if containsText e "VmNotCreated" then pure none else pure (some (.other e))
    | .ok _ => pure none
  else pure none

/-- `reconcileDeletingVM`. -/
def reconcileDeletingVM (vm : VM) (vmPod : Pod) : Call (VM × Option Err) := do
  match ← deleteGuest vm vmPod with
  | some e => pure (vm, some e)
  | none =>
      let err ← cleanup
      pure (withPhase vm .succeeded, err)

/-! ### Scheduled -/

/-- `vfioMemoryLockSizeBytes`. -/
def vfioMemoryLockSizeBytes : Nat := 2 ^ 30

/-- Raise the memory lock limit of the hypervisor of a VM with devices. -/
def setMemlock (vm : VM) (config : VmConfig) : Call (Option Err) := do
  if config.devices > 0 ∨ config.vdpa > 0 then
    match ← ask (.getPIDBySocket vm.status.vmPodUID) with
    | .error e => pure (some (.other ("get cloud-hypervisor process pid: " ++ e)))
    | .ok pid =>
        match ← ask (.setMemlock pid (config.memorySize + vfioMemoryLockSizeBytes)) with
        | .error e => pure (some (.other ("set cloud-hypervisor process memlock: " ++ e)))
        | .ok _ => pure none
  else pure none

/-- Boot the guest. -/
def boot (vm : VM) : Call (Option Err) := do
  match ← ask (.hypervisor vm.status.vmPodUID .vmBoot .lifecycle) with
  | .error e => pure (some (.other e))
  | .ok _ => pure none

/-- Create the guest from the config of the prerunner and boot it. -/
def createVM (vm : VM) : Call (Option Err) := do
  match ← ask (.loadVmConfig vm.status.vmPodUID) with
  | .error .notExist => pure (some (.other "waiting prerunner prepare VM config"))
  | .error (.other e) => pure (some (.other e))
  | .ok config =>
      match ← setMemlock vm config with
      | some e => pure (some e)
      | none =>
          match ← ask (.hypervisor vm.status.vmPodUID (.vmCreate config) .lifecycle) with
          | .error e => pure (some (.other ("create VM: " ++ e)))
          | .ok _ => boot vm

/-- The case `Scheduled` of `reconcile`. -/
def reconcileScheduled (vm : VM) : Call (VM × Option Err) := do
  match ← mountHotplugVolumes vm "" "" with
  | (vm, some e) => pure (vm, some e)
  | (vm, none) =>
      match ← ask (.vmInfo vm.status.vmPodUID) with
      | .error e =>
          if isVMNotCreatedError e then do
            let err ← createVM vm
            pure (vm, err)
          else pure (vm, some (.other ("get VM info: " ++ e)))
      | .ok info =>
          match info.state with
          | .created => do
              let err ← boot vm
              pure (vm, err)
          | .running | .paused => pure (withPhase vm .running, none)
          | .shutdown => pure (withPhase vm .failed, none)
          | .other => pure (vm, none)

/-! ### Running -/

/-- The hypervisor call of a power action; other requests are only cleared. -/
def powerCall : PowerAction → Option HypervisorCall
  | .powerOff => some .vmShutdown
  | .shutdown => some .vmPowerButton
  | .reset => some .vmReboot
  | .reboot => some .vmReboot
  | .pause => some .vmPause
  | .resume => some .vmResume
  | .empty | .powerOn => none

/-- Execute the requested power action, whatever comes of it, and clear the
    request. -/
def power (vm : VM) : Call (VM × Option Err) := do
  let cleared := { vm with status := { vm.status with powerAction := .empty } }
  match powerCall vm.status.powerAction with
  | some call => do
      let _ ← ask (.hypervisor vm.status.vmPodUID call .powerAction)
      pure (cleared, none)
  | none => pure (cleared, none)

/-- The case `Running` of `reconcile` without a migration record. -/
def reconcileRunning (node : String) (vm : VM) : Call (VM × Option Err) := do
  if vm.status.nodeName ≠ node then pure (vm, none)
  else
    match ← ask (.vmInfo vm.status.vmPodUID) with
    | .error e => pure (vm, some (.other ("get VM info: " ++ e)))
    | .ok info =>
        if info.state = .running ∨ info.state = .paused then
          if vm.spec.runPolicy = .halted then
            match ← ask (.hypervisor vm.status.vmPodUID .vmShutdown .lifecycle) with
            | .error e => pure (vm, some (.other ("power off VM: " ++ e)))
            | .ok _ => reconcileHotplugVolumes vm info
          else if vm.status.powerAction ≠ .empty then power vm
          else reconcileHotplugVolumes vm info
        else pure (withPhase vm .succeeded, none)

/-! ### Migration -/

/-- A case of the migration either returns from `reconcile` or goes on to the
    bookkeeping of the control block. -/
inductive Flow where
  | return_ (vm : VM) (err : Option Err)
  | next (vm : VM) (b : ControlBlock)

/-- The migration fails. -/
def failMigration (vm : VM) (m : Migration) : VM := withMigration vm { m with phase := .failed }

/-- The hypervisor of the target pod listens for the migration, or the
    migration fails. -/
def receive (vm : VM) (m : Migration) (b : ControlBlock) (ctx : Nat) : Call Flow := do
  match ← ask (.statReceiveSocket m.targetVMPodUID) with
  | .error e => pure (.return_ vm (some (.other e)))
  | .ok true => pure (.next vm b)
  | .ok false => do
      let ch ← ask (.startReceive m.targetVMPodUID ctx)
      match ← ask (.waitReceiveSocket m.targetVMPodUID ch) with
      | .error _ => pure (.return_ (failMigration vm m) none)
      | .ok _ => pure (.next vm { b with receiveMigrationErrCh := some ch })

/-- The target relays its node port to the receiving socket and mounts the
    hotplug volumes into the target pod. -/
def openTarget (nodeIP : String) (vm : VM) (m : Migration) (b : ControlBlock) (ctx : Nat) :
    Call Flow := do
  match ← ask .loadCACert with
  | .error e => pure (.return_ vm (some (.other ("load CA cert: " ++ e))))
  | .ok _ =>
      match ← ask (.relayTCPToSocket ctx m.targetVMPodUID) with
      | .error e => pure (.return_ vm (some (.other ("start target relay: " ++ e))))
      | .ok port =>
          match ← mountHotplugVolumes vm m.targetVMPodUID m.targetVolumePodUID with
          | (vm, some e) => pure (.return_ vm (some e))
          | (vm, none) => pure (.next (withMigration vm { m with
              targetNodePort := port, targetNodeIP := nodeIP, phase := .targetReady }) b)

/-- The case `Scheduled` of the migration, on the target. -/
def reconcileTarget (nodeIP : String) (vm : VM) (m : Migration) (b : ControlBlock) :
    Call Flow := do
  match ← ask (.waitSocket m.targetVMPodUID) with
  | .error _ => pure (.return_ (failMigration vm m) none)
  | .ok _ => do
      let ctx ← ask .withCancel
      match ← receive vm m { b with receiveMigrationCancelFunc := some ctx } ctx with
      | .return_ vm err => pure (.return_ vm err)
      | .next vm b => openTarget nodeIP vm m b ctx

/-- The case `TargetReady` of the migration, on the source. -/
def reconcileSend (vm : VM) (m : Migration) (b : ControlBlock) : Call Flow := do
  let ctx ← ask .withCancel
  match ← ask (.relaySocketToTCP ctx vm.status.vmPodUID m.targetNodeIP m.targetNodePort m.uid) with
  | .error e => pure (.return_ vm (some (.other ("start source relay: " ++ e))))
  | .ok _ => do
      let ch ← ask (.startSend vm.status.vmPodUID vm.status.vmPodName ctx m.uid)
      pure (.next (withMigration vm { m with phase := .running })
        { b with sendMigrationCancelFunc := some ctx, sendMigrationErrCh := some ch })

/-- Call a cancel function if there is one, and go on. -/
def cancelAndGo (cancel : Option Nat) (vm : VM) (b : ControlBlock) : Call Flow := do
  match cancel with
  | none => pure (.next vm b)
  | some ctx => do
      let _ ← ask (.cancel ctx)
      pure (.next vm b)

/-- The case `Running` of the migration, on the source. -/
def reconcileSending (vm : VM) (m : Migration) (b : ControlBlock) (vmPod : Pod) : Call Flow := do
  if vmPod.phase = .succeeded then
    match ← cleanup with
    | some e => pure (.return_ vm (some e))
    | none =>
        cancelAndGo b.sendMigrationCancelFunc (withMigration vm { m with phase := .sent }) b
  else
    match b.sendMigrationErrCh with
    | none => cancelAndGo b.sendMigrationCancelFunc (failMigration vm m) b
    | some ch =>
        match ← ask (.pollSend ch) with
        | some _ => cancelAndGo b.sendMigrationCancelFunc (failMigration vm m) b
        | none => pure (.return_ vm none)

/-- The VM after the guest has arrived at the target. -/
def arrived (vm : VM) (m : Migration) : VM :=
  { vm with status := { vm.status with
      migration := some { m with phase := .succeeded }
      nodeName := m.targetNodeName
      vmPodName := m.targetVMPodName
      vmPodUID := m.targetVMPodUID } }

/-- The case `Sent` of the migration, on the target. -/
def reconcileSent (vm : VM) (m : Migration) (b : ControlBlock) : Call Flow := do
  match ← ask (.vmInfo m.targetVMPodUID) with
  | .error e => pure (.return_ vm (some (.other e)))
  | .ok info =>
      if info.state = .running then cancelAndGo b.receiveMigrationCancelFunc (arrived vm m) b
      else pure (.return_ vm none)

/-- The `switch` over the phase of the migration. -/
def migrationStep (node nodeIP : String) (vm : VM) (m : Migration) (vmPod : Pod)
    (b : ControlBlock) : Call Flow := do
  match m.phase with
  | .scheduled =>
      if m.targetNodeName = node then reconcileTarget nodeIP vm m b else pure (.next vm b)
  | .targetReady =>
      if vm.status.nodeName = node then reconcileSend vm m b else pure (.next vm b)
  | .running =>
      if vm.status.nodeName = node then reconcileSending vm m b vmPod else pure (.next vm b)
  | .sent =>
      if m.targetNodeName = node then reconcileSent vm m b else pure (.next vm b)
  | .succeeded | .failed => do
      let _ ← ask .deleteControlBlock
      pure (.next vm b)
  | .empty | .pending | .scheduling => pure (.next vm b)

/-- The migration has ended for this daemon. -/
def migrationOver (node : String) (vm : VM) : Bool :=
  vm.status.migration.any (fun m => m.phase == .failed || m.phase == .succeeded ||
    (m.phase == .sent && vm.status.nodeName == node))

/-- The case `Running` of `reconcile` with the migration record `m`. -/
def reconcileMigration (node nodeIP : String) (vm : VM) (m : Migration) (vmPod : Pod) :
    Call (VM × Option Err) := do
  let b ← ask .getControlBlock
  match ← migrationStep node nodeIP vm m vmPod b with
  | .return_ vm err => pure (vm, err)
  | .next vm b => do
      let _ ← ask (.setControlBlock b)
      if migrationOver node vm then do
        let _ ← ask .deleteControlBlock
        pure (vm, none)
      else pure (vm, none)

/-! ### The Reconciler -/

/-- `shouldReconcile`: the VM is on this node or is moving to it. -/
def shouldReconcile (node : String) (vm : VM) : Bool :=
  (vm.status.nodeName != "" && vm.status.nodeName == node) ||
    vm.status.migration.any (fun m => m.targetNodeName != "" && m.targetNodeName == node)

/-- `VMReconciler.reconcile`. -/
def reconcile (node nodeIP : String) (vm : VM) : Call (VM × Option Err) := do
  if !shouldReconcile node vm then pure (vm, none)
  else
    match ← ask (.getPod vm.status.vmPodName) with
    | .error e => pure (vm, some (.other ("get VM Pod: " ++ e.text)))
    | .ok vmPod =>
        if vm.deletionTimestamp.isSome then
          if vm.status.nodeName ≠ node then pure (vm, none)
          else reconcileDeletingVM vm vmPod
        else
          match vm.status.phase with
          | .scheduled => reconcileScheduled vm
          | .running =>
              match vm.status.migration with
              | none => reconcileRunning node vm
              | some m => reconcileMigration node nodeIP vm m vmPod
          | .succeeded | .failed => do
              let err ← cleanup
              pure (vm, err)
          | .empty | .pending | .scheduling | .unknown => pure (vm, none)

/-- How `Reconcile` ends when only the status write has failed. -/
def notWritten : ApiError → Outcome
  | .conflict => .ok { requeue := true }
  | e => .error ("update VM status: " ++ e.text)

/-- `VMReconciler.Reconcile`. -/
def Reconcile (node nodeIP : String) : Call Outcome := do
  match ← ask .getVM with
  | .error .notFound => pure (.ok {})
  | .error e => pure (.error e.text)
  | .ok vm =>
      let (vm, rerr) ← reconcile node nodeIP vm
      let written ← ask (.updateVMStatus vm)
      match rerr, written with
      | some r, _ => pure (.error r.text)
      | none, .error e => pure (notWritten e)
      | none, .ok _ => pure (.ok { requeueAfter := 15 })

end VMDaemon

end Virtink
