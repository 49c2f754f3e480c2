import Virtink.Cluster.World

/-! # The Migration Controller

    One worker per `VirtualMachineMigration`. It puts its UID into the
    migration record of the VM, copies the phase of the record into its own
    status while it holds it, and clears the record once its own phase is
    terminal. Like in the VM controller the status is always written back.
-/

namespace Virtink

open Calls

namespace VMMController

/-- The VM read for a migration, and whether there is one. -/
def getVM : Call (Except Err (Option VM)) := do
  match ← ask .getVM with
  | .error .notFound => pure (.ok none)
  | .error e => pure (.error (.other ("get vm: " ++ e.text)))
  | .ok vm => pure (.ok (some vm))

/-- The VM with another migration record. -/
def withMigration (vm : VM) (m : Option Migration) : VM :=
  { vm with status := { vm.status with migration := m } }

/-- The migration in another phase. -/
def withPhase (vmm : VMM) (phase : MigrationPhase) : VMM :=
  { vmm with status := { vmm.status with phase := phase } }

/-- The record of the VM is cleared by the migration it belongs to. -/
def releaseVM (vmm : VMM) (vm : VM) : Call (VMM × Option Err) := do
  match ← ask (.updateVMStatus (withMigration vm none)) with
  | .error e => pure (vmm, some (.other ("reset vm migration status: " ++ e.text)))
  | .ok _ => pure (vmm, none)

/-- The record of the VM is taken. -/
def acquireVM (vmm : VMM) (vm : VM) : Call (VMM × Option Err) := do
  match ← ask (.updateVMStatus (withMigration vm (some { uid := vmm.uid }))) with
  | .error e => pure (vmm, some (.other ("set VM migration status: " ++ e.text)))
  | .ok vm => pure ({ vmm with status := { vmm.status with
      sourceNodeName := vm.status.nodeName } }, none)

/-- The status of a migration that holds the record. -/
def copyPhase (vmm : VMM) (m : Migration) : VMM :=
  { vmm with status := { vmm.status with
      phase := m.phase
      targetNodeName :=
        if m.targetNodeName ≠ "" then m.targetNodeName else vmm.status.targetNodeName } }

/-- What a terminal migration does with the VM: it clears the record if the
    record is its own and the VM stays. -/
def reconcileTerminal (vmm : VMM) : Option VM → Call (VMM × Option Err)
  | none => pure (vmm, none)
  | some vm =>
      if vm.deletionTimestamp.isSome then pure (vmm, none)
      else
        match vm.status.migration with
        | none => pure (vmm, none)
        | some m => if m.uid ≠ vmm.uid then pure (vmm, none) else releaseVM vmm vm

/-- What any other migration does with the VM. -/
def reconcileActive (vmm : VMM) : Option VM → Call (VMM × Option Err)
  | none => pure (withPhase vmm .failed, none)
  | some vm =>
      if vm.deletionTimestamp.isSome then pure (withPhase vmm .failed, none)
      else
        match vm.status.migration with
        | none => acquireVM vmm vm
        | some m =>
            if m.uid ≠ vmm.uid then pure (withPhase vmm .failed, none)
            else pure (copyPhase vmm m, none)

/-- `VMMReconciler.reconcile`. -/
def reconcile (vmm : VMM) : Call (VMM × Option Err) := do
  if vmm.deletionTimestamp.isSome then pure (vmm, none)
  else
    match ← getVM with
    | .error e => pure (vmm, some e)
    | .ok vm =>
        if vmm.status.phase.terminal then reconcileTerminal vmm vm
        else reconcileActive vmm vm

/-- `VMMReconciler.Reconcile`. -/
def Reconcile (u : UID) : Call Outcome := do
  match ← ask (.getVMM u) with
  | .error .notFound => pure (.ok {})
  | .error e => pure (.error e.text)
  | .ok vmm => do
      let (vmm, err) ← reconcile vmm
      match err with
      | some e => pure (.error e.text)
      | none =>
          match ← ask (.updateVMMStatus vmm) with
          | .error .conflict => pure (.ok { requeue := true })
          | .error e => pure (.error ("update VMM status: " ++ e.text))
          | .ok _ => pure (.ok {})

end VMMController

end Virtink
