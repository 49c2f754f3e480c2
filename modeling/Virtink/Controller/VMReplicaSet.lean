import Virtink.Api.ReplicaSet
import Virtink.Cluster.World
import Virtink.Framework.Pool

/-! # The Replica Set Controller

    `VMReplicaSetReconciler.Reconcile`. It lists the VMs of the set, compares
    their number with `spec.replicas`, creates or deletes at most
    `BurstReplicas` of them, each in a routine of its own, then deletes those
    that have ended, and writes the status if it has changed.

    Events for the user are left out, as is the error of
    `SetControllerReference`: owner and VM are in one namespace, and the kind
    of the owner is registered.
-/

namespace Virtink

open Calls

namespace VMRSController

/-! ### Calls -/

/-- The packages that the controller and its webhook use. -/
structure Packages where
  /-- `metav1.LabelSelectorAsSelector`, with `Matches` of the result. -/
  labelSelectorAsSelector : Option LabelSelector → Except String (Labels → Bool)
  /-- `sort.Slice`, with a function that compares two elements. -/
  sortSlice : (VM → VM → Bool) → List VM → List VM

/-- What is known of the packages: sorting keeps the elements. -/
structure Packages.Lawful (lib : Packages) : Prop where
  sort_perm : ∀ less l, (lib.sortSlice less l).Perm l

/-- The calls of the controller: on the API server and its cache, on the
    expectations, and on the scheduler of its routines. -/
inductive Op where
  | getVMRS (name : String)
  | listVMs (uid : UID)
  | createVM (vm : NewVM)
  | deleteVM (name : String)
  | updateStatus (name : String) (status : VMRSStatus)
  | satisfiedExpectations (rc : String)
  | expectCreations (rc : String) (adds : Nat)
  | expectDeletions (rc : String) (keys : List String)
  | creationObserved (rc : String)
  | deletionObserved (rc : String) (key : String)
  | deleteExpectations (rc : String)
  | pick (n : Nat)

/-- The answer of each call. -/
abbrev Op.Ans : Op → Type
  | .getVMRS _ => Except ApiError VMRS
  | .listVMs _ => Except ApiError (List VM)
  | .createVM _ => Except ApiError Unit
  | .deleteVM _ => Except ApiError Unit
  | .updateStatus _ _ => Except ApiError Unit
  | .satisfiedExpectations _ => Bool
  | .expectCreations _ _ => Unit
  | .expectDeletions _ _ => Unit
  | .creationObserved _ => Unit
  | .deletionObserved _ _ => Unit
  | .deleteExpectations _ => Unit
  | .pick n => Fin (n + 1)

/-- The signature of the controller. -/
def api : Sig := ⟨Op, Op.Ans⟩

/-- Programs of the controller. -/
abbrev Call (α : Type) := Prog api α

/-- Make one call. -/
def ask (o : Op) : Call o.Ans := Prog.call o Prog.pure

@[simp] theorem ask_bind {α : Type} (o : Op) (f : o.Ans → Call α) :
    (ask o).bind f = Prog.call o f := rfl

/-- The scheduler picks a turn. -/
def pick (n : Nat) : Call (Fin (n + 1)) := ask (.pick n)

/-! ### VMs -/

/-- `BurstReplicas`. -/
def BurstReplicas : Nat := 10

/-- `isVMFinal`, and `isVMFinished` with the same body. -/
def isVMFinal (vm : VM) : Bool := vm.status.phase == .failed || vm.status.phase == .succeeded

/-- `isVMFinished`. -/
def isVMFinished (vm : VM) : Bool := isVMFinal vm

/-- `isVMUnknown`. -/
def isVMUnknown (vm : VM) : Bool := vm.status.phase == .unknown

/-- `isVMActive`. -/
def isVMActive (vm : VM) : Bool := !isVMFinal vm && vm.deletionTimestamp.isNone

/-- `isVMReady`. -/
def isVMReady (vm : VM) : Bool :=
  vm.status.phase != .empty && isVMActive vm && vm.status.phase == .running &&
    vm.status.conditions.any (fun c => c.type == "Ready" && c.status == .true)

/-- `isVMAvailable`. -/
def isVMAvailable (vm : VM) : Bool := isVMReady vm && vm.status.phase != .unknown

/-- The index `vmrUID`: the replica set that controls a VM. -/
def vmrUID (vm : VM) : Option UID :=
  match vm.controller with
  | some ref => if ref.kind = .virtualMachineReplicaSet then some ref.uid else none
  | none => none

/-- The VMs that the index `vmrUID` finds. -/
def listed (uid : UID) (vms : List VM) : List VM := vms.filter (fun vm => vmrUID vm == some uid)

/-- The VMs that `getControlledVMs` keeps of those listed by the index. -/
def selectVMs (lib : Packages) (rs : VMRS) (vms : List VM) : Except String (List VM) :=
  match lib.labelSelectorAsSelector rs.spec.selector with
  | .error e => .error ("failed to convert label selector: " ++ e)
  | .ok selects => .ok (vms.filter (fun vm => selects (vm.labels.getD [])))

/-- What `getControlledVMs` makes of the answer of the API server. -/
def controlledVMs (lib : Packages) (rs : VMRS) :
    Except ApiError (List VM) → Except String (List VM)
  | .error e => .error e.text
  | .ok vms => selectVMs lib rs vms

/-- `getControlledVMs`. -/
def getControlledVMs (lib : Packages) (rs : VMRS) : Call (Except String (List VM)) := do
  let answer ← ask (.listVMs rs.uid)
  pure (controlledVMs lib rs answer)

/-- `getVMsToDelete`: the newest VMs come first unless all are to be deleted.
    Without a value the slice is out of range. -/
def getVMsToDelete (lib : Packages) (vms : List VM) (diff : Nat) : Option (List VM) :=
  let sorted :=
    if diff < vms.length then
      lib.sortSlice (fun a b => decide (b.creationTimestamp < a.creationTimestamp)) vms
    else vms
  if diff ≤ sorted.length then some (sorted.take diff) else none

/-- Of a list of VMs there are as many to delete as are asked for. -/
theorem getVMsToDelete_eq_some {lib : Packages} (hlib : lib.Lawful) {vms : List VM} {diff : Nat}
    (h : diff ≤ vms.length) :
    ∃ vmToDelete, getVMsToDelete lib vms diff = some vmToDelete ∧ vmToDelete.length = diff ∧
      ∃ rest, (vmToDelete ++ rest).Perm vms := by
  simp only [getVMsToDelete]
  set sorted := if diff < vms.length then lib.sortSlice _ vms else vms
  have hperm : sorted.Perm vms := by
    simp only [sorted]
    split
    · exact hlib.sort_perm _ _
    · exact .refl _
  have hlength : diff ≤ sorted.length := by rw [hperm.length_eq]; exact h
  refine ⟨sorted.take diff, by simp [hlength], ?_, ?_⟩
  · simp [hlength]
  · exact ⟨sorted.drop diff, by simpa using hperm⟩

/-- The VM that `createVM` asks for. -/
def newVM (rs : VMRS) (t : VMTemplate) : NewVM where
  generateName := rs.name ++ "-"
  labels := t.labels.getD []
  annotations := t.annotations.getD []
  controller := { kind := .virtualMachineReplicaSet, name := rs.name, uid := rs.uid }
  spec := t.spec

/-! ### Routines -/

/-- `createVM`: the error, if there is one. -/
def createVM (rs : VMRS) (t : VMTemplate) : Call (Option String) := do
  match ← ask (.createVM (newVM rs t)) with
  | .error e => do
      let _ ← ask (.creationObserved rs.name)
      pure (some e.text)
  | .ok _ => pure none

/-- `DeleteVM`: a VM that is not found is deleted. -/
def DeleteVM (rs : VMRS) (vm : VM) : Call (Option String) := do
  match ← ask (.deleteVM vm.name) with
  | .error .notFound => pure none
  | .error e => do
      let _ ← ask (.deletionObserved rs.name vm.name)
      pure (some e.text)
  | .ok _ => pure none

/-- Start the routines and wait for `n` of them. Every routine makes at most
    two calls, sends an error and leaves; the main program resumes, makes one
    call and returns. -/
def spawn {α : Type} (routines : List (Call (Option String))) (n : Nat)
    (k : Option String → Call α) : Call (Ending α) :=
  Pool.run pick (4 * routines.length + 3)
    { routines := routines, counter := n, capacity := n } (.waiting k)

/-- The number of replicas that is asked for. -/
def wanted (rs : VMRS) : Int := (rs.spec.replicas.map Int32.toInt).getD 1

/-- `scaleVMs`: the first error of its routines. -/
def scaleVMs (lib : Packages) (rs : VMRS) (vms : List VM) : Call (Ending (Option String)) :=
  let diff : Int := vms.length - wanted rs
  let maxDiff := min diff.natAbs BurstReplicas
  if diff = 0 then pure (.returned none)
  else if diff < 0 then do
    let _ ← ask (.expectCreations rs.name maxDiff)
    match rs.spec.template with
    | none => pure .panicked
    | some t => spawn (List.replicate maxDiff (createVM rs t)) maxDiff Prog.pure
  else
    match getVMsToDelete lib vms maxDiff with
    | none => pure .panicked
    | some vmToDelete => do
        let _ ← ask (.expectDeletions rs.name (vmToDelete.map (·.name)))
        spawn (vmToDelete.map (DeleteVM rs)) maxDiff Prog.pure

/-- `cleanVMs`, with what the caller does next: one routine for every VM, but
    the wait group counts `BurstReplicas` at most. -/
def cleanVMs {α : Type} (rs : VMRS) (vms : List VM) (k : Option String → Call α) :
    Call (Ending α) :=
  spawn (vms.map (DeleteVM rs)) (min vms.length BurstReplicas) k

/-! ### Status -/

/-- `getCondition`, `hasCondition`. -/
def hasCondition (l : List VMRSCondition) (type : VMRSConditionType) : Bool :=
  l.any (·.type == type)

/-- `filterOutCondition`. -/
def filterOutCondition (l : List VMRSCondition) (type : VMRSConditionType) : List VMRSCondition :=
  l.filter (·.type != type)

/-- The labels of a VM include those of the template. -/
def includesLabels (template labels : Labels) : Bool :=
  template.all (fun e => labels.lookup e.1 == some e.2)

/-- The reason of the failure condition. -/
def failureReason (vms : List VM) (replicas : Int32) : String :=
  if (vms.length : Int) < replicas.toInt then "FailedCreate"
  else if replicas.toInt < (vms.length : Int) then "FailedDelete"
  else ""

/-- The failure condition is added once, and removed when nothing fails. A nil
    number of replicas is dereferenced for its reason. -/
def failureConditions (rs : VMRS) (vms : List VM) (scaleErr : Option String) :
    Option (List VMRSCondition) :=
  let old := rs.status.conditions
  match scaleErr, hasCondition old .replicaFailure with
  | some e, false =>
      rs.spec.replicas.map fun replicas => old ++
        [{ type := .replicaFailure, status := .true, reason := failureReason vms replicas,
           message := e }]
  | none, true => some (filterOutCondition old .replicaFailure)
  | _, _ => some old

/-- The condition that tells that the set is paused. -/
def pausedConditions (paused : Bool) (old : List VMRSCondition) : List VMRSCondition :=
  match paused, hasCondition old .replicaPaused with
  | true, false => old ++
      [{ type := .replicaPaused, status := .true, reason := "Paused",
         message := "VirtualMachineReplicaSet is paused" }]
  | false, true => filterOutCondition old .replicaPaused
  | _, _ => old

/-- `calculateStatus`, for the active VMs. Without a value a nil pointer is
    dereferenced: the template or the number of replicas. -/
def calculateStatus (rs : VMRS) (vms : List VM) (scaleErr : Option String) : Option VMRSStatus :=
  match rs.spec.template, failureConditions rs vms scaleErr with
  | some t, some conditions =>
      let labelled := vms.filter (fun vm => includesLabels (t.labels.getD []) (vm.labels.getD []))
      some
        { replicas := Int32.ofNat vms.length
          readyReplicas := Int32.ofNat (labelled.countP isVMReady)
          availableReplicas := Int32.ofNat (labelled.countP isVMAvailable)
          observedGeneration := rs.generation
          conditions := pausedConditions rs.spec.paused conditions }
  | _, _ => none

/-! ### Reconcile -/

/-- How `Reconcile` ends with an error of `reconcile`. -/
def failed : Err → Outcome
  | .requeue after => .ok { requeueAfter := after }
  | e => .error e.text

/-- How `Reconcile` ends when only the status write has failed. -/
def notWritten : ApiError → Outcome
  | .conflict => .ok { requeue := true }
  | e => .error ("update VMReplicaSet status: " ++ e.text)

/-- The end of `Reconcile`: with an unchanged status it returns without a look
    at the error. A changed one is always written, since the second comparison
    there is of a pointer with a value. -/
def writeStatus (rs : VMRS) (status : VMRSStatus) (rerr : Option Err) : Call Outcome :=
  if rs.status = status then pure (.ok {})
  else do
    match ← ask (.updateStatus rs.name status), rerr with
    | .error e, none => pure (notWritten e)
    | _, some e => pure (failed e)
    | .ok _, none => pure (.ok {})

/-- The end of `reconcile`, and what follows. -/
def finish (rs : VMRS) (vms : List VM) (scaleErr : Option String) : Call Outcome :=
  match calculateStatus rs vms scaleErr with
  | none => pure (.error Err.panic.text)
  | some status => writeStatus rs status none

/-- The main program returns what a call returns. -/
def returning {α : Type} (p : Call α) : Call (Ending α) := p.bind fun a => .pure (.returned a)

/-- The VMs that have ended or whose state is unknown. -/
def finishedVMs (vms : List VM) : List VM := vms.filter isVMFinished ++ vms.filter isVMUnknown

/-- The number of VMs is brought closer to the number wanted, then those that
    have ended are deleted. -/
def sync (lib : Packages) (rs : VMRS) (vms : List VM) : Call (Ending Outcome) := do
  let activeVms := vms.filter isVMActive
  match ← scaleVMs lib rs activeVms with
  | .returned (some e) => returning (finish rs activeVms (some e))
  | .returned none =>
      if finishedVMs vms = [] then returning (finish rs activeVms none)
      else cleanVMs rs (finishedVMs vms) (finish rs activeVms)
  | .panicked => pure .panicked
  | .hung => pure .hung

/-- `reconcile`, once the VMs are listed, and the end of `Reconcile`. -/
def reconcileVMs (lib : Packages) (rs : VMRS) (needsSync : Bool) :
    Except String (List VM) → Call (Ending Outcome)
  | .error e =>
      returning (writeStatus rs rs.status (some (.other ("failed to get controlled VMs: " ++ e))))
  | .ok vms =>
      if needsSync && !rs.spec.paused && rs.deletionTimestamp.isNone then sync lib rs vms
      else returning (finish rs (vms.filter isVMActive) none)

/-- `reconcile`: the expectations are looked at before the VMs are listed. -/
def reconcile (lib : Packages) (rs : VMRS) : Call (Ending Outcome) := do
  let needsSync ← ask (.satisfiedExpectations rs.name)
  let vms ← getControlledVMs lib rs
  reconcileVMs lib rs needsSync vms

/-- `VMReplicaSetReconciler.Reconcile`. -/
def Reconcile (lib : Packages) (req : String) : Call (Ending Outcome) := do
  match ← ask (.getVMRS req) with
  | .error e => do
      let _ ← ask (.deleteExpectations req)
      pure (.returned (if e = .notFound then .ok {} else .error e.text))
  | .ok rs => reconcile lib rs

end VMRSController

end Virtink
