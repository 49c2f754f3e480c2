import Virtink.Framework.Machine
import Virtink.Api.Types

/-! # The World of the Reconcilers

    What the reconcilers share: the API store with one virtual machine, its
    migrations and the pods of its namespace, the memory of the node daemons,
    and the migrations the hypervisors are sending. `Op` lists every call the
    reconcilers make on it.

    Each process has a `View`: what its current run has been told and what it
    has done that its status write has yet to record. The last group of fields
    of `World` is bookkeeping about the whole run. No program reads either.
-/

namespace Virtink

open Calls

/-! ### Processes -/

/-- The processes: the VM controller, one worker per migration, and one daemon
    per node. -/
inductive Proc where
  | controller
  | vmm (u : UID)
  | daemon (node : String)
  deriving DecidableEq, Repr

/-! ### Errors -/

/-- The API errors the reconcilers tell apart. -/
inductive ApiError where
  | notFound | conflict | alreadyExists
  | other (msg : String)
  deriving DecidableEq, Repr

/-- The text of an API error. -/
def ApiError.text : ApiError → String
  | .notFound => "not found"
  | .conflict => "conflict"
  | .alreadyExists => "already exists"
  | .other msg => msg

/-- How a reconcile fails: with a `reconcileError`, which only asks for a
    requeue after some seconds, with any other error, or by dereferencing a
    nil pointer, which nothing recovers from. -/
inductive Err where
  | requeue (after : Nat)
  | other (msg : String)
  | panic
  deriving DecidableEq, Repr

/-- The text of a reconcile error; requeues are always asked for in full
    minutes. -/
def Err.text : Err → String
  | .requeue after => "requeue: false, requeueAfter: " ++ toString (after / 60) ++ "m0s"
  | .other msg => msg
  | .panic => "invalid memory address or nil pointer dereference"

/-- Put a prefix before the text of an error. -/
def Err.wrap (pre : String) (e : Err) : Err := .other (pre ++ e.text)

/-- `ctrl.Result`. -/
structure Result where
  requeue      : Bool := false
  requeueAfter : Nat := 0
  deriving DecidableEq, Repr

/-- How a reconcile ends: with a result for the work queue or with an error. -/
abbrev Outcome := Except String Result

/-! ### The Hypervisor -/

/-- The states of a guest that the daemon tells apart. -/
inductive GuestState where
  | created | running | paused | shutdown | other
  deriving DecidableEq, Repr

/-- `cloudhypervisor.VmInfo`: the state and the ids of the attached disks. -/
structure VmInfo where
  state : GuestState
  disks : List String := []
  deriving DecidableEq, Repr

/-- `cloudhypervisor.VmConfig` as far as the daemon looks into it, and the ids
    of the disks the guest is created with. -/
structure VmConfig where
  devices    : Nat := 0
  vdpa       : Nat := 0
  memorySize : Nat := 0
  disks      : List String := []
  deriving DecidableEq, Repr

/-- Reading the VM config of the prerunner fails in two ways. -/
inductive VmConfigError where
  | notExist
  | other (msg : String)
  deriving DecidableEq, Repr

/-- `sub` occurs in `s` as a contiguous piece. -/
def containsList (sub : List Char) : List Char → Bool
  | [] => sub.isEmpty
  | c :: s => sub.isPrefixOf (c :: s) || containsList sub s

/-- `strings.Contains`. -/
def containsText (s sub : String) : Bool := containsList sub.toList s.toList

/-- `isVMNotCreatedError`. -/
def isVMNotCreatedError (err : String) : Bool := containsText err "VM is not created"

/-- Requests to a hypervisor that change the guest. -/
inductive HypervisorCall where
  | vmCreate (config : VmConfig)
  | vmBoot | vmShutdown | vmPowerButton | vmReboot | vmPause | vmResume | vmDelete
  | vmAddDisk (id path : String)
  | vmRemoveDevice (id : String)
  deriving DecidableEq, Repr

/-- On whose account a hypervisor call is made. -/
inductive Account where
  | lifecycle | powerAction
  deriving DecidableEq, Repr

/-- Why the controller deletes a pod: the VM is to have no pods any more, the
    pod is garbage, or it is an outdated volume pod. -/
inductive Cause where
  | stop | garbage | outdated
  deriving DecidableEq, Repr

/-- `migrationControlBlock`: channels and cancel functions by number. -/
structure ControlBlock where
  sendMigrationErrCh         : Option Nat := none
  sendMigrationCancelFunc    : Option Nat := none
  receiveMigrationErrCh      : Option Nat := none
  receiveMigrationCancelFunc : Option Nat := none
  deriving DecidableEq, Repr

/-- Where a `VmSendMigration` call stands. -/
inductive SendState where
  | running | completed | failed
  deriving DecidableEq, Repr

/-- A `VmSendMigration` call that was issued: for which migration and from
    which pod. Its number in `World.sends` is its error channel. -/
structure Send where
  migration : UID
  source    : String
  pod       : UID
  state     : SendState := .running
  deriving DecidableEq, Repr

/-! ### Calls -/

/-- The calls of the reconcilers. -/
inductive Op where
  -- the API server
  | getVM
  | updateVM (vm : VM)
  | updateVMStatus (vm : VM)
  | getVMM (u : UID)
  | updateVMMStatus (vmm : VMM)
  | getPod (name : String)
  | listVMPods (vmUID : UID)
  | listPods
  | createPod (pod : PodTemplate)
  | deletePod (name : String) (cause : Cause)
  -- helpers of the controller
  | generateName (base : String)
  | buildVMPod (vm : VM)
  | isReady (volume : Volume)
  | isBlock (volume : Volume)
  | rangeMap (entries : List VolumeStatus)
  -- the node of a daemon
  | vmInfo (pod : UID)
  | hypervisor (pod : UID) (call : HypervisorCall) (account : Account)
  | loadVmConfig (pod : UID)
  | getPIDBySocket (pod : UID)
  | setMemlock (pid bytes : Nat)
  | getControlBlock
  | setControlBlock (b : ControlBlock)
  | deleteControlBlock
  | withCancel
  | cancel (ctx : Nat)
  | waitSocket (pod : UID)
  | statReceiveSocket (pod : UID)
  | startReceive (pod : UID) (ctx : Nat)
  | waitReceiveSocket (pod : UID) (ch : Nat)
  | loadCACert
  | relayTCPToSocket (ctx : Nat) (pod : UID)
  | relaySocketToTCP (ctx : Nat) (pod : UID) (ip : String) (port : Nat) (migration : UID)
  | startSend (pod : UID) (source : String) (ctx : Nat) (migration : UID)
  | pollSend (ch : Nat)
  | getVMMountRecord
  | mountVolume (volume : String) (block : Bool) (vmPodUID volumePodUID : UID)
  | umountHotplugVolumes (keep : List String)
  | umountAllHotplugVolumes
  deriving DecidableEq

/-- What each call is answered with. -/
def Op.Ans : Op → Type
  | .getVM => Except ApiError VM
  | .updateVM _ => Except ApiError VM
  | .updateVMStatus _ => Except ApiError VM
  | .getVMM _ => Except ApiError VMM
  | .updateVMMStatus _ => Except ApiError Unit
  | .getPod _ => Except ApiError Pod
  | .listVMPods _ => Except ApiError (List Pod)
  | .listPods => Except ApiError (List Pod)
  | .createPod _ => Except ApiError Unit
  | .deletePod _ _ => Except ApiError Unit
  | .generateName _ => String
  | .buildVMPod _ => Except Err PodTemplate
  | .isReady _ => Except String Bool
  | .isBlock _ => Except String Bool
  | .rangeMap _ => List VolumeStatus
  | .vmInfo _ => Except String VmInfo
  | .hypervisor _ _ _ => Except String Unit
  | .loadVmConfig _ => Except VmConfigError VmConfig
  | .getPIDBySocket _ => Except String Nat
  | .setMemlock _ _ => Except String Unit
  | .getControlBlock => ControlBlock
  | .setControlBlock _ => Unit
  | .deleteControlBlock => Unit
  | .withCancel => Nat
  | .cancel _ => Unit
  | .waitSocket _ => Except String Unit
  | .statReceiveSocket _ => Except String Bool
  | .startReceive _ _ => Nat
  | .waitReceiveSocket _ _ => Except String Unit
  | .loadCACert => Except String Unit
  | .relayTCPToSocket _ _ => Except String Nat
  | .relaySocketToTCP _ _ _ _ _ => Except String Unit
  | .startSend _ _ _ _ => Nat
  | .pollSend _ => Option String
  | .getVMMountRecord => Except String Unit
  | .mountVolume _ _ _ _ => Except String Unit
  | .umountHotplugVolumes _ => Except String Unit
  | .umountAllHotplugVolumes => Except String Unit

/-- The signature of the reconcilers. -/
def api : Sig := ⟨Op, Op.Ans⟩

/-- Programs of the reconcilers. -/
abbrev Call (α : Type) := Prog api α

/-- Make one call. -/
def ask (o : Op) : Call o.Ans := Prog.call o Prog.pure

@[simp] theorem ask_bind {α : Type} (o : Op) (f : o.Ans → Call α) :
    (ask o).bind f = Prog.call o f := rfl

theorem only_ask {α : Type} {ok : Op → Prop} {o : Op} {f : o.Ans → Call α} (ho : ok o)
    (hf : ∀ a, (f a).Only ok) : (ask o >>= f).Only ok :=
  ⟨ho, hf⟩

/-! ### Views -/

/-- The side effect a daemon's run has had that only its status write will put
    on record: it has started the relay of a migration, issued the send,
    executed a power action, or thrown its control block away. -/
inductive Acted where
  | none | relayed | sent | powered | closed
  deriving DecidableEq, Repr

/-- What the current run of a process has been told and has done. -/
structure View where
  /-- The VM as last read or written. -/
  vm : Option VM := none
  /-- The VM was not found. -/
  gone : Bool := false
  /-- The migration as its worker read it. -/
  vmm : Option VMM := none
  /-- The pod that was last got. -/
  pod : Option Pod := none
  /-- The VM pods that were last listed. -/
  pods : Option (List Pod) := none
  /-- The pod name that was drawn. -/
  drawn : Option String := none
  /-- The control block as it was read. -/
  block : Option ControlBlock := none
  /-- The control block as it was stored. -/
  saved : Option ControlBlock := none
  /-- The error channel of the send that was issued. -/
  channel : Option Nat := none
  /-- The error channel that an error has come from. -/
  failed : Option Nat := none
  acted : Acted := .none

/-! ### The World -/

/-- The store, the node memories, the views and the bookkeeping. -/
structure World where
  /-- The virtual machine, until it is removed. -/
  vm : Option VM
  /-- The pods of the namespace. -/
  pods : List Pod := []
  /-- The migrations that name the virtual machine. -/
  vmms : List VMM := []
  /-- The clock of the API server. -/
  now : Nat := 0
  /-- `migrationControlBlocks[vm.UID]` of the daemon on each node. -/
  memory : String → Option ControlBlock := fun _ => none
  /-- The `VmSendMigration` calls issued so far. -/
  sends : List Send := []
  /-- The views of the processes. -/
  views : Proc → View := fun _ => {}
  /-- Pods that are gone, as they were last. -/
  past : List Pod := []
  /-- Every pod name drawn so far. -/
  names : List String := []
  /-- Every UID given out so far. -/
  uids : List UID := []
  /-- The migrations a source relay was started for, one entry per start. -/
  relays : List UID := []
  /-- How often the VM has moved to `Pending`. -/
  incarnation : Nat := 0
  /-- The incarnation in which each pod was created. -/
  born : UID → Nat := fun _ => 0
  /-- The pod names the status has carried in this incarnation. -/
  podNames : List String := []
  /-- The current migration record has been `Scheduled`. -/
  reached : Bool := false
  /-- How many times `status.powerAction` was patched, -/
  patches : Nat := 0
  /-- and how many times to `PowerOn`. -/
  powerOns : Nat := 0
  /-- How often the VM has moved to `Failed`. -/
  failures : Nat := 0
  /-- How many hypervisor calls were made on account of a power action. -/
  powerCalls : Nat := 0

namespace World

/-! ### Looking Things Up -/

/-- The pod of that name. -/
def findPod (w : World) (name : String) : Option Pod :=
  w.pods.find? (·.name == name)

/-- The migration with that UID. -/
def findVMM (w : World) (u : UID) : Option VMM :=
  w.vmms.find? (·.uid == u)

/-! ### Pods -/

/-- Change every pod by `f`. -/
def mapPods (w : World) (f : Pod → Pod) : World :=
  { w with pods := w.pods.map f }

/-- Remove the pods of that name. -/
def removePod (w : World) (name : String) : World :=
  { w with
    pods := w.pods.filter (·.name != name)
    past := w.pods.filter (·.name == name) ++ w.past }

/-- Add a pod. -/
def addPod (w : World) (p : Pod) : World :=
  { w with
    pods := w.pods ++ [p]
    uids := p.uid :: w.uids
    born := setAt w.born p.uid w.incarnation }

/-- Note a send. -/
def addSend (w : World) (x : Send) : World := { w with sends := w.sends ++ [x] }

/-! ### Views -/

/-- The view of process `i` becomes `v`. -/
def see (w : World) (i : Proc) (v : View) : World := { w with views := setAt w.views i v }

/-- What process `i` was told of the VM. -/
def hold (w : World) (i : Proc) (held : Option VM) : World :=
  w.see i { w.views i with vm := held }

/-- Process `i` has issued its status write: nothing is pending any more. -/
def release (w : World) (i : Proc) (held : Option VM) : World :=
  w.see i { vm := held, vmm := (w.views i).vmm }

end World

/-! ### The Status of the VM -/

/-- The pod names a status carries. -/
def VMStatus.named (st : VMStatus) : List String :=
  st.vmPodName :: (st.migration.map (·.targetVMPodName)).toList

/-- A status write that moves the VM to `Pending`. -/
def movesToPending (old new : VMStatus) : Prop :=
  new.phase = .pending ∧ old.phase ≠ .pending

instance (old new : VMStatus) : Decidable (movesToPending old new) :=
  inferInstanceAs (Decidable (_ ∧ _))

/-- A status write that moves the VM to `Failed`. -/
def movesToFailed (old new : VMStatus) : Prop :=
  new.phase = .failed ∧ old.phase ≠ .failed

instance (old new : VMStatus) : Decidable (movesToFailed old new) :=
  inferInstanceAs (Decidable (_ ∧ _))

/-- Whether the record in the new status has been `Scheduled`, given whether
    the old one had. -/
def reachedScheduled (before : Bool) (new : VMStatus) : Bool :=
  match new.migration with
  | none => false
  | some m =>
      match m.phase with
      | .empty | .pending | .scheduling => false
      | .scheduled | .targetReady | .running | .sent | .succeeded => true
      | .failed => before

namespace World

/-- The stored VM `cur` gets a new status. -/
def commit (w : World) (cur : VM) (st : VMStatus) : World :=
  { w with
    vm := some { cur with status := st, resourceVersion := cur.resourceVersion + 1 }
    incarnation := if movesToPending cur.status st then w.incarnation + 1 else w.incarnation
    failures := if movesToFailed cur.status st then w.failures + 1 else w.failures
    podNames := st.named ++ (if movesToPending cur.status st then [] else w.podNames)
    reached := reachedScheduled w.reached st }

/-- The stored VM becomes `v` with a new version, its status unchanged. -/
def replace (w : World) (v : VM) : World :=
  { w with vm := some { v with resourceVersion := v.resourceVersion + 1 } }

/-- The stored migration `u` gets a new status. -/
def commitVMM (w : World) (u : UID) (st : VMMStatus) : World :=
  { w with
    vmms := w.vmms.map (fun x =>
      if x.uid = u then { x with status := st, resourceVersion := x.resourceVersion + 1 } else x) }

end World

end Virtink
