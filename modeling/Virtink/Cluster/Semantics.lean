import Virtink.Cluster.World

/-! # What Calls and Events Do

    An answer is settled by the store and by a `Choice` of the environment:
    whether a request fails (before or after it was applied), whether a
    deleted pod goes at once or stays for its grace period, which name is
    drawn, what a hypervisor reports. Reads return the current store. A write
    of the VM or of a migration is refused with a conflict unless it carries
    the current resource version, and a write that changes nothing leaves the
    version alone.
-/

namespace Virtink

open Calls

/-- The choices of the environment that settle an answer. -/
inductive Choice where
  /-- The request succeeds. -/
  | ok
  /-- The request fails; it may have been applied all the same. -/
  | fail (applied : Bool) (msg : String)
  /-- A deleted pod disappears at once. -/
  | gone
  /-- What the name generator draws. -/
  | name (s : String)
  /-- The UID of a created pod, what is appended to a generated name, the
      volumes the server adds, and an error the caller sees all the same. -/
  | create (uid : UID) (suffix : String) (extra : List PodVolume) (lost : Option String)
  | flag (b : Bool)
  | requeue (after : Nat)
  | template (t : PodTemplate)
  | pods (l : List Pod)
  | order (l : List VolumeStatus)
  | info (i : VmInfo)
  | config (c : VmConfig)
  | notExist
  | num (n : Nat)

/-! ### Answers -/

namespace Choice

/-- The outcome of a request without a result. -/
def unit : Choice → Except String Unit
  | .fail _ msg => .error msg
  | _ => .ok ()

/-- The outcome of a request for a flag. -/
def askFlag : Choice → Option (Except String Bool)
  | .flag b => some (.ok b)
  | .fail _ msg => some (.error msg)
  | _ => none

/-- The outcome of a request for a number. -/
def askNum : Choice → Option (Except String Nat)
  | .num n => some (.ok n)
  | .fail _ msg => some (.error msg)
  | _ => none

/-- The outcome of listing `l`: the pods come in any order. -/
def askPods (l : List Pod) : Choice → Option (Except ApiError (List Pod))
  | .pods l' => if l'.isPerm l then some (.ok l') else none
  | .fail _ msg => some (.error (.other msg))
  | _ => some (.ok l)

end Choice

namespace World

/-- The world after the stored VM `cur` got the status `st`. -/
def putStatus (w : World) (cur : VM) (st : VMStatus) : World :=
  if cur.status = st then w else w.commit cur st

/-- What the writer of a status gets back. -/
def withStatus (cur : VM) (st : VMStatus) : VM :=
  if cur.status = st then cur
  else { cur with status := st, resourceVersion := cur.resourceVersion + 1 }

/-- A status write by process `i`. The process is told the outcome unless the
    reply is lost. -/
def updateStatus (w : World) (i : Proc) (v : VM) (ch : Choice) : Except ApiError VM × World :=
  match w.vm with
  | none => (.error .notFound, w.release i none)
  | some cur =>
      if v.resourceVersion ≠ cur.resourceVersion then
        (.error .conflict, w.release i none)
      else
        match ch with
        | .fail false msg => (.error (.other msg), w.release i none)
        | .fail true msg =>
            (.error (.other msg), (w.putStatus cur v.status).release i none)
        | _ =>
            (.ok (withStatus cur v.status),
              (w.putStatus cur v.status).release i (some (withStatus cur v.status)))

/-- The VM after its finalizers were written: a VM that is being deleted goes
    with its last finalizer. -/
def putFinalizers (w : World) (cur : VM) (fs : List String) : World :=
  if cur.finalizers = fs then w
  else if cur.deletionTimestamp.isSome ∧ fs = [] then { w with vm := none }
  else w.replace { cur with finalizers := fs }

/-- What the writer of finalizers gets back. -/
def withFinalizers (cur : VM) (fs : List String) : VM :=
  if cur.finalizers = fs then cur
  else { cur with finalizers := fs, resourceVersion := cur.resourceVersion + 1 }

/-- A write of the finalizers by process `i`. -/
def updateFinalizers (w : World) (i : Proc) (v : VM) (ch : Choice) : Except ApiError VM × World :=
  match w.vm with
  | none => (.error .notFound, w)
  | some cur =>
      if v.resourceVersion ≠ cur.resourceVersion then (.error .conflict, w)
      else
        match ch with
        | .fail false msg => (.error (.other msg), w)
        | .fail true msg => (.error (.other msg), w.putFinalizers cur v.finalizers)
        | _ =>
            (.ok (withFinalizers cur v.finalizers),
              (w.putFinalizers cur v.finalizers).hold i
                (some (withFinalizers cur v.finalizers)))

/-- The migration `cur` after its status was written. -/
def putVMM (w : World) (cur : VMM) (st : VMMStatus) : World :=
  if cur.status = st then w else w.commitVMM cur.uid st

/-- A status write of a migration, with which the run of its worker is over. -/
def updateVMM (w : World) (i : Proc) (m : VMM) (ch : Choice) : Except ApiError Unit × World :=
  match w.findVMM m.uid with
  | none => (.error .notFound, w.see i {})
  | some cur =>
      if m.resourceVersion ≠ cur.resourceVersion then (.error .conflict, w.see i {})
      else
        match ch with
        | .fail false msg => (.error (.other msg), w.see i {})
        | .fail true msg => (.error (.other msg), (w.putVMM cur m.status).see i {})
        | _ => (.ok (), (w.putVMM cur m.status).see i {})

/-- The pod a template becomes. -/
def podOf (w : World) (t : PodTemplate) (uid : UID) (suffix : String)
    (extra : List PodVolume) : Pod :=
  { name := if t.name = "" then t.generateName ++ suffix else t.name
    uid := uid
    controller := t.controller
    creationTimestamp := w.now
    volumes := t.volumes ++ extra }

/-- Creating a pod: names are unique, and UIDs are never used twice. -/
def createPod (w : World) (t : PodTemplate) : Choice → Option (Except ApiError Unit × World)
  | .fail _ msg => some (.error (.other msg), w)
  | .create uid suffix extra lost =>
      let p := w.podOf t uid suffix extra
      if uid ∈ w.uids then none
      else if (w.findPod p.name).isSome then some (.error .alreadyExists, w)
      else
        match lost with
        | some msg => some (.error (.other msg), w.addPod p)
        | none => some (.ok (), w.addPod p)
  | _ => none

/-- Set the deletion timestamp of a pod of that name. -/
def markedAt (now : Nat) (name : String) (p : Pod) : Pod :=
  if p.name = name ∧ p.deletionTimestamp = none then { p with deletionTimestamp := some now } else p

/-- Deleting a pod by name. -/
def deletePod (w : World) (name : String) (ch : Choice) : Except ApiError Unit × World :=
  match w.findPod name with
  | none => (.error .notFound, w)
  | some _ =>
      match ch with
      | .fail false msg => (.error (.other msg), w)
      | .fail true msg => (.error (.other msg), w.mapPods (markedAt w.now name))
      | .gone => (.ok (), w.removePod name)
      | _ => (.ok (), w.mapPods (markedAt w.now name))

/-- A call that only a daemon can make. -/
def onNode {α : Type} (i : Proc) (f : String → Option α) : Option α :=
  match i with
  | .daemon n => f n
  | _ => none

/-- The answer of a call and the world it leaves. -/
def answer (i : Proc) (o : Op) (ch : Choice) (w : World) : Option (o.Ans × World) :=
  match o with
  | .getVM =>
      match ch with
      | .fail _ msg => some (.error (.other msg), w)
      | _ =>
          match w.vm with
          | none => some (.error .notFound, w.see i { w.views i with gone := true })
          | some v => some (.ok v, w.hold i (some v))
  | .updateVM v => some (w.updateFinalizers i v ch)
  | .updateVMStatus v => some (w.updateStatus i v ch)
  | .getVMM u =>
      match ch with
      | .fail _ msg => some (.error (.other msg), w)
      | _ =>
          match w.findVMM u with
          | none => some (.error .notFound, w)
          | some m => some (.ok m, w.see i { w.views i with vmm := some m })
  | .updateVMMStatus m => some (w.updateVMM i m ch)
  | .getPod name =>
      match ch with
      | .fail _ msg => some (.error (.other msg), w)
      | _ =>
          match w.findPod name with
          | none => some (.error .notFound, w)
          | some p => some (.ok p, w.see i { w.views i with pod := some p })
  | .listVMPods uid =>
      match ch.askPods (w.pods.filter (·.vmUID == some uid)) with
      | some (.ok l) => some (.ok l, w.see i { w.views i with pods := some l })
      | some (.error e) => some (.error e, w)
      | none => none
  | .listPods => (ch.askPods w.pods).map (·, w)
  | .createPod t => w.createPod t ch
  | .deletePod name _ => some (w.deletePod name ch)
  | .generateName _ =>
      match ch with
      | .name s =>
          if s = "" then none
          else some (s, { w with names := s :: w.names }.see i { w.views i with drawn := some s })
      | _ => none
  | .buildVMPod _ =>
      match ch with
      | .template t => some (.ok t, w)
      | .requeue after => some (.error (.requeue after), w)
      | .fail _ msg => some (.error (.other msg), w)
      | _ => none
  | .isReady _ => ch.askFlag.map (·, w)
  | .isBlock _ => ch.askFlag.map (·, w)
  | .rangeMap entries =>
      match ch with
      | .order l => if l.isPerm entries then some (l, w) else none
      | _ => some (entries, w)
  | .vmInfo _ =>
      match ch with
      | .info i => some (.ok i, w)
      | .fail _ msg => some (.error msg, w)
      | _ => none
  | .hypervisor _ _ account =>
      onNode i (fun _ =>
        match account with
        | .lifecycle => some (ch.unit, w)
        | .powerAction =>
            some (ch.unit, { w with powerCalls := w.powerCalls + 1 }.see i
              { w.views i with acted := .powered }))
  | .loadVmConfig _ =>
      match ch with
      | .config c => some (.ok c, w)
      | .notExist => some (.error .notExist, w)
      | .fail _ msg => some (.error (.other msg), w)
      | _ => none
  | .getPIDBySocket _ => ch.askNum.map (·, w)
  | .setMemlock _ _ => some (ch.unit, w)
  | .getControlBlock =>
      onNode i (fun n =>
        some ((w.memory n).getD {},
          w.see i { w.views i with block := some ((w.memory n).getD {}) }))
  | .setControlBlock b =>
      onNode i (fun n =>
        some ((), { w with memory := setAt w.memory n (some b) }.see i
          { w.views i with saved := some b }))
  | .deleteControlBlock =>
      onNode i (fun n =>
        some ((), { w with memory := setAt w.memory n none }.see i
          { w.views i with saved := none, acted := .closed }))
  | .withCancel =>
      match ch with
      | .num n => some (n, w)
      | _ => none
  | .cancel _ => some ((), w)
  | .waitSocket _ => some (ch.unit, w)
  | .statReceiveSocket _ => ch.askFlag.map (·, w)
  | .startReceive _ _ =>
      match ch with
      | .num n => some (n, w)
      | _ => none
  | .waitReceiveSocket _ _ => some (ch.unit, w)
  | .loadCACert => some (ch.unit, w)
  | .relayTCPToSocket _ _ => ch.askNum.map (·, w)
  | .relaySocketToTCP _ _ _ _ u =>
      onNode i (fun _ =>
        match ch with
        | .fail _ msg => some (.error msg, w)
        | _ => some (.ok (), { w with relays := u :: w.relays }.see i
            { w.views i with acted := .relayed }))
  | .startSend pod source _ u =>
      onNode i (fun _ =>
        some (w.sends.length,
          (w.addSend { migration := u, source := source, pod := pod }).see i
            { w.views i with acted := .sent, channel := some w.sends.length }))
  | .pollSend k =>
      match ch with
      | .fail _ msg =>
          if (w.sends[k]?).any (·.state == .failed) then
            some (some msg, w.see i { w.views i with failed := some k })
          else none
      | _ => some (none, w)
  | .getVMMountRecord => some (ch.unit, w)
  | .mountVolume _ _ _ _ => some (ch.unit, w)
  | .umountHotplugVolumes _ => some (ch.unit, w)
  | .umountAllHotplugVolumes => some (ch.unit, w)

end World

/-! ### Events -/

/-- What happens in the cluster beside the reconcilers. -/
inductive Event where
  /-- The scheduler binds a pod to a node. -/
  | bindPod (uid : UID) (node : String)
  /-- The kubelet reports a phase. -/
  | setPodPhase (uid : UID) (phase : PodPhase)
  | setPodConditions (uid : UID) (conditions : List Condition)
  /-- Somebody asks for a pod to be deleted. -/
  | deletePod (name : String)
  /-- A pod is gone. -/
  | removePod (name : String)
  /-- Somebody else creates a pod. -/
  | createPod (pod : Pod)
  | tick
  /-- A user asks for a power action. -/
  | patchPowerAction (action : PowerAction)
  | deleteVM
  | updateSpec (spec : VMSpec)
  /-- Any other write of the VM: labels, annotations. -/
  | touchVM
  | createVMM (uid : UID)
  | deleteVMM (uid : UID)
  /-- A migration is gone. -/
  | removeVMM (uid : UID)
  /-- A send completes: the guest runs in the target pod. -/
  | completeSend (k : Nat)
  | failSend (k : Nat)

/-- `Succeeded` and `Failed` are final. -/
def PodPhase.terminal : PodPhase → Bool
  | .succeeded | .failed => true
  | _ => false

namespace Pod

/-- The pod bound to a node; a pod is bound once. -/
def bindTo (p : Pod) (node : String) : Pod :=
  if h : p.nodeName = "" then
    { p with nodeName := node, bound := fun hp => absurd h (p.bound hp) }
  else p

/-- The pod in the reported phase, if it can be: only a bound pod runs. -/
def report (p : Pod) (phase : PodPhase) : Pod :=
  if h : p.phase.terminal = false ∧ (phase = .running → p.nodeName ≠ "") then
    { p with phase := phase, bound := h.2 }
  else p

/-- The pod after its hypervisor has handed the guest over. -/
def handOver (p : Pod) : Pod :=
  if p.phase = .failed then p else { p with phase := .succeeded, bound := nofun }

end Pod

namespace World

/-- Change the pod with that UID. -/
def onPod (w : World) (uid : UID) (f : Pod → Pod) : World :=
  w.mapPods (fun p => if p.uid = uid then f p else p)

/-- Change the state of a send that is under way. -/
def endSend (w : World) (k : Nat) (st : SendState) : World :=
  { w with sends := w.sends.modify k (fun x =>
      if x.state = .running then { x with state := st } else x) }

/-- What an event does. A pod created by somebody else is not controlled by
    the VM. -/
def event (e : Event) (w : World) : Option World :=
  match e with
  | .bindPod uid node => some (w.onPod uid (·.bindTo node))
  | .setPodPhase uid phase => some (w.onPod uid (·.report phase))
  | .setPodConditions uid conditions =>
      some (w.onPod uid (fun p => { p with conditions := conditions }))
  | .deletePod name => some (w.mapPods (markedAt w.now name))
  | .removePod name => some (w.removePod name)
  | .createPod p =>
      if p.uid ∈ w.uids ∨ (w.findPod p.name).isSome ∨ w.vm.any (p.isControlledBy ·) then none
      else some (w.addPod p)
  | .tick => some { w with now := w.now + 1 }
  | .patchPowerAction action =>
      w.vm.map (fun cur =>
        { w.putStatus cur { cur.status with powerAction := action } with
          patches := w.patches + 1
          powerOns := if action = .powerOn then w.powerOns + 1 else w.powerOns })
  | .deleteVM =>
      w.vm.map (fun cur =>
        if cur.finalizers = [] then { w with vm := none }
        else if cur.deletionTimestamp.isSome then w
        else w.replace { cur with deletionTimestamp := some w.now })
  | .updateSpec spec => w.vm.map (fun cur => w.replace { cur with spec := spec })
  | .touchVM => w.vm.map (fun cur => w.replace cur)
  | .createVMM uid =>
      if uid ∈ w.uids then none
      else some { w with vmms := w.vmms ++ [{ uid := uid }], uids := uid :: w.uids }
  | .deleteVMM uid =>
      some { w with vmms := w.vmms.map (fun x =>
        if x.uid = uid ∧ x.deletionTimestamp = none then
          { x with
            deletionTimestamp := some w.now
            resourceVersion := x.resourceVersion + 1 } else x) }
  | .removeVMM uid => some { w with vmms := w.vmms.filter (·.uid != uid) }
  | .completeSend k =>
      (w.sends[k]?).bind (fun x =>
        if x.state = .running then
          some ((w.endSend k .completed).onPod x.pod (·.handOver))
        else none)
  | .failSend k => some (w.endSend k .failed)

/-! ### Beginning, Ending and Losing a Run -/

/-- A process begins or ends a run: its view is fresh. -/
def enter (i : Proc) (w : World) : World := w.see i {}

/-- A process is restarted; a daemon loses its control blocks. -/
def crash (i : Proc) (w : World) : World :=
  match i with
  | .daemon n => { w with memory := setAt w.memory n none }.see i {}
  | _ => w.see i {}

end World

end Virtink
