import Virtink.System

/-! # What Each Process May Do

    The contract of the reconcilers, in terms of their views: which status
    each may write given what it has read, when the controller creates a pod,
    when a migration changes its own phase, and when a daemon touches a
    hypervisor, a relay or its control block. `Kept` is proved program by
    program in the modules that follow.

    Conditions and the volume status play no part in any of this; `core` is
    the status without them.
-/

namespace Virtink

open Calls

/-- The status without conditions and volume status. -/
def VMStatus.core (st : VMStatus) : VMStatus := { st with conditions := [], volumeStatus := [] }

section core
variable {st x : VMStatus} (h : st.core = x)
include h

theorem VMStatus.phase_of_core : st.phase = x.phase := by subst h; rfl

theorem VMStatus.vmPodName_of_core : st.vmPodName = x.vmPodName := by subst h; rfl

theorem VMStatus.vmPodUID_of_core : st.vmPodUID = x.vmPodUID := by subst h; rfl

theorem VMStatus.nodeName_of_core : st.nodeName = x.nodeName := by subst h; rfl

theorem VMStatus.migration_of_core : st.migration = x.migration := by subst h; rfl

theorem VMStatus.powerAction_of_core : st.powerAction = x.powerAction := by subst h; rfl

end core

/-! ### The VM Controller -/

/-- Some volume of the VM can be plugged in while it runs. -/
def VM.hasHotplug (vm : VM) : Bool := vm.spec.volumes.any (·.isHotpluggable)

/-- There is no VM pod or target pod still to be made for the VM, and no volume
    pod to be kept up. -/
def VM.settled (vm : VM) : Bool :=
  match vm.status.phase with
  | .scheduling => false
  | .scheduled => !vm.hasHotplug
  | .running =>
      match vm.status.migration with
      | none => !vm.hasHotplug
      | some m => m.phase != .scheduling
  | _ => true

/-- The template has the directory and the claims of hotpluggable volumes of
    the spec. -/
def BuiltFrom (spec : VMSpec) (t : PodTemplate) : Prop :=
  ∃ volumes : List Volume, volumes.Sublist (spec.volumes.filter Volume.isHotpluggable) ∧
    t.volumes = { name := "hotplug" } :: volumes.map Volume.asClaim

/-- The phases a VM can be in after its pod `p` was seen in `Scheduling` or
    `Scheduled`. -/
inductive PodSeen (old : VMPhase) (p : Pod) : VMPhase → Prop where
  | same : PodSeen old p old
  | scheduled : old = .scheduling → p.phase = .running → PodSeen old p .scheduled
  | succeeded : PodSeen old p .succeeded
  | failed : PodSeen old p .failed
  | unknown : PodSeen old p .unknown

/-- The phases a migration can be in after its target pod `p` was seen. -/
inductive TargetSeen (p : Pod) : MigrationPhase → Prop where
  | same : TargetSeen p .scheduling
  | failed : TargetSeen p .failed
  | scheduled : p.phase = .running → TargetSeen p .scheduled

/-- The status writes of the VM controller, which has read `r`. -/
inductive CtrlWrite (v : View) (r : VM) (st : VMStatus) : Prop where
  | same (h : st.core = r.status.core)
  /-- A pod name was drawn. -/
  | name (s : String) (hphase : r.status.phase = .pending) (hs : v.drawn = some s)
      (h : st.core = { r.status.core with vmPodName := s, phase := .scheduling })
  /-- The VM pod was seen. -/
  | pod (p : Pod) (ph : VMPhase)
      (hphase : r.status.phase = .scheduling ∨ r.status.phase = .scheduled)
      (hp : v.pod = some p) (hname : p.name = r.status.vmPodName)
      (hown : p.isControlledBy r = true) (hph : PodSeen r.status.phase p ph)
      (h : st.core = { r.status.core with
        vmPodUID := p.uid, nodeName := p.nodeName, phase := ph })
  /-- The VM pod was lost before the guest ran. -/
  | lost (hphase : r.status.phase = .scheduled)
      (h : st.core = { r.status.core with phase := .failed })
  /-- The VM pod of a running guest ended or was lost. -/
  | stop (ph : VMPhase) (hphase : r.status.phase = .running)
      (hph : ph = .failed ∨ ph = .unknown ∨ (ph = .succeeded ∧ r.status.migration = none))
      (h : st.core = { r.status.core with phase := ph })
  /-- A name for the target pod was drawn. -/
  | target (m : Migration) (s : String) (hphase : r.status.phase = .running)
      (hm : r.status.migration = some m) (hmp : m.phase = .empty ∨ m.phase = .pending)
      (hs : v.drawn = some s)
      (h : st.core = { r.status.core with
        migration := some { m with targetVMPodName := s, phase := .scheduling } })
  /-- The target pod was seen. -/
  | targetPod (m : Migration) (p : Pod) (volumePod : UID) (ph : MigrationPhase)
      (hphase : r.status.phase = .running) (hm : r.status.migration = some m)
      (hmp : m.phase = .scheduling) (hp : v.pod = some p) (hname : p.name = m.targetVMPodName)
      (hown : p.isControlledBy r = true) (hph : TargetSeen p ph)
      (h : st.core = { r.status.core with migration := some { m with
        targetVMPodUID := p.uid, targetNodeName := p.nodeName
        targetVolumePodUID := volumePod, phase := ph } })
  /-- The VM pods are gone and the whole status is reset. -/
  | reset (ph : VMPhase)
      (hphase : r.status.phase = .empty ∨ r.status.phase = .succeeded ∨ r.status.phase = .failed)
      (hnone : v.pods = some [])
      (hph : ph = r.status.phase ∨ (ph = .pending ∧ VMController.shouldRun r = true))
      (h : st = { phase := ph })

/-- VM pods may be left: the controller has not seen that there are none, after
    which it resets the status, and has seen some if the VM is being deleted. -/
def PodsLeft (v : View) (r : VM) : Prop :=
  v.pods ≠ some [] ∧ (r.deletionTimestamp ≠ none → v.pods ≠ none)

/-- The pods the VM controller creates, having read `r`. -/
inductive CtrlCreate (v : View) (r : VM) (t : PodTemplate) : Prop where
  | vmPod (hphase : r.status.phase = .scheduling) (hpods : PodsLeft v r)
      (hpod : ∀ p, v.pod = some p → p.isControlledBy r = false)
      (hname : t.name = r.status.vmPodName) (hown : t.controller = some ⟨.virtualMachine, r.uid⟩)
  | target (m : Migration) (hphase : r.status.phase = .running) (hpods : v.pods ≠ some [])
      (hm : r.status.migration = some m) (hmp : m.phase = .scheduling)
      (hname : t.name = m.targetVMPodName) (hown : t.controller = some ⟨.virtualMachine, r.uid⟩)
  | volumePod (p : Pod) (hp : v.pod = some p) (hvm : p.isControlledBy r = true)
      (hset : r.settled = false) (hbuilt : BuiltFrom r.spec t)
      (hown : t.controller = some ⟨.pod, p.uid⟩)

/-! ### The Migration Controller -/

/-- The status writes of migration `u` on the VM, which it has read as `r`. -/
inductive VmmWrite (u : UID) (v : View) (r : VM) (st : VMStatus) : Prop where
  | release (x : VMM) (m : Migration) (hx : v.vmm = some x) (hu : x.uid = u)
      (hterm : x.status.phase.terminal = true) (hdel : r.deletionTimestamp = none)
      (hm : r.status.migration = some m) (huid : m.uid = u)
      (h : st = { r.status with migration := none })
  | acquire (x : VMM) (hx : v.vmm = some x) (hu : x.uid = u)
      (hterm : x.status.phase.terminal = false) (hdel : r.deletionTimestamp = none)
      (hm : r.status.migration = none)
      (h : st = { r.status with migration := some { uid := u } })

/-- Migration `u`, read as `x` and still active, has found the record of the VM
    taken by another migration. -/
def FoundForeign (u : UID) (v : View) (x : VMM) : Prop :=
  v.vmm = some x ∧ x.status.phase.terminal = false ∧
    ∃ r m, v.vm = some r ∧ r.status.migration = some m ∧ m.uid ≠ u

/-- The phases migration `u`, read as `x`, gives itself. -/
inductive VmmPhase (u : UID) (v : View) (x : VMM) : MigrationPhase → Prop where
  | same (hown : ¬ FoundForeign u v x) : VmmPhase u v x x.status.phase
  /-- The VM is gone. -/
  | gone (hterm : x.status.phase.terminal = false) (hgone : v.gone = true) :
      VmmPhase u v x .failed
  /-- The VM is going. -/
  | deleting (r : VM) (hterm : x.status.phase.terminal = false) (hr : v.vm = some r)
      (hdel : r.deletionTimestamp ≠ none) : VmmPhase u v x .failed
  /-- Another migration holds the record. -/
  | foreign (r : VM) (m : Migration) (hterm : x.status.phase.terminal = false)
      (hr : v.vm = some r) (hdel : r.deletionTimestamp = none)
      (hm : r.status.migration = some m) (huid : m.uid ≠ u) : VmmPhase u v x .failed
  /-- The phase of its own record. -/
  | copy (r : VM) (m : Migration) (hterm : x.status.phase.terminal = false)
      (hr : v.vm = some r) (hdel : r.deletionTimestamp = none)
      (hm : r.status.migration = some m) (huid : m.uid = u) : VmmPhase u v x m.phase

/-! ### The Daemons -/

/-- The daemon of node `n` takes part in what happens to the VM `r`, which is
    not being deleted. -/
inductive Acts (n : String) (r : VM) : Prop where
  | scheduled (hdel : r.deletionTimestamp = none) (hphase : r.status.phase = .scheduled)
      (hshould : VMDaemon.shouldReconcile n r = true)
  | running (hdel : r.deletionTimestamp = none) (hphase : r.status.phase = .running)
      (hm : r.status.migration = none) (hnode : r.status.nodeName = n)
  | target (m : Migration) (hdel : r.deletionTimestamp = none)
      (hphase : r.status.phase = .running) (hm : r.status.migration = some m)
      (hmp : m.phase = .scheduled ∨ m.phase = .sent) (hnode : m.targetNodeName = n)
  | source (m : Migration) (hdel : r.deletionTimestamp = none)
      (hphase : r.status.phase = .running) (hm : r.status.migration = some m)
      (hmp : m.phase = .targetReady ∨ m.phase = .running) (hnode : r.status.nodeName = n)

/-- The daemon of node `n` lets the hypervisor of a VM go that is being
    deleted. -/
def Buries (n : String) (r : VM) : Prop :=
  r.deletionTimestamp ≠ none ∧ r.status.nodeName = n

/-- The daemon has no channel to hear from, or has heard that the send failed. -/
def SendLost (v : View) : Prop :=
  ∃ b, v.block = some b ∧
    (b.sendMigrationErrCh = none ∨ ∃ k, b.sendMigrationErrCh = some k ∧ v.failed = some k)

/-- The source pod of the VM `r` was seen to have ended well. -/
def SourceEnded (v : View) (r : VM) : Prop :=
  ∃ p, v.pod = some p ∧ p.name = r.status.vmPodName ∧ p.phase = .succeeded

/-- The status writes of the daemon on node `n`, which has read `r`. -/
inductive DaemonWrite (n : String) (v : View) (r : VM) (st : VMStatus) : Prop where
  | same (h : st = r.status)
  /-- The volume status only. -/
  | volumes (hacts : Acts n r) (h : st.core = r.status.core)
  | bury (hb : Buries n r) (h : st = { r.status with phase := .succeeded })
  | boot (ph : VMPhase) (hacts : Acts n r) (hphase : r.status.phase = .scheduled)
      (hph : ph = .running ∨ ph = .failed) (h : st.core = { r.status.core with phase := ph })
  | power (hacts : Acts n r) (hphase : r.status.phase = .running)
      (hm : r.status.migration = none)
      (h : st = { r.status with powerAction := .empty })
  | stop (hacts : Acts n r) (hphase : r.status.phase = .running)
      (hm : r.status.migration = none) (h : st = { r.status with phase := .succeeded })
  /-- The target is ready, or it is not. -/
  | target (m : Migration) (ip : String) (port : Nat) (ph : MigrationPhase) (hacts : Acts n r)
      (hphase : r.status.phase = .running) (hm : r.status.migration = some m)
      (hmp : m.phase = .scheduled) (hph : ph = .targetReady ∨ ph = .failed)
      (h : st.core = { r.status.core with migration := some { m with
        targetNodeIP := ip, targetNodePort := port, phase := ph } })
  /-- The send was issued and its channel stored. -/
  | send (m : Migration) (k : Nat) (b : ControlBlock) (hacts : Acts n r)
      (hphase : r.status.phase = .running)
      (hm : r.status.migration = some m) (hmp : m.phase = .targetReady)
      (hacted : v.acted = .sent) (hchan : v.channel = some k) (hsaved : v.saved = some b)
      (hb : b.sendMigrationErrCh = some k)
      (h : st = { r.status with migration := some { m with phase := .running } })
  | sent (m : Migration) (hacts : Acts n r) (hphase : r.status.phase = .running)
      (hm : r.status.migration = some m)
      (hmp : m.phase = .running) (hended : SourceEnded v r)
      (h : st = { r.status with migration := some { m with phase := .sent } })
  | lost (m : Migration) (hacts : Acts n r) (hphase : r.status.phase = .running)
      (hm : r.status.migration = some m)
      (hmp : m.phase = .running) (hlost : SendLost v)
      (h : st = { r.status with migration := some { m with phase := .failed } })
  | arrive (m : Migration) (hacts : Acts n r) (hphase : r.status.phase = .running)
      (hm : r.status.migration = some m)
      (hmp : m.phase = .sent) (h : st = (VMDaemon.arrived r m).status)

/-- What a daemon has done before its status write is what the write records. -/
def Recorded (v : View) (r : VM) (st : VMStatus) : Prop :=
  match v.acted with
  | .none => True
  | .relayed => False
  | .sent => ∃ m, r.status.migration = some m ∧ m.phase = .targetReady ∧
      st = { r.status with migration := some { m with phase := .running } }
  | .powered => st = { r.status with powerAction := .empty }
  | .closed => ∃ m, st.migration = some m ∧ (m.phase.terminal = true ∨ m.phase = .sent)

/-- The daemon on node `n` may throw its control block away. -/
inductive Closing (n : String) (v : View) (r : VM) : Prop where
  | ended (m : Migration) (hm : r.status.migration = some m) (hmp : m.phase.terminal = true)
      (hacted : v.acted = .none ∨ v.acted = .closed)
  | source (m : Migration) (hacts : Acts n r) (hphase : r.status.phase = .running)
      (hm : r.status.migration = some m) (hmp : m.phase = .running)
      (hacted : v.acted = .none) (h : SourceEnded v r ∨ SendLost v)
  | sent (m : Migration) (hm : r.status.migration = some m) (hmp : m.phase = .sent)
      (hacted : v.acted = .none)

/-- The daemon on node `n` is about to send the guest of `r`, for migration `u`. -/
def Sending (n : String) (r : VM) (u : UID) : Prop :=
  ∃ m, Acts n r ∧ r.status.phase = .running ∧ r.status.migration = some m ∧
    m.phase = .targetReady ∧ m.uid = u

/-! ### The Contract -/

/-- The status writes a process may issue, having read `r`. -/
def Write : Proc → View → VM → VMStatus → Prop
  | .controller, v, r, st => CtrlWrite v r st
  | .vmm u, v, r, st => VmmWrite u v r st
  | .daemon n, v, r, st => DaemonWrite n v r st ∧ Recorded v r st

/-- Which calls a process may make. -/
def guard (i : Proc) (o : Op) (v : View) : Prop :=
  match o, i with
  | .getVM, .controller => v.pod = none ∧ v.pods = none
  | .getVM, .vmm _ => v.vm = none
  | .getVM, .daemon _ => v = {}
  | .updateVM x, .controller => v.pod = none ∧ (∀ l, v.pods = some l → l = []) ∧
      (VMController.VMProtectionFinalizer ∈ x.finalizers ∨ v.pods = some [])
  | .updateVM _, _ => False
  | .updateVMStatus x, i =>
      ∃ r, v.vm = some r ∧ x.resourceVersion = r.resourceVersion ∧ Write i v r x.status
  | .getVMM u, .vmm u' => u = u' ∧ v.vm = none
  | .getVMM _, _ => False
  | .updateVMMStatus m, .vmm u =>
      ∃ x, v.vmm = some x ∧ x.uid = u ∧ m.uid = u ∧
        m.resourceVersion = x.resourceVersion ∧ VmmPhase u v x m.status.phase
  | .updateVMMStatus _, _ => False
  | .listVMPods uid, .controller => ∃ r, v.vm = some r ∧ uid = r.uid
  | .listVMPods _, _ => False
  | .createPod t, .controller => ∃ r, v.vm = some r ∧ CtrlCreate v r t
  | .createPod _, _ => False
  | .deletePod name .garbage, .controller =>
      ∃ r l, v.vm = some r ∧ v.pods = some l ∧ (∃ p ∈ l, p.name = name) ∧ name ∉ r.status.named
  | .generateName _, .controller => True
  | .generateName _, _ => False
  | .vmInfo _, .daemon n => ∃ r, v.vm = some r ∧ Acts n r
  | .hypervisor _ _ .lifecycle, .daemon n => ∃ r, v.vm = some r ∧ (Acts n r ∨ Buries n r)
  | .hypervisor _ _ .powerAction, .daemon n =>
      ∃ r, v.vm = some r ∧ Acts n r ∧ r.status.phase = .running ∧ r.status.migration = none ∧
        r.status.powerAction ≠ .empty ∧ v.acted = .none
  | .startReceive _ _, .daemon n => ∃ r, v.vm = some r ∧ Acts n r
  | .relaySocketToTCP _ _ _ _ u, .daemon n =>
      ∃ r, v.vm = some r ∧ Sending n r u ∧ v.acted = .none
  | .startSend _ source _ u, .daemon n =>
      ∃ r, v.vm = some r ∧ Sending n r u ∧ source = r.status.vmPodName ∧ v.acted = .relayed
  | .getControlBlock, .daemon _ => v.block = none ∧ v.acted = .none
  | .setControlBlock b, .daemon _ =>
      ∃ b₀, v.block = some b₀ ∧
        b.sendMigrationErrCh = (v.channel <|> b₀.sendMigrationErrCh)
  | .deleteControlBlock, .daemon n => ∃ r, v.vm = some r ∧ Closing n v r
  | _, .vmm _ => False
  | _, _ => True

/-- When a process may stop: a daemon leaves nothing unrecorded, and a
    migration that has lost the VM to another says so. -/
def done : Proc → View → Prop
  | .controller, _ => True
  | .vmm u, v => ∀ x, ¬ FoundForeign u v x
  | .daemon _, v => v.acted = .none

/-- The contract of the reconcilers. -/
def contract (nodeIP : String → String) : Contract (views nodeIP) where
  guard := guard
  done := done

/-! ### Rules for Programs -/

section rules
variable {nodeIP : String → String} {i : Proc} {v : View} {α β : Type}

/-- **Asking**: the call is guarded, and whatever is seen leads on. -/
theorem wp_ask {o : Op} {f : o.Ans → Call α} {Q : α → View → Prop} (hg : guard i o v)
    (hk : ∀ a v', Contract.Sees (views nodeIP) i o v a v' → (contract nodeIP).wp i (f a) Q v') :
    (contract nodeIP).wp i (ask o >>= f) Q v :=
  ⟨hg, hk⟩

/-- **Asking** without learning anything that matters. -/
theorem wp_quiet {o : Op} {f : o.Ans → Call α} {Q : α → View → Prop} (hq : o.quiet = true)
    (hg : guard i o v) (hk : ∀ a, (contract nodeIP).wp i (f a) Q v) :
    (contract nodeIP).wp i (ask o >>= f) Q v :=
  wp_ask hg (fun a v' hs => by rw [sees_quiet hq hs]; exact hk a)

/-- A program that learns nothing that matters. -/
theorem wp_of_quiet {p : Call α} (hp : p.Only fun o : Op => o.quiet = true ∧ ∀ v, guard i o v) :
    (contract nodeIP).wp i p (fun _ v' => v' = v) v := by
  refine Contract.wp_of_only hp (fun o v' ho _ => ho.2 v') ?_ rfl
  rintro o v₁ a v₂ ho rfl hs
  exact sees_quiet ho.1 hs

/-- **Sequencing** two programs. -/
theorem wp_seq {p : Call α} {f : α → Call β} {Q : β → View → Prop}
    (h : (contract nodeIP).wp i p (fun a v => (contract nodeIP).wp i (f a) Q v) v) :
    (contract nodeIP).wp i (p >>= f) Q v :=
  Contract.wp_bind h

/-- **Sequencing** after a program whose specification is known. -/
theorem wp_seq_of {p : Call α} {f : α → Call β} {P : α → View → Prop} {Q : β → View → Prop}
    (h : (contract nodeIP).wp i p P v)
    (hf : ∀ a v', P a v' → (contract nodeIP).wp i (f a) Q v') :
    (contract nodeIP).wp i (p >>= f) Q v :=
  wp_seq (Contract.wp_mono h hf)

/-- **Returning**. -/
theorem wp_ret {a : α} {Q : α → View → Prop} (h : Q a v) :
    (contract nodeIP).wp i (pure a) Q v := h

end rules

end Virtink
